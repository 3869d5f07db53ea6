import DeliveryStore.Mailbox
import DeliveryStore.Proofs.Lists
import Mathlib.Tactic.Common

/-!
# What arguments say

An argument that passes its check says what the check takes from it. The readings below take it from
the value alone, without asking whether a call would be let through:

* `Argument.identifier_ok`, `Argument.name_ok_iff`, `Argument.payload_ok_iff`, … — what a check takes
  is what the value says;
* `Argument.recipients_ok` — of several recipients, each is taken once.
-/

namespace DeliveryStore

/-! ## Readings -/

namespace Value

/-- The identifier that a value is. -/
def identifier? : Value → Option Identifier
  | .uuid id => some id
  | .bytes _ content => Identifier.ofBytes? content
  | _ => none

/-- The name that a value is. -/
def name? : Value → Option Name
  | .text s => Name.of? s
  | _ => none

/-- The payload that a value is. What has no length is none. -/
def payload? : Value → Option Payload
  | .bytes _ content => if content = [] then none else Payload.of? content
  | .grid rows => if rows = [] then none else Payload.of? rows.flatten
  | _ => none

/-- The bytes that a value has for a payload, however many. -/
def content? : Value → Option (List UInt8)
  | .bytes _ content => if content = [] then none else some content
  | .grid rows => if rows = [] then none else some rows.flatten
  | _ => none

/-- The names that a value is a collection of. -/
def names? (v : Value) : Option (List Name) := v.elements?.bind fun items => items.mapM name?

/-- The instant that a value speaks of, nothing standing for the present. -/
def instantAt? (now : Moment) : Value → Option Instant
  | .null => some now.instant
  | .moment m => some m.instant
  | _ => none

end Value

namespace Argument

variable {v : Value} {field : String}

theorem identifier_ok {id : Identifier} (h : identifier v field = .ok id) :
    v.identifier? = some id := by
  unfold identifier at h
  split at h
  · cases h
    rfl
  · split at h
    · cases h
      assumption
    · cases h
  · split at h
    · cases h
      assumption
    · cases h
  · cases h

theorem name_ok_iff {n : Name} : name v field = .ok (.ok n) ↔ v.name? = some n := by
  unfold name Value.name?
  cases v with
  | text s =>
    dsimp only
    split
    · rename_i hempty
      have hnone : Name.of? s = none := by
        simp [Name.of?, hempty]
      simp [hnone]
    · rw [Except.ok.injEq, Name.bind_eq_ok_iff, Name.of?_eq_some_iff]
  | _ => simp

/-- The text of a name passes the check as that name. -/
theorem name_text (n : Name) (field : String) : name (.text n.text) field = .ok (.ok n) :=
  name_ok_iff.2 (Name.of?_eq_some_iff.2 rfl)

theorem payload_ok_iff {p : Payload} : payload v field = .ok (.ok p) ↔ v.payload? = some p := by
  unfold payload Value.payload?
  cases v with
  | bytes form content =>
    cases content with
    | nil => simp
    | cons b rest =>
      simp only [List.isEmpty_cons, Bool.false_eq_true, if_false, reduceCtorEq, Except.ok.injEq]
      rw [Payload.bind_eq_ok_iff, Payload.of?_eq_some_iff]
  | grid rows =>
    cases rows with
    | nil => simp
    | cons row rest =>
      simp only [List.isEmpty_cons, Bool.false_eq_true, if_false, reduceCtorEq, Except.ok.injEq]
      rw [Payload.bind_eq_ok_iff, Payload.of?_eq_some_iff]
  | _ => simp

/-- The check takes the bytes that a value has for a payload. -/
theorem payload_of_content {bytes : List UInt8} (h : v.content? = some bytes) :
    payload v field = .ok (Payload.bind bytes) := by
  cases v with
  | bytes form content =>
    cases content with
    | nil => cases h
    | cons b rest =>
      cases h
      rfl
  | grid rows =>
    cases rows with
    | nil => cases h
    | cons row rest =>
      cases h
      rfl
  | _ => cases h

/-- A check on every item of a list takes what each item says. -/
theorem mapM_name_ok_iff {items : List Value} {names : List Name} :
    (items.mapM fun item => name item field) = .ok (names.map .ok) ↔
      items.mapM Value.name? = some names := by
  induction items generalizing names with
  | nil => cases names <;> simp [pure, Except.pure]
  | cons item rest ih =>
    rw [List.mapM_cons, List.mapM_cons]
    constructor
    · intro h
      cases hi : name item field with
      | error f => simp [hi, bind, Except.bind] at h
      | ok first =>
        cases hr : rest.mapM fun item => name item field with
        | error f => simp [hi, hr, bind, Except.bind] at h
        | ok others =>
          simp only [hi, hr, bind, Except.bind, pure, Except.pure, Except.ok.injEq] at h
          cases names with
          | nil => cases h
          | cons n names =>
            obtain ⟨rfl, rfl⟩ := List.cons.inj h
            simp [name_ok_iff.1 hi, ih.1 hr]
    · intro h
      obtain ⟨n, hn, h⟩ := Option.bind_eq_some_iff.1 h
      obtain ⟨others, hothers, h⟩ := Option.bind_eq_some_iff.1 h
      obtain rfl := Option.some.inj h
      simp [name_ok_iff.2 hn, ih.2 hothers, bind, Except.bind, pure, Except.pure]

/-- What is neither a single text nor a grid is checked by its elements. -/
theorem recipients_of_elements (ht : ∀ s, v ≠ .text s) (hu : ∀ t, v ≠ .unpaired t)
    (hg : ∀ rows, v ≠ .grid rows) :
    recipients v =
      match v.elements? with
      | none => .error (.notIterable v.kindName)
      | some items => (items.mapM fun item => name item "recipient") >>= fun names =>
          if names.isEmpty then .error (.invalid .noRecipients)
          else .ok ((Bound.upTo names).1.eraseDups, (Bound.upTo names).2) := by
  cases v with
  | text s => exact absurd rfl (ht s)
  | unpaired t => exact absurd rfl (hu t)
  | grid rows => exact absurd rfl (hg rows)
  | _ => rfl

/-- Of several recipients, each is taken once, in the order in which they come first. -/
theorem recipients_ok {names : List Name} (h : recipients v = .ok (names, none)) :
    ∃ given, v.names? = some given ∧ given ≠ [] ∧ names = given.eraseDups := by
  unfold recipients at h
  split at h
  · cases h
  · cases h
  · cases h
  split at h
  · cases h
  rename_i items hitems
  cases hnames : items.mapM fun item => name item "recipient" with
  | error f =>
    rw [hnames] at h
    cases h
  | ok given =>
    simp only [hnames, bind, Except.bind] at h
    split at h
    · cases h
    rename_i hne
    obtain ⟨hall, hstop⟩ := Prod.mk.inj (Except.ok.inj h)
    -- Where no name stops the list, all of it was taken.
    obtain ⟨all, rfl⟩ : ∃ all : List Name, given = all.map .ok :=
      ⟨_, Bound.upTo_eq_none_iff.1 (Prod.ext rfl hstop)⟩
    have hupTo : (Bound.upTo (all.map .ok)).1 = all :=
      congrArg Prod.fst (Bound.upTo_eq_none_iff.2 rfl)
    rw [hupTo] at hall
    refine ⟨all, ?_, by simpa using hne, hall.symm⟩
    rw [Value.names?, hitems, Option.bind_some, mapM_name_ok_iff.1 hnames]

/-- A text with an unpaired surrogate is no collection of names, since the surrogate is none. -/
theorem names?_unpaired (t : Text.Unpaired) : (Value.unpaired t).names? = none := by
  have hsurrogate : ∀ before : List Char,
      ((before.map Sum.inl ++ Sum.inr t.surrogate :: t.after).map Value.ofPoint).mapM Value.name? =
        none := by
    intro before
    induction before with
    | nil => rfl
    | cons c rest ih =>
      simp only [List.map_cons, List.cons_append, List.mapM_cons, ih]
      cases (Value.ofPoint (.inl c)).name? <;> rfl
  exact hsurrogate t.before

/-- Names that are not given as a single text pass their check, as long as there are any. -/
theorem recipients_of_names {given : List Name} (ht : ∀ s, v ≠ .text s)
    (h : v.names? = some given) (hne : given ≠ []) :
    recipients v = .ok (given.eraseDups, none) := by
  obtain ⟨items, hitems, hnames⟩ := Option.bind_eq_some_iff.1 h
  have hupTo := Bound.upTo_eq_none_iff.2 (rfl : given.map Except.ok = given.map .ok)
  rw [recipients_of_elements ht ?_ ?_, hitems]
  · simp [mapM_name_ok_iff.2 hnames, bind, Except.bind, hne, hupTo]
  · rintro t rfl
    rw [names?_unpaired] at h
    cases h
  · rintro rows rfl
    cases hitems

/-- A time that passes its check is the stored form of the instant that the value speaks of. -/
theorem stamp_ok {now : Moment} {s : String} (h : stamp now v = .ok s) :
    ∃ i, v.instantAt? now = some i ∧ i.stamp? = some s := by
  have hwritten : ∀ {m : Moment}, written m = .ok s → m.instant.stamp? = some s := by
    intro m hm
    unfold written at hm
    split at hm
    · rename_i hs
      cases hm
      exact hs
    · cases hm
  unfold stamp at h
  split at h
  · unfold present at h
    split at h
    · cases h
    · exact ⟨_, rfl, hwritten h⟩
  · exact ⟨_, rfl, hwritten h⟩
  · cases h

end Argument

end DeliveryStore
