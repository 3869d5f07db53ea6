import DeliveryStore.Failure

/-!
# Names and payloads

The two kinds of field that the stores require to be filled: names of clients, recipients and
users, and the bytes that are kept for them. A `Name` and a `Payload` are fields as the database can
keep them. `Bound` is what becomes of a checked argument when it is put into a statement: one that
the database has no form for, or that is too big for it, is refused there and not before.
-/

namespace DeliveryStore

/-- What becomes of a checked argument in a statement: the field that it is, or why it cannot be put
there. -/
abbrev Bound (α : Type) := Except Unusable α

namespace Bound

/-- How many bytes a field may take, or a row. -/
def greatestSize : Nat := 1000000000

/-- How many bytes can be handed over to the database at all. -/
def greatestLength : Nat := 2147483647

/-- Why something of a size beyond the greatest is refused. -/
def oversize (kind : String) (size : Nat) : Unusable :=
  if greatestLength < size then .unfit (.overlong kind) else .storage .tooBig

/-- The fields before the first argument that is refused, and why that is refused, if one is. -/
def upTo {α : Type} : List (Bound α) → List α × Option Unusable
  | [] => ([], none)
  | .ok a :: rest => (a :: (upTo rest).1, (upTo rest).2)
  | .error why :: _ => ([], some why)

end Bound

/-- A text that is not empty and not too big. Names are told apart character by character. -/
structure Name where
  text : String
  fits : text ≠ "" ∧ Text.Utf8.size text ≤ Bound.greatestSize
deriving DecidableEq, Repr

/-- Bytes that are not too big. The stores never look inside. -/
structure Payload where
  bytes : List UInt8
  fits : bytes.length ≤ Bound.greatestSize
deriving DecidableEq, Repr

/-- The name with this text, unless it is empty or too big. -/
def Name.of? (s : String) : Option Name :=
  if h : s ≠ "" ∧ Text.Utf8.size s ≤ Bound.greatestSize then some ⟨s, h⟩ else none

/-- The payload with these bytes, unless they are too big. -/
def Payload.of? (bytes : List UInt8) : Option Payload :=
  if h : bytes.length ≤ Bound.greatestSize then some ⟨bytes, h⟩ else none

/-- What becomes of a text that is not empty. -/
def Name.bind (s : String) : Bound Name :=
  match of? s with
  | some n => .ok n
  | none => .error (Bound.oversize "string" (Text.Utf8.size s))

/-- What becomes of bytes. -/
def Payload.bind (bytes : List UInt8) : Bound Payload :=
  match of? bytes with
  | some p => .ok p
  | none => .error (Bound.oversize "BLOB" bytes.length)

@[ext] theorem Name.ext {a b : Name} (h : a.text = b.text) : a = b := by
  cases a; cases b; simp_all

@[ext] theorem Payload.ext {a b : Payload} (h : a.bytes = b.bytes) : a = b := by
  cases a; cases b; simp_all

theorem Name.text_ne (n : Name) : n.text ≠ "" := n.fits.1

/-- Exactly the texts that are not empty and not too big are names. -/
theorem Name.of?_eq_some_iff {s : String} {n : Name} : of? s = some n ↔ s = n.text := by
  constructor
  · intro h
    unfold of? at h
    split at h
    · cases h; rfl
    · cases h
  · rintro rfl
    simp [of?, n.fits]

/-- Exactly the byte strings that are not too big are payloads. -/
theorem Payload.of?_eq_some_iff {bs : List UInt8} {p : Payload} :
    of? bs = some p ↔ bs = p.bytes := by
  constructor
  · intro h
    unfold of? at h
    split at h
    · cases h; rfl
    · cases h
  · rintro rfl
    simp [of?, p.fits]

theorem Name.bind_eq_ok_iff {s : String} {n : Name} : bind s = .ok n ↔ s = n.text := by
  rw [← of?_eq_some_iff]
  unfold bind
  cases of? s <;> simp

theorem Payload.bind_eq_ok_iff {bs : List UInt8} {p : Payload} : bind bs = .ok p ↔ bs = p.bytes := by
  rw [← of?_eq_some_iff]
  unfold bind
  cases of? bs <;> simp

/-- What is beyond the greatest size is too long to be handed over, or too big. -/
theorem Bound.oversize_cases (kind : String) (size : Nat) :
    (greatestLength < size ∧ oversize kind size = .unfit (.overlong kind)) ∨
      oversize kind size = .storage .tooBig := by
  unfold oversize
  split
  · rename_i hlong
    exact .inl ⟨hlong, rfl⟩
  · exact .inr rfl

/-- A text is refused as too long to be handed over, or as too big. -/
theorem Name.bind_eq_error {s : String} {why : Unusable} (h : bind s = .error why) :
    (Bound.greatestLength < Text.Utf8.size s ∧ why = .unfit (.overlong "string")) ∨
      why = .storage .tooBig := by
  unfold bind at h
  split at h
  · cases h
  · cases h
    exact Bound.oversize_cases _ _

/-- So are bytes. -/
theorem Payload.bind_eq_error {bytes : List UInt8} {why : Unusable} (h : bind bytes = .error why) :
    (Bound.greatestLength < bytes.length ∧ why = .unfit (.overlong "BLOB")) ∨
      why = .storage .tooBig := by
  unfold bind at h
  split at h
  · cases h
  · cases h
    exact Bound.oversize_cases _ _

namespace Bound

variable {α : Type}

/-- No argument is refused exactly if each becomes a field. -/
theorem upTo_eq_none_iff {args : List (Bound α)} {fields : List α} :
    upTo args = (fields, none) ↔ args = fields.map .ok := by
  induction args generalizing fields with
  | nil => cases fields <;> simp [upTo]
  | cons arg rest ih =>
    cases arg with
    | error why => cases fields <;> simp [upTo]
    | ok a =>
      cases fields with
      | nil => simp [upTo]
      | cons b fields =>
        have hrest := @ih fields
        simp only [Prod.ext_iff] at hrest
        simp only [upTo, Prod.mk.injEq, List.cons.injEq, List.map_cons, Except.ok.injEq, ← hrest,
          and_assoc]

end Bound

end DeliveryStore
