import DeliveryStore.Database

/-!
# What checks fail with

A check fails for a flaw of its argument, except in two places: the time of a record is written down,
for which it has to be a moment that has a stored form, and recipients are gone through one by one, for
which they have to be a collection. `Argument.Fails` is a property of all failures of a check. Main
statement:

* `Call.fails_check` — what the checks of a call fail with.
-/

namespace DeliveryStore

namespace Argument

variable {α β : Type} {P : Failure → Prop} {v : Value} {field : String} {f : Failure}

/-- A check that fails, if it does, with what has a property. -/
def Fails (P : Failure → Prop) (x : Except Failure α) : Prop := ∀ f, x = .error f → P f

theorem fails_ok (a : α) : Fails P (.ok a : Except Failure α) := by
  intro f hf
  cases hf

theorem fails_error (hf : P f) : Fails P (.error f : Except Failure α) := by
  rintro _ ⟨⟩
  exact hf

theorem Fails.bind {x : Except Failure α} {next : α → Except Failure β} (hx : Fails P x)
    (hnext : ∀ a, Fails P (next a)) : Fails P (x >>= next) := by
  cases x with
  | error f => exact fails_error (hx f rfl)
  | ok a => exact hnext a

theorem Fails.map {x : Except Failure α} (hx : Fails P x) (g : α → β) : Fails P (x.map g) := by
  cases x with
  | error f => exact fails_error (hx f rfl)
  | ok a => exact fails_ok (g a)

/-- A check on every item of a list fails with what the check on an item fails with. -/
theorem fails_mapM {check : Value → Except Failure α} (hcheck : ∀ item, Fails P (check item))
    (items : List Value) : Fails P (items.mapM check) := by
  induction items with
  | nil => exact fails_ok _
  | cons item rest ih =>
    rw [List.mapM_cons]
    exact (hcheck item).bind fun _ => ih.bind fun _ => fails_ok _

section

variable (hflaw : ∀ flaw, P (.invalid flaw))
include hflaw

theorem fails_identifier : Fails P (identifier v field) := by
  unfold identifier
  split
  · exact fails_ok _
  · split
    · exact fails_ok _
    · exact fails_error (hflaw _)
  · split
    · exact fails_ok _
    · exact fails_error (hflaw _)
  · exact fails_error (hflaw _)

theorem fails_name : Fails P (name v field) := by
  unfold name
  split
  · split
    · exact fails_error (hflaw _)
    · exact fails_ok _
  · exact fails_ok _
  · exact fails_error (hflaw _)

theorem fails_payload : Fails P (payload v field) := by
  unfold payload
  split
  · split
    · exact fails_error (hflaw _)
    · exact fails_ok _
  · split
    · exact fails_error (hflaw _)
    · exact fails_ok _
  · exact fails_error (hflaw _)

theorem fails_limit : Fails P (limit v) := by
  unfold limit
  split
  · exact fails_ok _
  · split
    · exact fails_ok _
    · exact fails_error (hflaw _)
  · exact fails_error (hflaw _)

/-- The check on recipients fails for a flaw, or because they are no collection or one that cannot be
gone through. -/
theorem fails_recipients (hv : v.elements? = none → P (.notIterable v.kindName))
    (hgrid : (∃ rows, v = .grid rows) → P .severalDimensions) : Fails P (recipients v) := by
  unfold recipients
  split
  · exact fails_error (hflaw _)
  · exact fails_error (hflaw _)
  · exact fails_error (hgrid ⟨_, rfl⟩)
  split
  · rename_i hnone
    exact fails_error (hv hnone)
  · refine (fails_mapM (fun _ => fails_name hflaw) _).bind fun names => ?_
    split
    · exact fails_error (hflaw _)
    · exact fails_ok _

end

end Argument

namespace Call

/-- The time that a call gives for its records. -/
def time? : Call → Option Value
  | .keyPackages (.publish _ _ _ createdAt) => some createdAt
  | .mailbox (.enqueue _ _ _ createdAt) | .mailbox (.fanOut _ _ _ createdAt) => some createdAt
  | _ => none

/-- The recipients that a call gives as one argument. -/
def recipients? : Call → Option Value
  | .mailbox (.fanOut _ recipients _ _) => some recipients
  | _ => none

open Argument

/-- The checks of a call fail for a flaw of an argument, or as the writing of its time fails, or as the
check on its recipients does. -/
theorem fails_check {P : Failure → Prop} {c : Call} {now : Moment}
    (hflaw : ∀ flaw, P (.invalid flaw))
    (htime : ∀ v, c.time? = some v → Fails P (stamp now v))
    (hrecipients : ∀ v, c.recipients? = some v → Fails P (recipients v)) :
    Fails P (c.check now) := by
  have hid {v : Value} {field : String} : Fails P (identifier v field) := fails_identifier hflaw
  have hname {v : Value} {field : String} : Fails P (name v field) := fails_name hflaw
  have hpayload {v : Value} {field : String} : Fails P (payload v field) := fails_payload hflaw
  cases c with
  | keyPackages c =>
    refine Fails.map ?_ _
    cases c with
    | publish id client package createdAt =>
      exact hid.bind fun _ => hname.bind fun _ => hpayload.bind fun _ =>
        (htime createdAt rfl).bind fun _ => fails_ok _
    | getById id | remove id => exact hid.bind fun _ => fails_ok _
    | listByClient client | oldestForClient client | countByClient client =>
      exact hname.bind fun _ => fails_ok _
  | mailbox c =>
    refine Fails.map ?_ _
    cases c with
    | enqueue id recipient content createdAt =>
      exact hid.bind fun _ => hname.bind fun _ => hpayload.bind fun _ =>
        (htime createdAt rfl).bind fun _ => fails_ok _
    | fanOut id recipients content createdAt =>
      exact hid.bind fun _ => hpayload.bind fun _ => (hrecipients recipients rfl).bind fun _ =>
        (htime createdAt rfl).bind fun _ => fails_ok _
    | fetch recipient limit =>
      exact hname.bind fun _ => (fails_limit hflaw).bind fun _ => fails_ok _
    | acknowledge id recipient => exact hid.bind fun _ => hname.bind fun _ => fails_ok _
    | pendingCount recipient | purge recipient => exact hname.bind fun _ => fails_ok _
  | identities c =>
    refine Fails.map ?_ _
    cases c with
    | create name privateKey credential =>
      exact hname.bind fun _ => hpayload.bind fun _ => hpayload.bind fun _ => fails_ok _
    | get name | delete name => exact hname.bind fun _ => fails_ok _

end Call

end DeliveryStore
