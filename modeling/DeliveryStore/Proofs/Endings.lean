import DeliveryStore.Proofs.Exits
import DeliveryStore.Proofs.Places
import DeliveryStore.Proofs.Reachable
import DeliveryStore.Proofs.Tables

/-!
# How operations end

An operation ends in one of a few ways, and each of them has its own note: what was carried out is
noted unless it only reads, a taken key as a conflict, a fault of storage as such, and nothing else is
noted. The number of deleted rows in a note is that of the rows which the data had before and have no
longer. Main statements:

* `Handle.perform_ends`, `Handle.initialise_ends` — the ways in which operations end;
* `Database.clashes_of_taken`, `Database.not_clashes_of_carryOut` — what is refused for a taken key
  would write a row under a key in use, and what is carried out would not;
* `Database.note_of_carryOut` — the note of what was carried out, by the rows that were lost;
* `Handle.ends_of_call` — a call that passes its checks ends as the data have it.
-/

namespace DeliveryStore

/-! ## Keys in use -/

/-- The key packages that a request is to write. -/
def KeyPackages.Request.fresh : KeyPackages.Request → List KeyPackage
  | .publish p => [p]
  | _ => []

/-- The messages that a request is to write. -/
def Mailbox.Request.fresh : Mailbox.Request → List Message
  | .enqueue m => [m]
  | .fanOut id recipients content createdAt =>
    recipients.map fun recipient => { id, recipient, content, createdAt }
  | .unbound before _ => before
  | _ => []

/-- The users that a request is to write. -/
def Identities.Request.fresh : Identities.Request → List User
  | .create u => [u]
  | _ => []

/-- A request that is to write a row under a key that is in use in its table. -/
def Request.Clashes (d : Database) : Request → Prop
  | .keyPackages r => ∃ p ∈ r.fresh, Table.holds KeyPackage.id d.rows.keyPackages p.id = true
  | .mailbox r => ∃ m ∈ r.fresh, Table.holds Mailbox.key d.rows.messages (Mailbox.key m) = true
  | .identities r => ∃ u ∈ r.fresh, Table.holds User.name d.rows.users u.name = true

section

variable {ρ κ : Type} [BEq κ] {key : ρ → κ} {fits : ρ → Bool} {rows rows' new : List ρ}

/-- Rows are refused for a taken key only if a key is in use. -/
theorem Table.holds_of_taken (h : insert key fits rows new = .error .taken) :
    ∃ r ∈ new, holds key rows (key r) = true := by
  rcases refusal_of_insert h with ⟨-, hheld⟩ | ⟨heq, -⟩
  · exact hheld
  · cases heq

/-- Rows are written only if no key is in use. -/
theorem Table.free_of_insert (h : insert key fits rows new = .ok rows') :
    ¬∃ r ∈ new, holds key rows (key r) = true := by
  rintro ⟨r, hr, hheld⟩
  have hfree := ((insert_eq_ok_iff.1 h).1 r hr).1
  cases hheld.symm.trans hfree

end

theorem KeyPackages.holds_of_taken {rows : List KeyPackage} {r : KeyPackages.Request}
    (h : r.apply rows = .error .taken) :
    ∃ p ∈ r.fresh, Table.holds KeyPackage.id rows p.id = true := by
  cases r with
  | publish p =>
    simp only [Request.apply] at h
    split at h
    · rename_i hinsert
      cases h
      exact Table.holds_of_taken hinsert
    · cases h
  | getById id | oldestForClient client =>
    simp only [Request.apply] at h
    split at h <;> cases h
  | listByClient client | countByClient client | remove id | unbound why => cases h

theorem KeyPackages.free_of_apply {rows : List KeyPackage} {r : KeyPackages.Request}
    {e : Effect KeyPackage} (h : r.apply rows = .ok e) :
    ¬∃ p ∈ r.fresh, Table.holds KeyPackage.id rows p.id = true := by
  cases r with
  | publish p =>
    simp only [Request.apply] at h
    split at h
    · cases h
    · rename_i hinsert
      exact Table.free_of_insert hinsert
  | _ => simp [Request.fresh]

theorem Mailbox.holds_of_taken {rows : List Message} {r : Mailbox.Request}
    (h : r.apply rows = .error .taken) :
    ∃ m ∈ r.fresh, Table.holds key rows (key m) = true := by
  cases r with
  | enqueue m | fanOut id recipients content createdAt | unbound before why =>
    simp only [Request.apply] at h
    split at h
    · rename_i hinsert
      cases h
      exact Table.holds_of_taken hinsert
    · cases h
  | fetch recipient limit =>
    cases limit with
    | none => cases h
    | some limit =>
      simp only [Request.apply] at h
      split at h <;> cases h
  | pendingCount recipient | acknowledge id recipient | purge recipient => cases h

theorem Mailbox.free_of_apply {rows : List Message} {r : Mailbox.Request} {e : Effect Message}
    (h : r.apply rows = .ok e) : ¬∃ m ∈ r.fresh, Table.holds key rows (key m) = true := by
  cases r with
  | enqueue m | fanOut id recipients content createdAt | unbound before why =>
    simp only [Request.apply] at h
    split at h
    · cases h
    · rename_i hinsert
      exact Table.free_of_insert hinsert
  | _ => simp [Request.fresh]

theorem Identities.holds_of_taken {rows : List User} {r : Identities.Request}
    (h : r.apply rows = .error .taken) :
    ∃ u ∈ r.fresh, Table.holds User.name rows u.name = true := by
  cases r with
  | create u =>
    simp only [Request.apply] at h
    split at h
    · rename_i hinsert
      cases h
      exact Table.holds_of_taken hinsert
    · cases h
  | get name =>
    simp only [Request.apply] at h
    split at h <;> cases h
  | delete name | unbound why => cases h

theorem Identities.free_of_apply {rows : List User} {r : Identities.Request} {e : Effect User}
    (h : r.apply rows = .ok e) : ¬∃ u ∈ r.fresh, Table.holds User.name rows u.name = true := by
  cases r with
  | create u =>
    simp only [Request.apply] at h
    split at h
    · cases h
    · rename_i hinsert
      exact Table.free_of_insert hinsert
  | _ => simp [Request.fresh]

namespace Database

variable {d : Database} {readOnly : Bool} {r : Request}

/-- A key is found taken where it is in use. -/
theorem clashes_of_taken (h : d.carryOut readOnly r = .error (.refusal .taken)) : r.Clashes d := by
  cases r with
  | keyPackages r =>
    obtain ⟨rows, htable, happly⟩ := refusal_of_onTable h
    simpa only [Request.Clashes, Database.rows, htable, Option.getD_some] using
      KeyPackages.holds_of_taken happly
  | mailbox r =>
    obtain ⟨rows, htable, happly⟩ := refusal_of_onTable h
    simpa only [Request.Clashes, Database.rows, htable, Option.getD_some] using
      Mailbox.holds_of_taken happly
  | identities r =>
    obtain ⟨rows, htable, happly⟩ := refusal_of_onTable h
    simpa only [Request.Clashes, Database.rows, htable, Option.getD_some] using
      Identities.holds_of_taken happly

/-- What cannot be handed over to storage is an argument at which the request stops. -/
theorem isBound_of_unfit {what : Unfit}
    (h : d.carryOut readOnly r = .error (.refusal (.unusable (.unfit what)))) :
    r.isBound = false := by
  cases r with
  | keyPackages r =>
    obtain ⟨rows, -, happly⟩ := refusal_of_onTable h
    rw [KeyPackages.Request.eq_unbound_of_unfit happly]
    rfl
  | mailbox r =>
    obtain ⟨rows, -, happly⟩ := refusal_of_onTable h
    obtain ⟨before, rfl⟩ := Mailbox.Request.eq_unbound_of_unfit happly
    rfl
  | identities r =>
    obtain ⟨rows, -, happly⟩ := refusal_of_onTable h
    rw [Identities.Request.eq_unbound_of_unfit happly]
    rfl

/-- What is carried out finds no key taken. -/
theorem not_clashes_of_carryOut {commit : Commit} (h : d.carryOut readOnly r = .ok commit) :
    ¬ r.Clashes d := by
  cases r with
  | keyPackages r =>
    obtain ⟨rows, e, htable, -, happly, -⟩ := onTable_map_ok h
    simpa only [Request.Clashes, Database.rows, htable, Option.getD_some] using
      KeyPackages.free_of_apply happly
  | mailbox r =>
    obtain ⟨rows, e, htable, -, happly, -⟩ := onTable_map_ok h
    simpa only [Request.Clashes, Database.rows, htable, Option.getD_some] using
      Mailbox.free_of_apply happly
  | identities r =>
    obtain ⟨rows, e, htable, -, happly, -⟩ := onTable_map_ok h
    simpa only [Request.Clashes, Database.rows, htable, Option.getD_some] using
      Identities.free_of_apply happly

end Database

/-! ## Rows that are lost -/

/-- How many of the rows in a list are not in another one. -/
def Table.lost {ρ : Type} [BEq ρ] (before after : List ρ) : Nat :=
  before.countP fun row => !after.contains row

/-- How many rows data have lost. -/
def Database.lost (before after : Database) : Nat :=
  Table.lost before.rows.keyPackages after.rows.keyPackages +
    Table.lost before.rows.messages after.rows.messages +
    Table.lost before.rows.users after.rows.users

namespace Table

variable {ρ : Type} [BEq ρ] [LawfulBEq ρ]

@[simp] theorem lost_self (rows : List ρ) : lost rows rows = 0 := by
  unfold lost
  rw [List.countP_eq_zero]
  intro row hrow
  simp [hrow]

/-- A filter loses the rows that do not pass it. -/
theorem lost_filter {p q : ρ → Bool} (hpq : ∀ row, p row = !q row) (rows : List ρ) :
    lost rows (rows.filter p) = rows.countP q := by
  unfold lost
  refine List.countP_congr fun row hrow => ?_
  simp [hrow, hpq]

end Table

/-! ## Notes of what was carried out -/

/-- The note of a request that was carried out and by which a number of rows were lost. What only reads
is not noted. -/
def Request.deed (lost : Nat) : Request → Option Note
  | .keyPackages (.publish p) =>
    some ⟨"PUBLISH", [("package_id", p.id.hex), ("client_id", p.client.text)]⟩
  | .keyPackages (.remove id) =>
    some ⟨"REMOVE", [("package_id", id.hex), ("deleted", lost.repr)]⟩
  | .mailbox (.enqueue m) =>
    some ⟨"ENQUEUE", [("message_id", m.id.hex), ("recipient", m.recipient.text)]⟩
  | .mailbox (.fanOut id recipients _ _) =>
    some ⟨"ENQUEUE_FANOUT", [("message_id", id.hex), ("recipients", recipients.length.repr)]⟩
  | .mailbox (.acknowledge id recipient) =>
    some ⟨"ACK",
      [("message_id", id.hex), ("recipient", recipient.text), ("deleted", lost.repr)]⟩
  | .mailbox (.purge recipient) =>
    some ⟨"PURGE", [("recipient", recipient.text), ("deleted", lost.repr)]⟩
  | .identities (.create u) => some ⟨"CREATE", [("username", u.name.text)]⟩
  | .identities (.delete name) =>
    some ⟨"DELETE", [("username", name.text), ("deleted", lost.repr)]⟩
  | _ => none

namespace Database

variable {d : Database} {readOnly : Bool} {commit : Commit}

/-- What was carried out has the note that the rows lost by it give it. -/
theorem note_of_carryOut {r : Request} (h : d.carryOut readOnly r = .ok commit) :
    commit.note = r.deed (d.lost commit.database) := by
  cases r with
  | keyPackages r =>
    obtain ⟨rows, e, htable, -, happly, rfl⟩ := onTable_map_ok h
    cases r with
    | publish p | getById id | oldestForClient client =>
      simp only [KeyPackages.Request.apply] at happly
      split at happly <;> cases happly
      rfl
    | listByClient client | countByClient client =>
      cases happly
      rfl
    | unbound why => cases happly
    | remove id =>
      cases happly
      have hlost : Table.lost rows (rows.filter (·.id != id)) = rows.countP (·.id == id) :=
        Table.lost_filter (fun _ => rfl) rows
      simp only [Request.deed, lost, Database.rows, htable, Option.getD_some, hlost, Table.lost_self,
        Nat.add_zero]
  | mailbox r =>
    obtain ⟨rows, e, htable, -, happly, rfl⟩ := onTable_map_ok h
    cases r with
    | enqueue m | fanOut id recipients content createdAt =>
      simp only [Mailbox.Request.apply] at happly
      split at happly <;> cases happly
      rfl
    | unbound before why => cases Mailbox.Request.isBound_of_apply happly
    | fetch recipient limit =>
      cases limit with
      | none =>
        cases happly
        rfl
      | some limit =>
        simp only [Mailbox.Request.apply] at happly
        split at happly <;> cases happly
        rfl
    | pendingCount recipient =>
      cases happly
      rfl
    | acknowledge id recipient =>
      cases happly
      have hlost : Table.lost rows (rows.filter (Mailbox.key · != (id, recipient))) =
          rows.countP (Mailbox.key · == (id, recipient)) := Table.lost_filter (fun _ => rfl) rows
      simp only [Request.deed, lost, Database.rows, htable, Option.getD_some, hlost, Table.lost_self,
        Nat.add_zero, Nat.zero_add]
    | purge recipient =>
      cases happly
      have hlost : Table.lost rows (rows.filter (·.recipient != recipient)) =
          rows.countP (·.recipient == recipient) := Table.lost_filter (fun _ => rfl) rows
      simp only [Request.deed, lost, Database.rows, htable, Option.getD_some, hlost, Table.lost_self,
        Nat.add_zero, Nat.zero_add]
  | identities r =>
    obtain ⟨rows, e, htable, -, happly, rfl⟩ := onTable_map_ok h
    cases r with
    | create u | get name =>
      simp only [Identities.Request.apply] at happly
      split at happly <;> cases happly
      rfl
    | unbound why => cases happly
    | delete name =>
      cases happly
      have hlost : Table.lost rows (rows.filter (·.name != name)) = rows.countP (·.name == name) :=
        Table.lost_filter (fun _ => rfl) rows
      simp only [Request.deed, lost, Database.rows, htable, Option.getD_some, hlost, Table.lost_self,
        Nat.zero_add]

end Database

namespace Handle

variable {h : Handle} {s : Storage}

/-- A request ends in one of four ways: its handle opens nothing fit for use; storage fails; the table
that it goes to refuses it, be it because a field or row is none that storage can take; or it is carried
out. -/
theorem perform_ends (h : Handle) (operation : String) (r : Request) (s : Storage) :
    let done := h.perform operation r s
    (∃ what, h.target = .error (.unfit what) ∧ done.outcome = .error (.unfit what) ∧
      done.note = none) ∨
    (∃ fault, done.outcome = .error (.unavailable operation fault) ∧
      done.note = some (r.store.group, Completion.unavailable operation fault.label)) ∨
    (∃ c s₁ refusal, h.enter s = (.ok c, s₁) ∧
      (s₁.read c).carryOut c.readOnly r = .error (.refusal refusal) ∧
      done.outcome = .error ((Obstacle.refusal refusal).failure operation) ∧
      done.note = (match refusal with
        | .taken => some (r.store.group, Completion.conflict operation r.conflictDetails)
        | .unusable (.storage fault) =>
          some (r.store.group, Completion.unavailable operation fault.label)
        | _ => none) ∧
      done.storage = s₁) ∨
    ∃ c s₁ commit, h.enter s = (.ok c, s₁) ∧ (s₁.read c).carryOut c.readOnly r = .ok commit ∧
      done.outcome = .ok commit.reply ∧ done.note = commit.note.map (r.store.group, ·) ∧
      (if r.writes then s₁.write c commit.database else .ok s₁) = .ok done.storage := by
  intro done
  rcases he : h.enter s with ⟨refusal | c, s₁⟩
  · cases refusal with
    | unfit what =>
      refine .inl ⟨what, target_of_enter (congrArg Prod.fst he), ?_⟩
      simp only [done, perform, he, and_self]
    | storage fault =>
      refine .inr (.inl ⟨s₁.faultFor h.number r.store fault, ?_⟩)
      simp only [done, perform, he, Completion.refused, and_self]
  rcases hc : (s₁.read c).carryOut c.readOnly r with (fault | refusal) | commit
  · refine .inr (.inl ⟨fault, ?_⟩)
    simp only [done, perform, he, hc, Completion.refused, and_self]
  · refine .inr (.inr (.inl ⟨c, s₁, refusal, rfl, hc, ?_⟩))
    cases refusal with
    | unusable why =>
      cases why <;> simp only [done, perform, he, hc, Obstacle.failure, Completion.refused, and_self]
    | _ => simp only [done, perform, he, hc, Obstacle.failure, and_self]
  rcases hw : (if r.writes then s₁.write c commit.database else .ok s₁) with fault | s₂
  · refine .inr (.inl ⟨fault, ?_⟩)
    simp only [done, perform, he, hc, hw, Completion.refused, and_self]
  · refine .inr (.inr (.inr ⟨c, s₁, commit, rfl, hc, ?_⟩))
    simp only [done, perform, he, hc, hw, and_self]

/-! ## Endings -/

/-- How a request on a handle ends, with its note, where storage is `s` before and `s'` after it. -/
inductive Ends (h : Handle) (s s' : Storage) (operation : String) (r : Request) :
    Except Failure (Reply Row) → Option Note → Prop where
  | carriedOut {d d' : Database} (reply : Reply Row) (before : (h.view id s).outcome = .ok d)
      (after : (h.view id s').outcome = .ok d') (free : ¬ r.Clashes d) :
      Ends h s s' operation r (.ok reply) (r.deed (d.lost d'))
  | taken {d : Database} (before : (h.view id s).outcome = .ok d) (clashes : r.Clashes d) :
      Ends h s s' operation r (.error (.conflict operation))
        (some (Completion.conflict operation r.conflictDetails))
  | unavailable (fault : StorageFault) :
      Ends h s s' operation r (.error (.unavailable operation fault))
        (some (Completion.unavailable operation fault.label))
  | absent (what : Absence) : Ends h s s' operation r (.error (.absent what)) none
  | overrun : Ends h s s' operation r (.error .limitTooLarge) none
  | unfit {what : Unfit} (target : h.target = .error (.unfit what)) :
      Ends h s s' operation r (.error (.unfit what)) none
  | unbound {what : Unfit} (stops : r.isBound = false) :
      Ends h s s' operation r (.error (.unfit what)) none

/-- A handle that has entered sees the same data before and after that. -/
theorem view_of_enter {c : Channel} {s₁ : Storage} (he : h.enter s = (.ok c, s₁)) :
    (h.view id s).outcome = .ok (s₁.read c) ∧ (h.view id s₁).outcome = .ok (s₁.read c) := by
  obtain ⟨⟨target, ht⟩, known, hstands⟩ := stands_of_enter he
  have hagain := enter_of_stands ht hstands
  constructor
  · simp only [view, he, id]
  · simp only [view, hagain, id]
    rfl

/-- In sound storage a handle sees what it has written. -/
theorem view_of_write {c : Channel} {s₁ s₂ : Storage} {data : Database} (hs : s.Sound)
    (he : h.enter s = (.ok c, s₁)) (hr : c.readOnly = false) (hw : s₁.write c data = .ok s₂) :
    (h.view id s₂).outcome = .ok data := by
  -- Entering keeps storage sound, and a channel that stands there takes what is written.
  have hsound : s₁.Sound := by
    have hentered := Storage.invariant_sound.enter (n := h.number + 1)
      ⟨Nat.lt_succ_self h.number, fun _ _ => trivial⟩ hs
    rwa [he] at hentered
  obtain ⟨-, known, hstands⟩ := stands_of_enter he
  have haccepts := hstands.accepts hsound hr hw
  obtain ⟨s₂', hw', hserves⟩ := serves_of_write he hr ⟨haccepts.thawed, haccepts.file⟩ data
  cases hw.symm.trans hw'
  exact hserves.view id

/-- A request on sound storage ends in one of the ways that there are, and its note is that of the
ending, in the group of its store. -/
theorem ends_of_perform (hs : s.Sound) (operation : String) (r : Request) :
    ∃ note, (h.perform operation r s).note = note.map (r.store.group, ·) ∧
      h.Ends s (h.perform operation r s).storage operation r (h.perform operation r s).outcome
        note := by
  rcases h.perform_ends operation r s with ⟨what, htarget, houtcome, hnote⟩ |
    ⟨fault, houtcome, hnote⟩ | ⟨c, s₁, refusal, he, hc, houtcome, hnote, -⟩ |
    ⟨c, s₁, commit, he, hc, houtcome, hnote, hwritten⟩
  · rw [houtcome, hnote]
    exact ⟨none, rfl, .unfit htarget⟩
  · rw [houtcome, hnote]
    exact ⟨some _, rfl, .unavailable fault⟩
  · rw [houtcome, hnote]
    cases refusal with
    | taken => exact ⟨some _, rfl, .taken (view_of_enter he).1 (Database.clashes_of_taken hc)⟩
    | absent what => exact ⟨none, rfl, .absent what⟩
    | limitTooLarge => exact ⟨none, rfl, .overrun⟩
    | unusable why =>
      cases why with
      | storage fault => exact ⟨some _, rfl, .unavailable fault⟩
      | unfit what => exact ⟨none, rfl, .unbound (Database.isBound_of_unfit hc)⟩
  · rw [houtcome, hnote]
    refine ⟨commit.note, rfl, ?_⟩
    rw [Database.note_of_carryOut hc]
    refine .carriedOut _ (view_of_enter he).1 ?_ (Database.not_clashes_of_carryOut hc)
    -- What was only read is there as before, and what was written is read back.
    cases hwrites : r.writes with
    | false =>
      rw [hwrites] at hwritten
      cases hwritten
      rw [Database.database_of_carryOut hc hwrites]
      exact (view_of_enter he).2
    | true =>
      rw [hwrites, if_pos rfl] at hwritten
      exact view_of_write hs he (Database.readOnly_of_carryOut hc hwrites) hwritten

/-- A call that its handle offers is refused by its checks and not noted, or ends as its request does. -/
theorem ends_of_call (hs : s.Sound) {c : Call} (hoffers : h.role.stores.contains c.store = true)
    (now : Moment) :
    (∃ f, c.check now = .error f ∧ h.call now c s = { outcome := .error f, storage := s }) ∨
    ∃ r note, c.check now = .ok r ∧ (h.call now c s).note = note.map (c.store.group, ·) ∧
      h.Ends s (h.call now c s).storage c.operation r (h.call now c s).outcome note := by
  cases hr : c.check now with
  | error f => exact .inl ⟨f, rfl, call_of_check_error s hoffers hr⟩
  | ok r =>
    have hcall : h.call now c s = h.perform c.operation r s := call_of_check s hoffers hr
    obtain ⟨note, hnote, hends⟩ := ends_of_perform (h := h) hs c.operation r
    refine .inr ⟨r, note, rfl, ?_, ?_⟩
    · rw [hcall, hnote, Call.store_of_check hr]
    · rwa [hcall]

/-- Making tables is noted if it succeeds or storage fails; otherwise the handle opens nothing fit for
use, or has no tables, and nothing is noted. -/
theorem initialise_ends (h : Handle) (s : Storage) :
    let done := h.initialise s
    (done.outcome = .ok () ∧
      done.note = some (Completion.schemaGroup, initialised h.role.stores)) ∨
    (∃ fault, done.outcome = .error (.unavailable "init" fault) ∧
      done.note = some (Completion.schemaGroup, Completion.unavailable "init" fault.label)) ∨
    (∃ what, h.target = .error (.unfit what) ∧ done.outcome = .error (.unfit what) ∧
      done.note = none) ∨
    h.role = .base ∧ done.note = none := by
  intro done
  rcases he : h.enter s with ⟨refusal | c, s₁⟩
  · cases refusal with
    | unfit what =>
      refine .inr (.inr (.inl ⟨what, target_of_enter (congrArg Prod.fst he), ?_⟩))
      simp only [done, initialise, he, and_self]
    | storage fault =>
      refine .inr (.inl ⟨fault, ?_⟩)
      simp only [done, initialise, he, Completion.refused, and_self]
  by_cases hrole : h.role = .base
  · refine .inr (.inr (.inr ⟨hrole, ?_⟩))
    simp only [done, initialise, he, hrole, Role.stores, List.isEmpty_nil, if_true]
  have hstores : h.role.stores.isEmpty = false := by
    cases hr : h.role with
    | base => exact absurd hr hrole
    | server | client => rfl
  rcases hensure : (s₁.read c).ensure c.readOnly h.role.stores with fault | data
  · refine .inr (.inl ⟨fault, ?_⟩)
    simp only [done, initialise, he, hstores, hensure, Completion.refused, Bool.false_eq_true,
      if_false, and_self]
  rcases hw : (if c.readOnly then .ok s₁ else s₁.write c data) with fault | s₂
  · refine .inr (.inl ⟨fault, ?_⟩)
    simp only [done, initialise, he, hstores, hensure, hw, Completion.refused, Bool.false_eq_true,
      if_false, and_self]
  · refine .inl ?_
    simp only [done, initialise, he, hstores, hensure, hw, Bool.false_eq_true, if_false, and_self]

end Handle

end DeliveryStore
