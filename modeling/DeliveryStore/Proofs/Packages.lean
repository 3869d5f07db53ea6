import DeliveryStore.Proofs.Arguments
import DeliveryStore.Proofs.Errands
import DeliveryStore.Proofs.Tables

/-!
# Calls to the store of key packages

What a server with a table of key packages does with calls. Calls to the store are carried out on that
table alone, and other calls leave it alone:

* `Database.answer_keyPackages` — a call to the store, on the rows of its table;
* `Database.keyPackages_of_answer`, `Database.keyPackages_of_furnish` — what leaves the table alone;
* `KeyPackages.check_publish`, `KeyPackages.check_remove`, … — what a call that passes its checks asks
  for.
-/

namespace DeliveryStore

/-! ## Answers -/

namespace Database

variable {d : Database} {role : Role} {readOnly : Bool} {now : Moment} {rows : List KeyPackage}

/-- A call to the store is carried out on the rows of its table. -/
theorem answer_keyPackages (readOnly : Bool) (now : Moment) (hrole : role = .server)
    (hd : d.keyPackages = some rows) (c : KeyPackages.Call) :
    d.answer role readOnly now (.keyPackages c) =
      match c.check now with
      | .error f => (.error f, d)
      | .ok r =>
        if r.writes && readOnly then (.error (.unavailable c.operation .readOnly), d)
        else
          match r.apply rows with
          | .error refusal => (.error ((Obstacle.refusal refusal).failure c.operation), d)
          | .ok e => (.ok (e.reply.map .keyPackage), { d with keyPackages := some e.rows }) := by
  have hoffers : role.stores.contains (Call.keyPackages c).store = true := by
    subst hrole
    rfl
  have hcarry : ∀ r : KeyPackages.Request, d.carryOut readOnly (.keyPackages r) =
      (onTable .keyPackages (some rows) r.writes readOnly fun rows => r.apply rows).map fun e =>
        ⟨{ d with keyPackages := some e.rows }, e.reply.map .keyPackage, e.note⟩ := by
    intro r
    rw [← hd]
    rfl
  have hcheck : (Call.keyPackages c).check now = (c.check now).map .keyPackages := rfl
  rw [answer_onTable hoffers hcarry hcheck]
  cases c.check now with
  | error f => rfl
  | ok r =>
    dsimp only
    cases r.apply rows <;> rfl

/-- A call to another store leaves the key packages alone. -/
theorem keyPackages_of_answer {c : Call} (hc : ∀ m, c ≠ .keyPackages m) :
    (d.answer role readOnly now c).2.keyPackages = d.keyPackages := by
  have hstore : Store.keyPackages ≠ c.store := by
    cases c with
    | keyPackages m => exact absurd rfl (hc m)
    | mailbox m | identities m => exact Store.noConfusion
  exact only_keyPackages_inj.1 (answer_elsewhere hstore)

/-- Making tables leaves the key packages alone that there are. -/
theorem keyPackages_of_furnish (hd : d.keyPackages = some rows) :
    (d.furnish role readOnly).2.keyPackages = some rows := by
  have hhas : d.has .keyPackages = true := by simp only [has, hd, Option.isSome_some]
  exact (only_keyPackages_inj.1 (furnish_only_of_has hhas role readOnly)).trans hd

end Database

/-! ## Checks -/

namespace KeyPackages

variable {now : Moment} {r : Request}

/-- What a publication writes that passes its checks, and whose arguments can be put into a statement,
is what its arguments say. -/
theorem check_publish {id client package createdAt : Value}
    (h : (Call.publish id client package createdAt).check now = .ok r) (hb : r.isBound = true) :
    ∃ p : KeyPackage, r = .publish p ∧ id.identifier? = some p.id ∧
      client.name? = some p.client ∧ package.payload? = some p.package ∧
      ∃ i, createdAt.instantAt? now = some i ∧ i.stamp? = some p.createdAt := by
  simp only [Call.check, bind, Except.bind] at h
  split at h
  · cases h
  rename_i vid hid
  split at h
  · cases h
  rename_i vclient hclient
  split at h
  · cases h
  rename_i vpackage hpackage
  split at h
  · cases h
  rename_i vcreated hcreated
  cases h
  cases vclient with
  | error why => cases hb
  | ok name =>
  cases vpackage with
  | error why => cases hb
  | ok payload =>
  exact ⟨_, rfl, Argument.identifier_ok hid, Argument.name_ok_iff.1 hclient,
    Argument.payload_ok_iff.1 hpackage, Argument.stamp_ok hcreated⟩

/-- A removal that passes its check is of the package that its argument names. -/
theorem check_remove {id : Value} (h : (Call.remove id).check now = .ok r) :
    ∃ vid, r = .remove vid ∧ id.identifier? = some vid := by
  simp only [Call.check, bind, Except.bind] at h
  split at h
  · cases h
  rename_i vid hid
  cases h
  exact ⟨vid, rfl, Argument.identifier_ok hid⟩

/-- A call that passes its checks writes only if it publishes or removes. -/
theorem check_reading {c : Call} (h : c.check now = .ok r)
    (hp : ∀ id client package createdAt, c ≠ .publish id client package createdAt)
    (hr : ∀ id, c ≠ .remove id) : r.writes = false := by
  cases c with
  | publish id client package createdAt => exact absurd rfl (hp id client package createdAt)
  | remove id => exact absurd rfl (hr id)
  | getById v =>
    simp only [Call.check, bind, Except.bind] at h
    split at h <;> cases h
    rfl
  | listByClient v | oldestForClient v | countByClient v =>
    simp only [Call.check, bind, Except.bind] at h
    split at h
    · cases h
    rename_i client hclient
    cases h
    cases client <;> rfl

end KeyPackages

end DeliveryStore
