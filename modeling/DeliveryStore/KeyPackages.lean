import DeliveryStore.Argument
import DeliveryStore.Record
import DeliveryStore.Table

/-!
# The store of key packages

Clients publish key packages; others look them up by client and take them out. An identifier is
never used for two packages at once. A `Call` is a request that nobody has checked, `Call.check`
turns it into a `Request`, and `Request.apply` carries that out on the table.
-/

namespace DeliveryStore.KeyPackages

/-- The group under which the log keeps the store's entries. -/
def group : String := "KeyPackages"

/-- An unchecked request. -/
inductive Call where
  | publish (id client package createdAt : Value)
  | getById (id : Value)
  | listByClient (client : Value)
  | oldestForClient (client : Value)
  | countByClient (client : Value)
  | remove (id : Value)

/-- A checked request. The last stops at an argument that cannot be put into a statement. -/
inductive Request where
  | publish (package : KeyPackage)
  | getById (id : Identifier)
  | listByClient (client : Name)
  | oldestForClient (client : Name)
  | countByClient (client : Name)
  | remove (id : Identifier)
  | unbound (why : Unusable)
deriving DecidableEq, Repr

/-- The request of arguments that can be put into one statement, or that stops there. -/
def Request.ofBound : Bound Request → Request
  | .ok r => r
  | .error why => .unbound why

/-- The name of a call, as messages give it. -/
def Call.operation : Call → String
  | publish _ _ _ _ => "publish"
  | getById _ => "get_by_id"
  | listByClient _ => "list_by_client"
  | oldestForClient _ => "oldest_for_client"
  | countByClient _ => "count_by_client"
  | remove _ => "remove"

/-- Checks the arguments in order; a package that does not say when it was made is made now. -/
def Call.check (now : Moment) : Call → Except Failure Request
  | publish id client package createdAt => do
    let id ← Argument.identifier id "package_id"
    let client ← Argument.name client "client_id"
    let package ← Argument.payload package "package"
    let createdAt ← Argument.stamp now createdAt
    return .ofBound do
      return .publish { id, client := ← client, package := ← package, createdAt }
  | getById id => return .getById (← Argument.identifier id "package_id")
  | listByClient client => do
    let client ← Argument.name client "client_id"
    return .ofBound (client.map .listByClient)
  | oldestForClient client => do
    let client ← Argument.name client "client_id"
    return .ofBound (client.map .oldestForClient)
  | countByClient client => do
    let client ← Argument.name client "client_id"
    return .ofBound (client.map .countByClient)
  | remove id => return .remove (← Argument.identifier id "package_id")

/-- Earlier packages come first, and of two made at the same time the one with the lesser
identifier. -/
def before (p q : KeyPackage) : Bool :=
  p.createdAt < q.createdAt || (p.createdAt == q.createdAt && p.id.bytes ≤ q.id.bytes)

/-- The packages of a client in order. -/
def ofClient (client : Name) (rows : List KeyPackage) : List KeyPackage :=
  (rows.filter (·.client == client)).mergeSort before

namespace Request

/-- Whether a request writes to the table. -/
def writes : Request → Bool
  | publish _ | remove _ => true
  | _ => false

/-- Whether all arguments of a request can be put into its statement. -/
def isBound : Request → Bool
  | unbound _ => false
  | _ => true

/-- What the log says of an insertion that finds its key taken. -/
def conflictDetails : Request → List (String × String)
  | publish p => [("package_id", p.id.hex)]
  | _ => []

/-- Carries out a request. -/
def apply (rows : List KeyPackage) : Request → Except Refusal (Effect KeyPackage)
  | publish p =>
    match Table.insert KeyPackage.id KeyPackage.fits rows [p] with
    | .error refusal => .error refusal
    | .ok rows => .ok
        { rows
          reply := .row p
          note := some ⟨"PUBLISH", [("package_id", p.id.hex), ("client_id", p.client.text)]⟩ }
  | getById id =>
    match Table.find? KeyPackage.id id rows with
    | some p => .ok { rows, reply := .row p }
    | none => .error (.absent (.keyPackage id.hex))
  | listByClient client => .ok { rows, reply := .rows (ofClient client rows) }
  | oldestForClient client =>
    match (ofClient client rows).head? with
    | some p => .ok { rows, reply := .row p }
    | none => .error (.absent (.packageOfClient client.text))
  | countByClient client => .ok { rows, reply := .count (rows.countP (·.client == client)) }
  | remove id => .ok
      { rows := rows.filter (·.id != id)
        reply := .nothing
        note := some ⟨"REMOVE",
          [("package_id", id.hex), ("deleted", (rows.countP (·.id == id)).repr)]⟩ }
  | unbound why => .error (.unusable why)

/-- A request that does not write leaves the rows as they were. -/
theorem apply_rows {r : Request} {rows : List KeyPackage} {e : Effect KeyPackage}
    (hr : r.writes = false) (he : r.apply rows = .ok e) : e.rows = rows := by
  cases r <;> simp only [writes, Bool.true_eq_false] at hr <;> simp only [apply] at he <;>
    (try split at he) <;> cases he <;> rfl

/-- What is carried out does not stop at an argument. -/
theorem isBound_of_apply {r : Request} {rows : List KeyPackage} {e : Effect KeyPackage}
    (he : r.apply rows = .ok e) : r.isBound = true := by
  cases r with
  | unbound why => cases he
  | _ => rfl

/-- What cannot be handed over to the database is an argument at which the request stops. -/
theorem eq_unbound_of_unfit {r : Request} {rows : List KeyPackage} {what : Unfit}
    (he : r.apply rows = .error (.unusable (.unfit what))) : r = .unbound (.unfit what) := by
  cases r with
  | unbound why =>
    cases he
    rfl
  | publish p =>
    simp only [apply] at he
    split at he
    · rename_i hinsert
      cases he
      exact absurd hinsert (Table.insert_ne_unfit what)
    · cases he
  | getById id | oldestForClient client =>
    simp only [apply] at he
    split at he <;> cases he
  | listByClient client | countByClient client | remove id => cases he

end Request

end DeliveryStore.KeyPackages
