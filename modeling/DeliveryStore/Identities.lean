import DeliveryStore.Argument
import DeliveryStore.Record
import DeliveryStore.Table

/-!
# The store of identities

The keys of the users of one client. A name has keys or has none; keys are never replaced, so that
new ones can come only after the old ones have been deleted.
-/

namespace DeliveryStore.Identities

/-- The group under which the log keeps the store's entries. -/
def group : String := "Identity"

/-- An unchecked request. -/
inductive Call where
  | create (name privateKey credential : Value)
  | get (name : Value)
  | delete (name : Value)

/-- A checked request. The last stops at an argument that cannot be put into a statement. -/
inductive Request where
  | create (user : User)
  | get (name : Name)
  | delete (name : Name)
  | unbound (why : Unusable)
deriving DecidableEq, Repr

/-- The request of arguments that can be put into one statement, or that stops there. -/
def Request.ofBound : Bound Request → Request
  | .ok r => r
  | .error why => .unbound why

/-- The name of a call, as messages give it. -/
def Call.operation : Call → String
  | create _ _ _ => "create"
  | get _ => "get"
  | delete _ => "delete"

/-- Checks the arguments in order. -/
def Call.check : Call → Except Failure Request
  | create name privateKey credential => do
    let name ← Argument.name name "username"
    let privateKey ← Argument.payload privateKey "signature_private_key"
    let credential ← Argument.payload credential "credential_with_key"
    return .ofBound do
      return .create { name := ← name, privateKey := ← privateKey, credential := ← credential }
  | get name => do
    let name ← Argument.name name "username"
    return .ofBound (name.map .get)
  | delete name => do
    let name ← Argument.name name "username"
    return .ofBound (name.map .delete)

namespace Request

/-- Whether a request writes to the table. -/
def writes : Request → Bool
  | get _ | unbound _ => false
  | _ => true

/-- Whether all arguments of a request can be put into its statement. -/
def isBound : Request → Bool
  | unbound _ => false
  | _ => true

/-- What the log says of an insertion that finds its key taken. -/
def conflictDetails : Request → List (String × String)
  | create u => [("username", u.name.text)]
  | _ => []

/-- Carries out a request. -/
def apply (rows : List User) : Request → Except Refusal (Effect User)
  | create u =>
    match Table.insert User.name User.fits rows [u] with
    | .error refusal => .error refusal
    | .ok rows => .ok
        { rows, reply := .row u, note := some ⟨"CREATE", [("username", u.name.text)]⟩ }
  | get name =>
    match Table.find? User.name name rows with
    | some u => .ok { rows, reply := .row u }
    | none => .error (.absent (.user name.text))
  | delete name => .ok
      { rows := rows.filter (·.name != name)
        reply := .nothing
        note := some ⟨"DELETE",
          [("username", name.text), ("deleted", (rows.countP (·.name == name)).repr)]⟩ }
  | unbound why => .error (.unusable why)

/-- A request that does not write leaves the rows as they were. -/
theorem apply_rows {r : Request} {rows : List User} {e : Effect User}
    (hr : r.writes = false) (he : r.apply rows = .ok e) : e.rows = rows := by
  cases r with
  | get name => simp only [apply] at he; split at he <;> cases he; rfl
  | unbound why => cases he
  | _ => simp [writes] at hr

/-- What is carried out does not stop at an argument. -/
theorem isBound_of_apply {r : Request} {rows : List User} {e : Effect User}
    (he : r.apply rows = .ok e) : r.isBound = true := by
  cases r with
  | unbound why => cases he
  | _ => rfl

/-- What cannot be handed over to the database is an argument at which the request stops. -/
theorem eq_unbound_of_unfit {r : Request} {rows : List User} {what : Unfit}
    (he : r.apply rows = .error (.unusable (.unfit what))) : r = .unbound (.unfit what) := by
  cases r with
  | unbound why =>
    cases he
    rfl
  | create u =>
    simp only [apply] at he
    split at he
    · rename_i hinsert
      cases he
      exact absurd hinsert (Table.insert_ne_unfit what)
    · cases he
  | get name =>
    simp only [apply] at he
    split at he <;> cases he
  | delete name => cases he

end Request

end DeliveryStore.Identities
