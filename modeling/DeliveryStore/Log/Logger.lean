import DeliveryStore.Log.Tree
import DeliveryStore.Value.Printed

/-!
# Loggers

A logger names the database that its entries speak of. Its callers pass details as unchecked
values under names; three names steer the entry instead of showing in it: `group`, `last` and
`db_name`. What a caller got wrong is a `Fault`.
-/

namespace DeliveryStore.Log

/-- A logger: the name for its column, as it was handed over, and the width of the column. -/
structure Logger where
  label : Value
  width : Int := columnWidth

/-- The name of a logger that was given none. -/
def anonymous : String := "-"

/-- A logger with a name, or the anonymous name if the given one does not count as given. -/
def Logger.named (label : Value) (width : Int) : Logger :=
  ⟨if label.isTruthy then label else .text anonymous, width⟩

/-- Why an entry could not be logged. -/
inductive Fault where
  | repeated (argument : String)
  | noMethod (kind method : String)
  | needsBytes
  | notSubscriptable (kind : String)
  | unhashableSlice
  | widthTooLarge
deriving DecidableEq, Repr

/-- The wording of a fault. -/
def Fault.message : Fault → String
  | repeated argument => "TreeLogger.log() got multiple values for argument '" ++ argument ++ "'"
  | noMethod kind method => "'" ++ kind ++ "' object has no attribute '" ++ method ++ "'"
  | needsBytes => "a bytes-like object is required, not 'str'"
  | notSubscriptable kind => "'" ++ kind ++ "' object is not subscriptable"
  | unhashableSlice => "unhashable type: 'slice'"
  | widthTooLarge => "Python int too large to convert to C ssize_t"

/-- What logging comes to: the text printed, the thread after it, and a fault if there was one. -/
structure Report where
  fault : Option Fault
  text : String
  thread : Thread

/-- The names that the log keeps for the entry itself. -/
def reserved : List String := ["self", "message"]

/-- The names of values that steer an entry and do not show in it. -/
def steeringNames : List String := ["group", "last", "db_name"]

/-- Named values with each name once: its last value, in its first place. -/
def lastValues : List (String × Value) → List (String × Value)
  | [] => []
  | (k, v) :: rest =>
    let value := ((rest.filter (·.1 == k)).getLast?.map (·.2)).getD v
    (k, value) :: (lastValues rest).filter (·.1 != k)

/-- The group path in a value, of which nothing is left if it does not count as given. -/
def groupPath (v : Value) : Except Fault (Option String) :=
  if v.isTruthy then
    match v with
    | .text s => .ok (some s)
    | .bytes .fixed _ | .bytes .mutable _ => .error .needsBytes
    | _ => .error (.noMethod v.kindName "split")
  else .ok none

/-- Whether a width is a number of 64 bits with a sign, beyond which nothing can be filled. -/
def isWidth (width : Int) : Bool := -9223372036854775808 ≤ width && width < 9223372036854775808

/-- The column for a name of any kind. Texts and bytes can be cut and filled. -/
def columnOf (width : Int) (v : Value) : Except Fault String :=
  match v with
  | .text s => if isWidth width then .ok (column width s) else .error .widthTooLarge
  | .bytes .view _ | .list _ | .tuple _ => .error (.noMethod v.kindName "ljust")
  | .bytes form content =>
    if isWidth width then .ok (Value.bytes form (fit 0x20 width content)).plain
    else .error .widthTooLarge
  | .dict _ => .error .unhashableSlice
  | _ => .error (.notSubscriptable v.kindName)

/-- Logs an operation with named values. The faults come in the order in which the parts of the
entry are made: headers are already printed when the column turns out not to be writable. -/
def Logger.log (l : Logger) (t : Thread) (operation : String) (named : List (String × Value)) :
    Report :=
  let named := lastValues named
  match named.find? fun d => reserved.contains d.1 with
  | some d => ⟨some (.repeated d.1), "", t⟩
  | none =>
    let steering (name : String) : Value := (named.lookup name).getD .null
    let given := steering "db_name"
    -- The group is taken apart before anything is printed.
    match groupPath (steering "group") with
    | .error fault => ⟨some fault, "", t⟩
    | .ok group =>
      let (headers, t) := t.announce group
      match columnOf l.width (if given.isTruthy then given else l.label) with
      | .error fault => ⟨some fault, headers, t⟩
      | .ok column =>
        let details := named.filter fun d => !steeringNames.contains d.1
        let entry : Entry :=
          { operation, group, last := (steering "last").isTruthy, column
            details := details.map fun d => (d.1, d.2.plain) }
        ⟨none, headers ++ t.line entry, t⟩

/-- Logging leaves the branches of the thread alone. -/
theorem Logger.log_stack (l : Logger) (t : Thread) (operation : String)
    (named : List (String × Value)) : (l.log t operation named).thread.stack = t.stack := by
  unfold Logger.log
  dsimp only
  split
  · rfl
  · split
    · rfl
    · split <;> exact t.announce_stack _

end DeliveryStore.Log
