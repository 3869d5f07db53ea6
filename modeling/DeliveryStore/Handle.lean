import DeliveryStore.Settings
import DeliveryStore.Storage
import DeliveryStore.Value.Printed

/-!
# Handles

A handle is an opened database: its role, its name in the log, how durably it writes, and what it
opens. Opening checks the durability first, then reads the address; missing directories are made
before the driver is looked at.
-/

namespace DeliveryStore

/-- How durably a database writes, from not at all to extra. -/
inductive Durability where
  | off
  | normal
  | full
  | extra
deriving DecidableEq, Repr

namespace Durability

/-- The name of a level. -/
def name : Durability → String
  | off => "OFF"
  | normal => "NORMAL"
  | full => "FULL"
  | extra => "EXTRA"

/-- The number of a level. -/
def level : Durability → Nat
  | off => 0
  | normal => 1
  | full => 2
  | extra => 3

/-- The level with a name, in whatever case it is written. -/
def ofText? (s : String) : Option Durability :=
  [off, normal, full, extra].find? (·.name == Text.upper s)

/-- The level that a value names. Only what has an upper case is compared with the names. -/
def ofValue : Value → Except Failure Durability
  | .text s =>
    match ofText? s with
    | some d => .ok d
    | none => .error (.invalid .synchronous)
  | .unpaired _ | .bytes .fixed _ | .bytes .mutable _ => .error (.invalid .synchronous)
  | v => .error (.notOffered v.kindName "upper")

/-- Each name is read as its own level. -/
theorem ofText?_name (d : Durability) : ofText? d.name = some d := by
  cases d <;> decide +kernel

end Durability

/-- What is asked for when a database is opened, in values that nobody has checked. What is not
given, or does not count as given, is taken from the settings; a base database has no settings to
take it from, but a name. -/
structure Opening where
  role : Role
  address : Option Value := none
  durability : Option Value := none
  name : Option String := some "db"

namespace Opening

/-- A value, or a text if there is none or it does not count as given. -/
def orElse (given : Option Value) (other : String) : Value :=
  match given with
  | some v => if v.isTruthy then v else .text other
  | none => .text other

/-- The address to open. -/
def addressIn (o : Opening) (s : Settings) : Option Value :=
  match o.role with
  | .server => some (orElse o.address s.serverAddress)
  | .client => some (orElse o.address s.clientAddress)
  | .base => o.address

/-- The durability to write with. -/
def durabilityIn (o : Opening) (s : Settings) : Value :=
  match o.role with
  | .server => orElse o.durability s.serverSynchronous
  | .client => orElse o.durability s.clientSynchronous
  | .base => o.durability.getD (.text Durability.normal.name)

/-- The name of the database in the log. -/
def logName (o : Opening) : Option String :=
  match o.role with
  | .server => some "server"
  | .client => some "client"
  | .base => o.name

end Opening

/-- The parts of the address that a value is. An address is a text of characters: what becomes of one
with surrogates is left open. -/
def Locator.ofValue : Value → Except AddressFault Locator
  | .text s => parse s
  | .unpaired _ => .error .unparsable
  | v => .error (.notText v.literal)

/-- An opened database. What keeps it from being used waits there until it is used. -/
structure Handle where
  number : Nat
  role : Role
  name : Option String
  durability : Durability
  inMemory : Bool
  target : Except Unusable Target

namespace Handle

/-- The directories that an address needs: none for memory and for file addresses. -/
def directoriesOf (l : Locator) : List FileName :=
  match l.database with
  | none => []
  | some d =>
    if l.inMemory || Target.scheme.toList.isPrefixOf d.toList then []
    else (Path.namesOfText d).dropLast

/-- The handle with this number that opens an address, once its directories are there. -/
def make (number : Nat) (o : Opening) (durability : Durability) (l : Locator) :
    Except Failure Handle :=
  match l.target with
  | .error fault => .error (.address fault)
  | .ok target => .ok
      { number, role := o.role, name := o.logName, durability, inMemory := l.inMemory, target }

end Handle

end DeliveryStore
