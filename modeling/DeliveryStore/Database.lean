import DeliveryStore.Identities
import DeliveryStore.KeyPackages
import DeliveryStore.Mailbox

/-!
# Databases

A database has room for the tables of the three stores, each of which may be missing. A server
keeps key packages and messages, a client keeps users; both may live in one database. `Call.check`
checks a call to any of the stores and `Database.carryOut` carries it out.
-/

namespace DeliveryStore

/-! ## Roles -/

/-- What a database is opened as. Only the first two have tables of their own. -/
inductive Role where
  | server
  | client
  | base
deriving DecidableEq, Repr

/-- The tables of the three stores. -/
inductive Store where
  | keyPackages
  | mailbox
  | identities
deriving DecidableEq, Repr

namespace Store

/-- The name of a store's table. -/
def table : Store → String
  | keyPackages => "server_key_package"
  | mailbox => "server_message"
  | identities => "client_user"

/-- The group under which the log keeps a store's entries. -/
def group : Store → String
  | keyPackages => KeyPackages.group
  | mailbox => Mailbox.group
  | identities => Identities.group

end Store

namespace Role

/-- The stores that a role offers. -/
def stores : Role → List Store
  | server => [.keyPackages, .mailbox]
  | client => [.identities]
  | base => []

/-- The kind of handle that a role has, as messages name it. -/
def handleName : Role → String
  | server => "ServerDatabase"
  | client => "ClientDatabase"
  | base => "Database"

end Role

/-! ## Rows of any table -/

/-- A row of one of the three tables. -/
inductive Row where
  | keyPackage (p : KeyPackage)
  | message (m : Message)
  | user (u : User)
deriving DecidableEq, Repr

namespace Row

/-- The label by which a row is shown. -/
def label : Row → String
  | keyPackage p => p.label
  | message m => m.label
  | user u => u.label

/-- The columns of a row as texts, payloads and identifiers as hexadecimal digits. -/
def columns : Row → List String
  | keyPackage p => [p.id.hex, p.client.text, Text.Hex.text p.package.bytes, p.createdAt]
  | message m => [m.id.hex, m.recipient.text, Text.Hex.text m.content.bytes, m.createdAt]
  | user u => [u.name.text, Text.Hex.text u.privateKey.bytes, Text.Hex.text u.credential.bytes]

end Row

/-! ## Calls and requests -/

/-- An unchecked call to one of the stores. -/
inductive Call where
  | keyPackages (c : KeyPackages.Call)
  | mailbox (c : Mailbox.Call)
  | identities (c : Identities.Call)

/-- A checked call. -/
inductive Request where
  | keyPackages (r : KeyPackages.Request)
  | mailbox (r : Mailbox.Request)
  | identities (r : Identities.Request)
deriving DecidableEq, Repr

namespace Call

/-- The store that a call goes to. -/
def store : Call → Store
  | keyPackages _ => .keyPackages
  | mailbox _ => .mailbox
  | identities _ => .identities

/-- Checks the arguments of a call. -/
def check (now : Moment) : Call → Except Failure Request
  | keyPackages c => (c.check now).map .keyPackages
  | mailbox c => (c.check now).map .mailbox
  | identities c => c.check.map .identities

/-- The name of a call, as messages give it. -/
def operation : Call → String
  | keyPackages c => c.operation
  | mailbox c => c.operation
  | identities c => c.operation

end Call

namespace Request

/-- The store that a request goes to. -/
def store : Request → Store
  | keyPackages _ => .keyPackages
  | mailbox _ => .mailbox
  | identities _ => .identities

/-- Whether a request writes. -/
def writes : Request → Bool
  | keyPackages r => r.writes
  | mailbox r => r.writes
  | identities r => r.writes

/-- Whether all arguments of a request can be put into its statements. -/
def isBound : Request → Bool
  | keyPackages r => r.isBound
  | mailbox r => r.isBound
  | identities r => r.isBound

/-- What the log says of an insertion that finds its key taken. -/
def conflictDetails : Request → List (String × String)
  | keyPackages r => r.conflictDetails
  | mailbox r => r.conflictDetails
  | identities r => r.conflictDetails

end Request

/-! ## The database -/

/-- The tables of a database, of which each may be missing. -/
structure Database where
  keyPackages : Option (List KeyPackage) := none
  messages : Option (List Message) := none
  users : Option (List User) := none
deriving DecidableEq, Repr

/-- Why a database does not carry out a request. -/
inductive Obstacle where
  | storage (fault : StorageFault)
  | refusal (r : Refusal)
deriving DecidableEq, Repr

/-- What a request comes to on a database. -/
structure Commit where
  database : Database
  reply : Reply Row
  note : Option Note := none

namespace Database

/-- Whether a database has the table of a store. -/
def has (d : Database) : Store → Bool
  | .keyPackages => d.keyPackages.isSome
  | .mailbox => d.messages.isSome
  | .identities => d.users.isSome

/-- The stores whose tables a database has. -/
def stores (d : Database) : List Store := [.keyPackages, .mailbox, .identities].filter d.has

/-- The database with an empty table for a store that had none. -/
def create (d : Database) : Store → Database
  | .keyPackages => { d with keyPackages := some (d.keyPackages.getD []) }
  | .mailbox => { d with messages := some (d.messages.getD []) }
  | .identities => { d with users := some (d.users.getD []) }

/-- The database with the tables of these stores, those that it had as they were. A database that
cannot be written may lack none of them. -/
def ensure (d : Database) (readOnly : Bool) (stores : List Store) :
    Except StorageFault Database :=
  if readOnly && stores.any fun s => !d.has s then .error .readOnly
  else .ok (stores.foldl create d)

/-- Making a table leaves the tables that there are. -/
theorem has_create {d : Database} {s t : Store} (h : d.has t = true) :
    (d.create s).has t = true := by
  cases s <;> cases t <;> simp_all [has, create]

/-- Making a table makes that table. -/
theorem has_create_self (d : Database) (s : Store) : (d.create s).has s = true := by
  cases s <;> simp [has, create]

/-- Carries out a request on one table. A missing table comes before a database that cannot be
written, and that before anything about the rows. -/
def onTable {ρ : Type} (store : Store) (table : Option (List ρ)) (writes readOnly : Bool)
    (apply : List ρ → Except Refusal (Effect ρ)) : Except Obstacle (Effect ρ) :=
  match table with
  | none => .error (.storage (.noTable store.table))
  | some rows =>
    if writes && readOnly then .error (.storage .readOnly)
    else
      match apply rows with
      | .ok e => .ok e
      | .error r => .error (.refusal r)

/-- Carries out a request. -/
def carryOut (d : Database) (readOnly : Bool) : Request → Except Obstacle Commit
  | .keyPackages r =>
    (onTable .keyPackages d.keyPackages r.writes readOnly r.apply).map fun e =>
      ⟨{ d with keyPackages := some e.rows }, e.reply.map .keyPackage, e.note⟩
  | .mailbox r =>
    (onTable .mailbox d.messages r.writes readOnly r.apply).map fun e =>
      ⟨{ d with messages := some e.rows }, e.reply.map .message, e.note⟩
  | .identities r =>
    (onTable .identities d.users r.writes readOnly r.apply).map fun e =>
      ⟨{ d with users := some e.rows }, e.reply.map .user, e.note⟩

/-- How much room the rows of all tables take. -/
def size (d : Database) : Nat :=
  Table.room KeyPackage.size d.keyPackages + Table.room Message.size d.messages +
    Table.room User.size d.users

/-! ## Views -/

/-- The rows of each table that there is. -/
def tables (d : Database) : List (Store × List Row) :=
  (d.keyPackages.map fun rows => (Store.keyPackages, rows.map Row.keyPackage)).toList ++
    (d.messages.map fun rows => (Store.mailbox, rows.map Row.message)).toList ++
    (d.users.map fun rows => (Store.identities, rows.map Row.user)).toList

/-- The order of rows by their columns: the first column that differs decides. -/
def columnsBefore : List String → List String → Bool
  | [], _ => true
  | _ :: _, [] => false
  | c :: cs, e :: es => c < e || (c == e && columnsBefore cs es)

/-- The columns of the rows of each table, rows in order. -/
def dump (d : Database) : List (String × List (List String)) :=
  d.tables.map fun t => (t.1.table, (t.2.map Row.columns).mergeSort columnsBefore)

end Database

/-! ## The layout of the tables -/

/-- A column: its name and type, whether it must be filled, and its place in the primary key,
which is 0 for a column outside the key. -/
structure Column where
  name : String
  type : String
  required : Bool := true
  keyPlace : Nat := 0
deriving DecidableEq, Repr

/-- The layout of a table: its columns, and its indexes with the columns that they order by. -/
structure Layout where
  columns : List Column
  indexes : List (String × List String) := []
deriving DecidableEq, Repr

/-- The type of columns that hold bytes. -/
def bytesColumn : String := "BLOB"

/-- The type of columns that hold text. -/
def textColumn : String := "TEXT"

/-- The layout of a store's table. -/
def Store.layout : Store → Layout
  | keyPackages =>
    { columns :=
        [{ name := "package_id", type := bytesColumn, keyPlace := 1 },
          { name := "client_id", type := textColumn },
          { name := "package", type := bytesColumn },
          { name := "created_at", type := textColumn }]
      indexes := [("server_idx_key_package_client_id", ["client_id"])] }
  | mailbox =>
    { columns :=
        [{ name := "message_id", type := bytesColumn, keyPlace := 1 },
          { name := "recipient", type := textColumn, keyPlace := 2 },
          { name := "content", type := bytesColumn },
          { name := "created_at", type := textColumn }]
      indexes := [("server_idx_message_recipient", ["recipient", "created_at"])] }
  | identities =>
    { columns :=
        [{ name := "username", type := textColumn, keyPlace := 1 },
          { name := "signature_private_key", type := bytesColumn },
          { name := "credential_with_key", type := bytesColumn }] }

/-- The layout of each table that there is. -/
def Database.schema (d : Database) : List (String × Layout) :=
  d.tables.map fun t => (t.1.table, t.1.layout)

end DeliveryStore
