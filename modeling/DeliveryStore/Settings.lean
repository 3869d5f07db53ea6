import DeliveryStore.Text.Upper

/-!
# Settings

The settings that the environment decides: where the two databases are and how durably they write. A
variable that is not set leaves the default; one that is set to the empty text counts as set. How
deep calls may still be nested is a setting too, though no variable decides it: it is what the
process allows, less what is under way already when a database is opened.
-/

namespace DeliveryStore

/-- The settings of one process. -/
structure Settings where
  serverAddress : String := "sqlite+aiosqlite:///db/server.db"
  clientAddress : String := "sqlite+aiosqlite:///db/client.db"
  serverSynchronous : String := "EXTRA"
  clientSynchronous : String := "NORMAL"
  nesting : Nat := 950
deriving DecidableEq, Repr

namespace Settings

/-- The names of the variables begin alike. -/
def variableName (name : String) : String := "MLSBOX_" ++ name

/-- The settings that an environment gives. Levels of durability are put into capitals. -/
def ofEnvironment (environment : List (String × String)) : Settings :=
  let standard : Settings := {}
  let read (name : String) : Option String := environment.lookup (variableName name)
  { serverAddress := (read "SERVER_DB_URL").getD standard.serverAddress
    clientAddress := (read "CLIENT_DB_URL").getD standard.clientAddress
    serverSynchronous := Text.upper ((read "SERVER_SYNCHRONOUS").getD standard.serverSynchronous)
    clientSynchronous := Text.upper ((read "CLIENT_SYNCHRONOUS").getD standard.clientSynchronous)
    nesting := standard.nesting }

end Settings

end DeliveryStore
