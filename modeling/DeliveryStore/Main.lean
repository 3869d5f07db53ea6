import DeliveryStore.CommandLine

/-!
# The program

Runs one command line in the environment of the process. The databases that it opens last as long
as the process does.
-/

namespace DeliveryStore.CommandLine

/-- The variables that the settings are read from. -/
def variableNames : List String :=
  ["SERVER_DB_URL", "CLIENT_DB_URL", "SERVER_SYNCHRONOUS", "CLIENT_SYNCHRONOUS"].map
    Settings.variableName

/-- The variables of the process that are set. -/
def environment : IO (List (String × String)) :=
  variableNames.filterMapM fun name => do
    return (← IO.getEnv name).map fun value => (name, value)

/-- Prints the two outputs of a run and gives its exit code. -/
def Exit.report (e : Exit) : IO UInt32 := do
  IO.print e.output
  IO.eprint e.errors
  match e.outcome with
  | .ok code => return UInt32.ofNat code
  | .error failure =>
    IO.eprintln failure.message
    return UInt32.ofNat failureCode

end DeliveryStore.CommandLine

/-- Runs the program. -/
def main (words : List String) : IO UInt32 := do
  let settings := DeliveryStore.Settings.ofEnvironment (← DeliveryStore.CommandLine.environment)
  (DeliveryStore.CommandLine.run { settings } words).1.report
