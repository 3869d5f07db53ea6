import DeliveryStore.CommandLine.Invocation
import DeliveryStore.Host

/-!
# The command line

`CommandLine.run` reads a command line, carries the command out on a database that it opens and
closes, and gives what the program prints on its two outputs and its exit code. A failure that the
stores define is reported in a line; any other ends the program with the failure itself.
-/

namespace DeliveryStore.CommandLine

/-- The end of a run: the exit code, or the failure that ended it, and the two outputs. -/
structure Exit where
  outcome : Except Failure Nat
  output : String := ""
  errors : String := ""

/-! ## Commands -/

/-- The number in a reply. -/
def numberIn : Reply Row → Nat
  | .count n => n
  | _ => 0

/-- A report after which a handle is closed, whatever the outcome. -/
def closing {α : Type} (h : Handle) (r : Report α) : Report α := { r with host := r.host.close h }

/-- Makes the tables of a role, the server's unless the client's are asked for. -/
def init (host : Host) (url : Option String) (name : Option String) : Report Unit :=
  let role : Role := if name = some "client" then .client else .server
  (host.openAs { role, address := url.map .text }).andThen fun h host =>
    (closing h (host.initialise h)).andThen fun _ host =>
      host.say ("✅ " ++ name.getD "[]" ++ " schema ready\n")

/-- Prints a line with a count, for a name that was given. -/
def count (host : Host) (h : Handle) (name : Option String) (call : Value → Call)
    (sign unit : String) : Report Unit :=
  match name with
  | none => host.say ""
  | some name =>
    if name = "" then host.say ""
    else
      (host.call h (call (.text name))).andThen fun reply host =>
        host.say (sign ++ name ++ ": " ++ (numberIn reply).repr ++ unit)

/-- Prints how many messages wait for a recipient and how many packages a client has. -/
def stats (host : Host) (url recipient client : Option String) : Report Unit :=
  (host.openAs { role := .server, address := url.map .text }).andThen fun h host =>
    closing h <|
      (count host h recipient (.mailbox <| .pendingCount ·) "📬 " " pending message(s)\n").andThen
        fun _ host =>
          count host h client (.keyPackages <| .countByClient ·) "🔑 " " key package(s)\n"

/-- Deletes the messages that wait for a recipient. -/
def purge (host : Host) (url : Option String) (recipient : String) : Report Unit :=
  (host.openAs { role := .server, address := url.map .text }).andThen fun h host =>
    (closing h (host.call h (.mailbox (.purge (.text recipient))))).andThen fun reply host =>
      host.say ("🗑️  " ++ recipient ++ ": " ++ (numberIn reply).repr ++ " message(s) purged\n")

/-- Carries out a command. -/
def execute (host : Host) (i : Invocation) : Report Unit :=
  match i.command with
  | .init role => init host i.url role
  | .stats recipient client => stats host i.url recipient client
  | .purge recipient => purge host i.url recipient

/-! ## Runs -/

/-- The exit code of a command line that could not be read. -/
def usageCode : Nat := 2

/-- The exit code of a command that failed. -/
def failureCode : Nat := 1

/-- What is printed when reading ends without a command. -/
def Stop.exit : Stop → Exit
  | .help g => { outcome := .ok 0, output := g.usage ++ g.explanation }
  | .problem g p =>
    { outcome := .ok usageCode, errors := g.usage ++ g.program ++ ": error: " ++ p.message ++ "\n" }

/-- What is printed when a command has come to its end. -/
def exitOf (r : Report Unit) : Exit :=
  match r.outcome with
  | .ok () => { outcome := .ok 0, output := r.text }
  | .error f =>
    match f.class? with
    | some c =>
      { outcome := .ok failureCode
        output := r.text
        errors := "❌ " ++ c.name ++ ": " ++ f.message ++ "\n" }
    | none => { outcome := .error f, output := r.text }

/-- Runs the program with a command line. -/
def run (host : Host) (words : List String) : Exit × Host :=
  match Invocation.read words with
  | .error stop => (stop.exit, host)
  | .ok i =>
    let r := execute host i
    (exitOf r, r.host)

/-- A command line that cannot be read, or that asks for help, touches nothing. -/
theorem run_of_stop {host : Host} {words : List String} {stop : Stop}
    (h : Invocation.read words = .error stop) : run host words = (stop.exit, host) := by
  simp only [run, h]

end DeliveryStore.CommandLine
