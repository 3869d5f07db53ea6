import DeliveryStore.CommandLine.Grammar

/-!
# Invocations of the program

The program has three commands. `Invocation.read` reads a command line into the command and the
address that it asks for. What the program says about itself stands here too.
-/

namespace DeliveryStore.CommandLine

/-- A command with its arguments. The role of the tables to make may have been taken back. -/
inductive Command where
  | init (role : Option String)
  | stats (recipient client : Option String)
  | purge (recipient : String)
deriving DecidableEq, Repr

/-- A command, and the address of the database if it is not to come from the settings. -/
structure Invocation where
  url : Option String
  command : Command
deriving DecidableEq, Repr

/-! ## Grammars -/

/-- The names of the commands. -/
def commandNames : List String := ["init", "stats", "purge"]

/-- The program as a whole. -/
def mainGrammar : Grammar where
  program := "mlsbox"
  flags := [.help, .url]
  operand := .command "command" commandNames
  usage := "usage: mlsbox [-h] [--url URL] \x7binit,stats,purge\x7d ...\n"
  explanation :=
    "\nmlsbox store administration\n" ++
    "\npositional arguments:\n" ++
    "  \x7binit,stats,purge\x7d\n" ++
    "    init              Create tables and indexes\n" ++
    "    stats             Show queue and key package counts\n" ++
    "    purge             Delete every queued message of a recipient\n" ++
    "\noptions:\n" ++
    "  -h, --help          show this help message and exit\n" ++
    "  --url URL           SQLAlchemy database URL (default: from environment)\n"

/-- The command that makes the tables. -/
def initGrammar : Grammar where
  program := "mlsbox init"
  flags := [.help, .role]
  operand := .nothing
  usage := "usage: mlsbox init [-h] [--role \x7bserver,client\x7d]\n"
  explanation :=
    "\noptions:\n" ++
    "  -h, --help            show this help message and exit\n" ++
    "  --role \x7bserver,client\x7d\n"

/-- The command that counts. -/
def statsGrammar : Grammar where
  program := "mlsbox stats"
  flags := [.help, .recipient, .clientId]
  operand := .nothing
  usage := "usage: mlsbox stats [-h] [--recipient RECIPIENT] [--client-id CLIENT_ID]\n"
  explanation :=
    "\noptions:\n" ++
    "  -h, --help            show this help message and exit\n" ++
    "  --recipient RECIPIENT\n" ++
    "                        Mailbox to count\n" ++
    "  --client-id CLIENT_ID\n" ++
    "                        Client whose key packages to count\n"

/-- The command that empties a queue. -/
def purgeGrammar : Grammar where
  program := "mlsbox purge"
  flags := [.help]
  operand := .one "recipient"
  usage := "usage: mlsbox purge [-h] recipient\n"
  explanation :=
    "\npositional arguments:\n" ++
    "  recipient\n" ++
    "\noptions:\n" ++
    "  -h, --help  show this help message and exit\n"

/-! ## Reading -/

/-- A command by its name, with the words left over from its own command line. -/
def Command.read (name : String) (words : List String) : Except Stop (Command × List String) := do
  match name with
  | "init" =>
    let s ← initGrammar.read words
    return (.init ((s.given? .role).getD (some "server")), s.leftOver)
  | "stats" =>
    let s ← statsGrammar.read words
    return (.stats (s.value? .recipient) (s.value? .clientId), s.leftOver)
  | "purge" =>
    let s ← purgeGrammar.read words
    return (.purge (s.operands.headD ""), s.leftOver)
  | other => throw (.problem mainGrammar (.notAChoice "command" other commandNames))

/-- Whether a name was given and is not empty. -/
def isGiven (name : Option String) : Bool := name.any (· != "")

/-- Reads a command line. Words that have no place are noticed once the command has been read, and
that there is nothing to count only after them. -/
def Invocation.read (words : List String) : Except Stop Invocation := do
  let s ← mainGrammar.read words
  let (command, more) ← Command.read (s.operands.headD "") s.operands.tail
  let leftOver := s.leftOver ++ more
  if !leftOver.isEmpty then throw (.problem mainGrammar (.unknownWords leftOver))
  match command with
  | .stats recipient client =>
    if !isGiven recipient && !isGiven client then throw (.problem mainGrammar .nothingToCount)
  | _ => pure ()
  return { url := s.value? .url, command }

end DeliveryStore.CommandLine
