import DeliveryStore.Text.Digit
import DeliveryStore.Text.Quoted

/-!
# Reading command lines

A `Grammar` lists the options of a program and says what else may stand on its command line: no
operand, one operand, or a command that takes all that follows it. `Grammar.read` sorts a command
line into the values of options, the operands, and the words left over. Long options may be cut
short so far as they remain unique; everything after two dashes is an operand.
-/

namespace DeliveryStore.CommandLine

/-- The options of all commands. -/
inductive Flag where
  | help
  | url
  | role
  | recipient
  | clientId
deriving DecidableEq, Repr

namespace Flag

/-- How an option may be spelled. -/
def spellings : Flag → List String
  | help => ["-h", "--help"]
  | url => ["--url"]
  | role => ["--role"]
  | recipient => ["--recipient"]
  | clientId => ["--client-id"]

/-- The name of an option in messages. -/
def name (f : Flag) : String := "/".intercalate f.spellings

/-- The values that an option may have, if it may not have any. -/
def choices : Flag → Option (List String)
  | role => some ["server", "client"]
  | _ => none

end Flag

/-- What may stand on a command line beside options. -/
inductive Operand where
  | nothing
  | one (name : String)
  | command (name : String) (choices : List String)
deriving DecidableEq, Repr

/-- What a program accepts, and what it says about itself. -/
structure Grammar where
  program : String
  flags : List Flag
  operand : Operand
  usage : String
  explanation : String
deriving DecidableEq, Repr

/-- What is wrong with a command line. -/
inductive Problem where
  | needsValue (option : String)
  | ignoredValue (option value : String)
  | notAChoice (argument value : String) (choices : List String)
  | ambiguous (word : String) (candidates : List String)
  | missing (name : String)
  | unknownWords (words : List String)
  | nothingToCount
deriving DecidableEq, Repr

/-- The wording of a problem. -/
def Problem.message : Problem → String
  | needsValue option => "argument " ++ option ++ ": expected one argument"
  | ignoredValue option value =>
    "argument " ++ option ++ ": ignored explicit argument " ++ Text.Quoted.quote value
  | notAChoice argument value choices =>
    "argument " ++ argument ++ ": invalid choice: " ++ Text.Quoted.quote value ++
      " (choose from " ++ ", ".intercalate (choices.map Text.Quoted.quote) ++ ")"
  | ambiguous word candidates =>
    "ambiguous option: " ++ word ++ " could match " ++ ", ".intercalate candidates
  | missing name => "the following arguments are required: " ++ name
  | unknownWords words => "unrecognized arguments: " ++ " ".intercalate words
  | nothingToCount => "stats needs --recipient and/or --client-id"

/-- Why reading ends without a command: help was asked for, or there is a problem. -/
inductive Stop where
  | help (g : Grammar)
  | problem (g : Grammar) (p : Problem)
deriving DecidableEq, Repr

/-! ## Words -/

/-- A value inside the word of an option: after an equals sign, or behind a single letter. -/
inductive Inner where
  | assigned (value : String)
  | attached (value : String)
deriving DecidableEq, Repr

/-- The value itself. -/
def Inner.value : Inner → String
  | assigned value => value
  | attached value => value

/-- One word of a command line, by the role that it can play. -/
inductive Token where
  | operand (word : String)
  | dashes
  | known (word : String) (flag : Flag) (inner : Option Inner)
  | unknown (word : String)
deriving DecidableEq, Repr

/-- The word of a token. -/
def Token.word : Token → String
  | operand w => w
  | dashes => "--"
  | known w _ _ => w
  | unknown w => w

/-- Whether the characters after a minus sign make a number: digits, or a point with digits after
it. A line feed at the end does not count. -/
def looksNumeric (rest : List Char) : Bool :=
  let rest := if rest.getLast? == some '\n' then rest.dropLast else rest
  let fraction := rest.dropWhile Text.isDigit
  match fraction with
  | [] => !rest.isEmpty
  | '.' :: digits => !digits.isEmpty && digits.all Text.isDigit
  | _ => false

namespace Grammar

/-- The spellings of all options, each with its option, in order. -/
def spellings (g : Grammar) : List (String × Flag) :=
  g.flags.flatMap fun f => f.spellings.map fun s => (s, f)

/-- The ways in which a word that is no exact spelling can be read as an option. -/
def readings (g : Grammar) (word : String) : List (String × Flag × Option Inner) :=
  match word.toList with
  | '-' :: '-' :: _ =>
    let start := word.toList.takeWhile (· ≠ '=')
    let inner := match word.toList.dropWhile (· ≠ '=') with
      | [] => none
      | _ :: value => some (.assigned (String.ofList value))
    (g.spellings.filter fun s => start.isPrefixOf s.1.toList).map fun s => (s.1, s.2, inner)
  | '-' :: letter :: value =>
    (g.spellings.filter fun s => s.1.toList == ['-', letter]).map fun s =>
      (s.1, s.2, some (.attached (String.ofList value)))
  | _ => []

/-- The role of a word that does not come after two dashes. -/
def classify (g : Grammar) (word : String) : Except Stop Token :=
  match word.toList with
  | '-' :: rest =>
    match g.spellings.lookup word with
    | some f => .ok (.known word f none)
    | none =>
      if rest.isEmpty then .ok (.operand word)
      else
        let start := String.ofList (word.toList.takeWhile (· ≠ '='))
        match word.toList.dropWhile (· ≠ '='), g.spellings.lookup start with
        | _ :: value, some f => .ok (.known word f (some (.assigned (String.ofList value))))
        | _, _ =>
          match g.readings word with
          | [(_, f, inner)] => .ok (.known word f inner)
          | [] =>
            if looksNumeric rest || rest.contains ' ' then .ok (.operand word)
            else .ok (.unknown word)
          | several => .error (.problem g (.ambiguous word (several.map (·.1))))
  | _ => .ok (.operand word)

/-- The roles of all words. -/
def tokens (g : Grammar) : List String → Except Stop (List Token)
  | [] => .ok []
  | word :: rest =>
    if word = "--" then .ok (.dashes :: rest.map .operand)
    else do
      let t ← g.classify word
      let ts ← g.tokens rest
      return t :: ts

/-! ## Sorting words -/

/-- A command line sorted: the values of options, later ones first; the operands; and the words
that have no place. An option whose value is two dashes has none. -/
structure Sorted where
  values : List (Flag × Option String) := []
  operands : List String := []
  leftOver : List String := []
deriving DecidableEq, Repr

/-- What an option was given last, if it was given. -/
def Sorted.given? (s : Sorted) (f : Flag) : Option (Option String) := s.values.lookup f

/-- The value that an option was given last. -/
def Sorted.value? (s : Sorted) (f : Flag) : Option String := (s.given? f).join

/-- What asking for help by a letter comes to when a text stands behind it: as many letters as ask
for help again are taken in, but nothing else is. -/
def helpWith (g : Grammar) : List Char → Stop
  | [] => .help g
  | c :: rest =>
    if c = 'h' then g.helpWith rest
    else .problem g (.ignoredValue Flag.help.name (String.ofList (c :: rest)))

/-- Help asked for in a word that may hold a value. -/
def helpAsked (g : Grammar) (word : String) : Option Inner → Stop
  | none => .help g
  | some inner =>
    if inner.value = "" || "--".toList.isPrefixOf word.toList then
      .problem g (.ignoredValue Flag.help.name inner.value)
    else g.helpWith inner.value.toList

/-- Takes in the value of an option. -/
def Sorted.set (s : Sorted) (g : Grammar) (f : Flag) (value : String) : Except Stop Sorted :=
  if value = "--" then .ok { s with values := (f, none) :: s.values }
  else
    match f.choices with
    | some choices =>
      if choices.contains value then .ok { s with values := (f, some value) :: s.values }
      else .error (.problem g (.notAChoice f.name value choices))
    | none => .ok { s with values := (f, some value) :: s.values }

/-- Passes over a word that has no place. -/
def Sorted.pass (s : Sorted) (word : String) : Sorted := { s with leftOver := s.leftOver ++ [word] }

/-- Sorts words from left to right. -/
def sort (g : Grammar) (s : Sorted) : List Token → Except Stop Sorted
  | [] => .ok s
  | .unknown word :: rest => g.sort (s.pass word) rest
  | .known word .help inner :: _ => .error (g.helpAsked word inner)
  | .known _ f (some inner) :: rest => do g.sort (← s.set g f inner.value) rest
  | .known _ f none :: .operand value :: rest => do g.sort (← s.set g f value) rest
  | .known _ f none :: _ => .error (.problem g (.needsValue f.name))
  | .dashes :: .operand word :: rest =>
    match g.operand with
    | .one _ =>
      if s.operands.isEmpty then g.sort { s with operands := [word] } rest
      else g.sort ((s.pass "--").pass word) rest
    | .command _ _ => .ok { s with operands := "--" :: word :: rest.map Token.word }
    | .nothing => g.sort ((s.pass "--").pass word) rest
  | .dashes :: rest => g.sort (s.pass "--") rest
  | .operand word :: rest =>
    match g.operand with
    | .one _ =>
      if s.operands.isEmpty then
        match rest with
        | .dashes :: rest => g.sort { s with operands := [word] } rest
        | rest => g.sort { s with operands := [word] } rest
      else g.sort (s.pass word) rest
    | .command _ _ => .ok { s with operands := word :: rest.map Token.word }
    | .nothing => g.sort (s.pass word) rest

/-- Sorts a command line. The roles of all words are settled before the first is sorted, and a
missing operand is noticed after the last. -/
def read (g : Grammar) (words : List String) : Except Stop Sorted := do
  let s ← g.sort {} (← g.tokens words)
  match g.operand with
  | .one name | .command name _ =>
    if s.operands.isEmpty then throw (.problem g (.missing name)) else return s
  | .nothing => return s

end Grammar

end DeliveryStore.CommandLine
