import DeliveryStore.Failure
import DeliveryStore.Text.Number
import DeliveryStore.Text.Percent
import DeliveryStore.Text.Word

/-!
# Database addresses

An address reads `driver://[user[:password]@][host][:number][/database][?options]`. `Locator.parse`
takes it apart; what follows the parts that it knows is left unread. The database and the options
are percent-coded, and an option given several times has all its values.
-/

namespace DeliveryStore

/-- The value of an option: one text, or several if the option was given several times. -/
inductive OptionValue where
  | one (s : String)
  | several (values : List String)
deriving DecidableEq, Repr

namespace OptionValue

/-- The texts of an option's value. -/
def texts : OptionValue → List String
  | one s => [s]
  | several values => values

/-- The value with one more text at the end. -/
def add (v : OptionValue) (s : String) : OptionValue := several (v.texts ++ [s])

/-- How a value is written into a file name: several texts stand literally between brackets. -/
def plain : OptionValue → String
  | one s => s
  | several values => "(" ++ ", ".intercalate (values.map Text.Quoted.quote) ++ ")"

end OptionValue

/-- An address in parts. -/
structure Locator where
  driver : String
  user : Option String := none
  password : Option String := none
  host : Option String := none
  portNumber : Option Int := none
  database : Option String := none
  options : List (String × OptionValue) := []
deriving DecidableEq, Repr

namespace Locator

/-! ## Reading an address -/

/-- The user, the password and the rest after them. A password runs to the next at sign; a user
without one runs to the last at sign before a colon or slash. -/
def splitUser (text : List Char) :
    Option (List Char) × Option (List Char) × List Char :=
  let run := text.takeWhile fun c => c ≠ ':' ∧ c ≠ '/'
  let rest := text.drop run.length
  let lastAt : Option (List Char) × Option (List Char) × List Char :=
    match run.reverse.dropWhile (· ≠ '@') with
    | [] => (none, none, text)
    | _ :: userReversed => (some userReversed.reverse, none, text.drop (userReversed.length + 1))
  match rest with
  | ':' :: after =>
    match Text.Percent.cut '@' after with
    | (password, some remaining) => (some run, some password, remaining)
    -- The colon was not one of a password, and may be one of a host.
    | (_, none) => lastAt
  | _ => lastAt

/-- The host and the rest after it. Between brackets a host may hold colons. -/
def splitHost (text : List Char) : Option (List Char) × List Char :=
  let plainHost : Option (List Char) × List Char :=
    let run := text.takeWhile fun c => c ≠ '/' ∧ c ≠ ':' ∧ c ≠ '?'
    (if run.isEmpty then none else some run, text.drop run.length)
  match text with
  | '[' :: after =>
    let run := after.takeWhile fun c => c ≠ '/' ∧ c ≠ '?'
    match run.reverse.dropWhile (· ≠ ']') with
    | _ :: hostReversed =>
      if hostReversed.isEmpty then plainHost
      else (some hostReversed.reverse, after.drop (hostReversed.length + 1))
    | [] => plainHost
  | _ => plainHost

/-- The part after a leading `mark` up to the first of `ends`, and the rest after that part. -/
def splitPart (mark : Char) (ends : List Char) (text : List Char) :
    Option (List Char) × List Char :=
  match text with
  | c :: after =>
    if c = mark then
      let run := after.takeWhile fun x => !ends.contains x
      (some run, after.drop run.length)
    else (none, text)
  | [] => (none, [])

/-- Collects the items of a form into options, each in the place where it came first. -/
def collect (options : List (String × OptionValue)) : List (String × String) →
    List (String × OptionValue)
  | [] => options
  | (key, value) :: rest =>
    match options.lookup key with
    | none => collect (options ++ [(key, .one value)]) rest
    | some _ =>
      collect (options.map fun o => if o.1 == key then (o.1, o.2.add value) else o) rest

/-- Takes an address apart. -/
def parse (address : String) : Except AddressFault Locator :=
  let text := address.toList
  let driver := text.takeWhile fun c => Text.isWord c || c == '+'
  match driver.isEmpty, text.drop driver.length with
  | false, ':' :: '/' :: '/' :: afterDriver =>
    let (user, password, afterUser) := splitUser afterDriver
    let (host, afterHost) := splitHost afterUser
    let (digits, afterNumber) := splitPart ':' ['/', '?'] afterHost
    let (database, afterDatabase) := splitPart '/' ['?'] afterNumber
    -- Options end with their line, and what follows is left unread.
    let (options, _) := splitPart '?' ['\n'] afterDatabase
    let decoded (part : Option (List Char)) : Option String :=
      part.map fun cs => String.ofList (Text.Percent.decode cs)
    let locator : Locator :=
      { driver := String.ofList driver
        user := decoded user
        password := decoded password
        host := host.map String.ofList
        database := decoded database
        options := collect [] (Text.Percent.form (options.getD [])) }
    match digits with
    | none => .ok locator
    | some digits =>
      match Text.readWhole digits with
      | .ok n => .ok { locator with portNumber := some n }
      | .error fault => .error (.badWhole (String.ofList digits) fault)
  | _, _ => .error .unparsable

/-! ## What an address says -/

/-- The value of an option. -/
def option? (l : Locator) (name : String) : Option OptionValue := l.options.lookup name

/-- The flag `in_memory`: no database, the name for one in memory, or the single option
`mode=memory`. It looks at the address alone and not at what is opened for it. -/
def inMemory (l : Locator) : Bool :=
  l.database == none || l.database == some "" || l.database == some ":memory:" ||
    l.option? "mode" == some (.one "memory")

/-- An address as a text, with its password hidden and its options in order of their names. -/
def shown (l : Locator) : String :=
  let coded (s : String) : String := String.ofList (Text.Percent.encode [' ', '+'] s.toList)
  let form (s : String) : String := String.ofList (Text.Percent.encodeForm s.toList)
  let user := match l.user with
    | some u => coded u ++ (if l.password.isSome then ":***" else "") ++ "@"
    | none => ""
  let host := match l.host with
    | some h => if h.toList.contains ':' then "[" ++ h ++ "]" else h
    | none => ""
  let number := match l.portNumber with
    | some p => ":" ++ Text.wholeNumber p
    | none => ""
  let database := match l.database with
    | some d => "/" ++ String.ofList (Text.Percent.encode [' ', '+', '/'] d.toList)
    | none => ""
  let ordered := l.options.mergeSort fun a b => a.1 ≤ b.1
  let items := ordered.flatMap fun o => o.2.texts.map fun v => form o.1 ++ "=" ++ form v
  let options := if items.isEmpty then "" else "?" ++ "&".intercalate items
  l.driver ++ "://" ++ user ++ host ++ number ++ database ++ options

end Locator

end DeliveryStore
