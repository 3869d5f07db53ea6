import DeliveryStore.Storage.Driver
import DeliveryStore.Storage.FileTree
import DeliveryStore.Storage.Options
import DeliveryStore.Text.Percent

/-!
# What an address opens

An address is taken apart by `Locator.parse`; this module says what is opened for it. With the
option `uri` a database that begins with `file:` is an address of its own, which may ask for memory
instead of a file, for sharing, for another way into the file system, and for less than full access;
without it every name but the one for memory is a file.
-/

namespace DeliveryStore

/-- The ways into the file system. They differ in how they lock; the last keeps all in memory. -/
inductive FileSystem where
  | unix
  | exclusive
  | dotfile
  | lockless
  | memory
deriving DecidableEq, Repr

namespace FileSystem

/-- The name of a way into the file system. -/
def name : FileSystem → String
  | unix => "unix"
  | exclusive => "unix-excl"
  | dotfile => "unix-dotfile"
  | lockless => "unix-none"
  | memory => "memdb"

/-- The way with a name. -/
def ofName? (s : String) : Option FileSystem :=
  [unix, exclusive, dotfile, lockless, memory].find? (·.name == s)

/-- Whether files can be shared in the way that a write-ahead log needs. -/
def sharesMemory : FileSystem → Bool
  | unix | exclusive => true
  | _ => false

/-- Each name belongs to its own way. -/
theorem ofName?_name (s : FileSystem) : ofName? s.name = some s := by
  cases s <;> decide +kernel

end FileSystem

/-- Where the data of a database are kept: in the file that names lead to, in memory, in a file that
is itself kept in memory, or in a file that is gone when it is closed. -/
inductive Medium where
  | file (names : List FileName)
  | memory (name : FileName)
  | store (name : FileName)
  | temporary
deriving DecidableEq, Repr

/-- How a database may be used: made if it is missing, written if it is there, or only read. -/
inductive Access where
  | create
  | existing
  | readOnly
deriving DecidableEq, Repr

/-- What is opened: where it is, how it may be used, and how it is reached. Those who ask to share
have one connection in common. -/
structure Target where
  medium : Medium
  access : Access := .create
  system : FileSystem := .unix
  shared : Bool := false
  unlocked : Bool := false
  immutable : Bool := false
  modeOf : Option String := none
deriving DecidableEq, Repr

namespace Target

/-- The name of a database that lives in memory. -/
def memoryName : String := ":memory:"

/-- What the name of a database stands for when nothing else is asked for. -/
def ofName (name : FileName) : Target :=
  if name = FileName.ofText memoryName then { medium := .memory name }
  else if name.isEmpty then { medium := .temporary }
  else { medium := .file (Path.names name) }

/-! ## File addresses -/

/-- The start of a file address. -/
def scheme : String := "file:"

/-- A part of a file address, decoded; what follows an encoded NUL is lost. -/
def coded (text : List Char) : FileName := (Text.Percent.bytes text).takeWhile (· ≠ 0)

/-- The parameters of a file address in order. Those without a name are passed over. -/
def parameters (text : List Char) : List (FileName × FileName) :=
  let items := ((text.takeWhile (· ≠ '#')).splitOn '&').map fun item =>
    match Text.Percent.cut '=' item with
    | (key, value) => (coded key, coded (value.getD []))
  items.filter (!·.1.isEmpty)

/-- The value of a parameter, the first time that it is given. -/
def parameter? (parameters : List (FileName × FileName)) (name : String) : Option FileName :=
  parameters.lookup (FileName.ofText name)

/-- A fault that names the value of a parameter. If that is no text, it cannot be named, and the
refusal says where in the wording the bytes at fault would stand. -/
def naming (fault : String → StorageFault) (value : FileName) : Unusable :=
  match Text.Utf8.fault? value with
  | none => .storage (fault (FileName.text value))
  | some f => .unfit (.unnamed (f.after (Text.Utf8.size (fault "").detail)))

/-- What the parameters of a file address ask for in order. -/
structure Wishes where
  access : Access := .create
  memory : Bool := false
  shared : Bool := false
  system : Option FileName := none
deriving DecidableEq, Repr

/-- Whether one access may follow another. It may not go beyond it, unless memory was asked for. -/
def Wishes.allows (w : Wishes) (next : Access) : Bool :=
  w.memory || match w.access, next with
    | .create, _ | _, .readOnly | .existing, .existing => true
    | _, _ => false

/-- Takes in a wish for an access. -/
def Wishes.takeAccess (w : Wishes) (name : String) (next : Access) : Except Unusable Wishes :=
  if w.allows next then .ok { w with access := next, memory := false }
  else .error (.storage (.modeNotAllowed name))

/-- Takes in one parameter. Those that are not known are passed over. -/
def Wishes.take (w : Wishes) (p : FileName × FileName) : Except Unusable Wishes :=
  match FileName.text p.1, FileName.text p.2 with
  | "vfs", _ => .ok { w with system := some p.2 }
  | "cache", "shared" => .ok { w with shared := true }
  | "cache", "private" => .ok { w with shared := false }
  | "cache", _ => .error (naming .unknownCache p.2)
  | "mode", "ro" => w.takeAccess "ro" .readOnly
  | "mode", "rw" => w.takeAccess "rw" .existing
  | "mode", "rwc" => w.takeAccess "rwc" .create
  | "mode", "memory" => .ok { w with access := .create, memory := true }
  | "mode", _ => .error (naming .unknownMode p.2)
  | _, _ => .ok w

/-- The way into the file system that was asked for. -/
def Wishes.fileSystem (w : Wishes) : Except Unusable FileSystem :=
  match w.system with
  | none => .ok .unix
  | some name =>
    match FileSystem.ofName? (FileName.text name) with
    | some system => .ok system
    | none => .error (naming .unknownSystem name)

/-- The words that turn a flag on. -/
def onWords : List String := ["on", "yes", "true"]

/-- The greatest number that counts in a flag. -/
def greatestFlag : Nat := 2147483647

/-- The value of a decimal digit of ASCII. -/
def decimalDigit? (c : Char) : Option Nat :=
  if c.isDigit then some (c.toNat - '0'.toNat) else none

/-- The number that the digits at the beginning of a text make. -/
def digitsNumber (base : Nat) (value? : Char → Option Nat) (text : List Char) : Nat :=
  ((text.takeWhile fun c => (value? c).isSome).filterMap value?).foldl (fun n d => base * n + d) 0

/-- The number at the beginning of a text, decimal or, after `0x`, hexadecimal. One that is too
great counts as zero. -/
def leadingNumber (text : List Char) : Nat :=
  let n := match text with
    | '0' :: 'x' :: rest | '0' :: 'X' :: rest => digitsNumber 16 Text.Hex.digit? rest
    | _ => digitsNumber 10 decimalDigit? text
  if n ≤ greatestFlag then n else 0

/-- Whether a flag is on: one of the words in any case, or a number that is not a multiple of
256. -/
def isOn (text : String) : Bool :=
  match text.toList with
  | [] => false
  | c :: rest =>
    if c.isDigit then leadingNumber (c :: rest) % 256 != 0
    else onWords.contains (String.ofList (text.toList.map Char.toLower))

/-- The path of a file address and what follows it. No host but the local one may be named. -/
def pathOf (text : List Char) : Except Unusable (List Char) :=
  match text with
  | '/' :: '/' :: after =>
    let host := after.takeWhile (· ≠ '/')
    if host.isEmpty || host == "localhost".toList then .ok (after.drop host.length)
    else .error (.storage (.foreignHost (String.ofList host)))
  | _ => .ok text

/-- The medium of a name, once it is known whether memory was asked for. -/
def mediumOf (system : FileSystem) (memory : Bool) (name : FileName) : Medium :=
  if memory then .memory name
  else
    match (ofName name).medium, system with
    | .file _, .memory => .store name
    | medium, _ => medium

/-- What a file address opens, given the text after its start. -/
def ofAddress (text : List Char) : Except Unusable Target := do
  let text ← pathOf text
  let path := text.takeWhile fun c => c ≠ '?' ∧ c ≠ '#'
  -- Behind a hash sign there are no parameters, though a question mark may follow.
  let given : List (FileName × FileName) := match text.drop path.length with
    | '?' :: options => parameters options
    | _ => []
  let wishes ← given.foldlM Wishes.take {}
  let system ← wishes.fileSystem
  let name := coded path
  let flag (parameter : String) : Bool := (parameter? given parameter).any (isOn ∘ FileName.text)
  return {
    medium := mediumOf system wishes.memory name
    access := wishes.access
    system
    shared := wishes.shared && !name.isEmpty
    unlocked := flag "nolock"
    immutable := flag "immutable"
    modeOf := (parameter? given "modeof").map FileName.text }

end Target

/-! ## Addresses -/

namespace Locator

/-- Whether an address names a user, a password, a host or a number on that host, none of
which a local database has. -/
def hasForeignParts (l : Locator) : Bool :=
  let given (part : Option String) : Bool := part.any (· != "")
  given l.user || given l.password || given l.host || l.portNumber.any (· != 0)

/-- The plugin that an address asks for. -/
def plugin? (l : Locator) : Option String :=
  (l.option? "plugin").map fun v => v.texts.headD ""

/-- The address without the options that ask for plugins. -/
def withoutPlugins (l : Locator) : Locator :=
  { l with options := l.options.filter fun o => o.1 != "plugin" && o.1 != "plugins" }

/-- The options of a file address, in order of their names. -/
def addressOptions (l : Locator) : List (String × OptionValue) :=
  (l.options.filter fun o => !DriverOptions.names.contains o.1).mergeSort fun a b => a.1 ≤ b.1

/-- The name that stands for a database that was not given. -/
def absentName : String := "None"

/-- The name under which a database is opened as a file address. Without a database there is
nothing for options to stand behind. -/
def addressName (l : Locator) : Except AddressFault String :=
  let options := l.addressOptions.map fun o => o.1 ++ "=" ++ o.2.plain
  match l.database with
  | none => if options.isEmpty then .ok absentName else .error .optionsAlone
  | some d => .ok (d ++ if options.isEmpty then "" else "?" ++ "&".intercalate options)

/-- What is opened for a name that may be a file address. -/
def targetOfName (name : String) : Except Unusable Target :=
  if Target.scheme.toList.isPrefixOf name.toList then
    Target.ofAddress (name.toList.drop Target.scheme.length)
  else .ok (Target.ofName (FileName.ofText name))

/-- What is opened for a name that is no file address: memory if there is no name. The path of a
file is taken by its names alone. -/
def targetOfPlain (name : String) : Target :=
  if name = "" then Target.ofName (FileName.ofText Target.memoryName)
  else
    let target := Target.ofName (FileName.ofText name)
    match target.medium with
    | .file names => { target with medium := .file (Path.resolve names) }
    | _ => target

/-- What an address opens. A fault of the address shows at once; what is refused, and a fault of the
file address within it, show when the database is first used. -/
def target (l : Locator) : Except AddressFault (Except Unusable Target) := do
  if let some name := l.plugin? then throw (.unknownPlugin name)
  let l := l.withoutPlugins
  let driver ← Driver.ofAddress l.driver
  if l.hasForeignParts then throw (.foreignParts l.shown)
  let options ← DriverOptions.read l
  let name ← if options.uri then l.addressName else pure (l.database.getD "")
  if driver = .blocking then throw .blocking
  -- What is refused below shows only when the database is used.
  if let some what := options.refusal? then return .error (.unfit what)
  if name.toList.contains '\x00' then return .error (.unfit .path)
  if options.uri then return targetOfName name
  else return .ok (targetOfPlain name)

end Locator

end DeliveryStore
