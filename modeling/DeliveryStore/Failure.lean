import DeliveryStore.Text.Number
import DeliveryStore.Text.Numeral
import DeliveryStore.Text.Quoted
import DeliveryStore.Text.Unpaired
import DeliveryStore.Text.Utf8

/-!
# Failures and their causes

Why a call did not succeed, each cause with its own wording. Four classes of failure belong to the
stores themselves: a conflict, an absence, an invalid argument, and storage that cannot be used.
The remaining causes are faults of the caller or of the address, outside the four classes.
-/

namespace DeliveryStore

/-! ## The classes of failure -/

/-- The failures that the stores define. `store` is the class that holds the other four. -/
inductive ErrorClass where
  | store
  | conflict
  | notFound
  | validation
  | unavailable
deriving DecidableEq, Repr

namespace ErrorClass

/-- Every class, the one that holds the others first. -/
def all : List ErrorClass := [store, conflict, notFound, validation, unavailable]

/-- The public name of a class. -/
def name : ErrorClass → String
  | store => "StoreError"
  | conflict => "ConflictError"
  | notFound => "NotFound"
  | validation => "ValidationError"
  | unavailable => "StorageUnavailable"

/-- The class with a public name. -/
def ofName? (s : String) : Option ErrorClass := all.find? (·.name == s)

/-- Whether a failure of the first class counts as one of the second. -/
def isA (c d : ErrorClass) : Bool := c == d || d == store

/-- The classes that a failure of this class counts as. -/
def memberships (c : ErrorClass) : List ErrorClass := all.filter c.isA

/-- Whether the class also counts as a failed look-up in the caller's world. -/
def isLookup : ErrorClass → Bool
  | notFound => true
  | _ => false

/-- Whether the class also counts as a bad value in the caller's world. -/
def isValue : ErrorClass → Bool
  | validation => true
  | _ => false

/-- The name of each class belongs to it alone. -/
theorem ofName?_name (c : ErrorClass) : ofName? c.name = some c := by
  cases c <;> decide

end ErrorClass

/-! ## Causes -/

/-- What is wrong with an argument. -/
inductive Flaw where
  | identifier (field : String)
  | text (field : String)
  | blob (field : String)
  | recipientsAsText
  | noRecipients
  | limit
  | synchronous
deriving DecidableEq, Repr

/-- The wording of a flaw. -/
def Flaw.message : Flaw → String
  | identifier field => field ++ " must be 16 bytes or a UUID"
  | text field => field ++ " must be a non-empty string"
  | blob field => field ++ " must be non-empty bytes"
  | recipientsAsText => "recipients must be a collection of names, not a string"
  | noRecipients => "recipients must not be empty"
  | limit => "limit must be a positive integer"
  | synchronous => "synchronous must be one of OFF, NORMAL, FULL, EXTRA"

/-- What a look-up did not find. -/
inductive Absence where
  | keyPackage (id : String)
  | packageOfClient (client : String)
  | user (name : String)
deriving DecidableEq, Repr

/-- The wording of an absence. -/
def Absence.message : Absence → String
  | keyPackage id => "key package " ++ id ++ " not found"
  | packageOfClient client => "no key package for client " ++ Text.Quoted.quote client
  | user name => "user " ++ Text.Quoted.quote name ++ " is not registered"

/-- What keeps a database from being opened, read or written. -/
inductive StorageFault where
  | cannotOpen
  | notADatabase
  | malformed
  | unsupportedFormat
  | readOnly
  | noTable (name : String)
  | unreadable
  | tooBig
  | unknownMode (mode : String)
  | modeNotAllowed (mode : String)
  | unknownCache (cache : String)
  | unknownSystem (name : String)
  | foreignHost (host : String)
deriving DecidableEq, Repr

namespace StorageFault

/-- The class of a fault, as log entries and messages name it. -/
def label : StorageFault → String
  | notADatabase | malformed => "DatabaseError"
  | tooBig => "DataError"
  | _ => "OperationalError"

/-- What the fault says of itself. -/
def detail : StorageFault → String
  | cannotOpen => "unable to open database file"
  | notADatabase => "file is not a database"
  | malformed => "database disk image is malformed"
  | unsupportedFormat => "unsupported file format"
  | readOnly => "attempt to write a readonly database"
  | noTable name => "no such table: " ++ name
  | unreadable => "disk I/O error"
  | tooBig => "string or blob too big"
  | unknownMode mode => "no such access mode: " ++ mode
  | modeNotAllowed mode => "access mode not allowed: " ++ mode
  | unknownCache cache => "no such cache mode: " ++ cache
  | unknownSystem name => "no such vfs: " ++ name
  | foreignHost host => "invalid uri authority: " ++ host

/-- The wording of a fault, with its class in front. -/
def message (f : StorageFault) : String := "(sqlite3." ++ f.label ++ ") " ++ f.detail

end StorageFault

/-- What is refused without a look at a database. To open one, a number that does not fit, a level of
isolation that there is not, a path that holds a NUL, and a parameter that cannot even be named, as
its bytes are no text. To be put into a statement, a text that has no bytes, and a text or bytes that
are longer than can be handed over. -/
inductive Unfit where
  | number
  | isolation
  | path
  | unnamed (fault : Text.Utf8.Fault)
  | unpaired (fault : Text.Unpaired.Fault)
  | overlong (kind : String)
deriving DecidableEq, Repr

/-- The wording of what is refused in this way. -/
def Unfit.message : Unfit → String
  | number => "Python int too large to convert to C int"
  | isolation => "isolation_level string must be '', 'DEFERRED', 'IMMEDIATE', or 'EXCLUSIVE'"
  | path => "embedded null byte"
  | unnamed fault => fault.message
  | unpaired fault => fault.message
  | overlong kind => kind ++ " longer than INT_MAX bytes"

/-- Why there is no getting at a path: a file stands in the place of a directory or above it, a
directory stands in the place of a file, there is nothing above it, or a name is too long. -/
inductive PathFault where
  | fileInPlace (path : String)
  | fileAbove (path : String)
  | directoryInPlace (path : String)
  | nothingAbove (path : String)
  | nameTooLong (path : String)
deriving DecidableEq, Repr

namespace PathFault

/-- The class of a fault, as log entries name it. -/
def label : PathFault → String
  | fileInPlace _ => "FileExistsError"
  | fileAbove _ => "NotADirectoryError"
  | directoryInPlace _ => "IsADirectoryError"
  | nothingAbove _ => "FileNotFoundError"
  | nameTooLong _ => "OSError"

/-- The wording of a fault, with the number that the operating system gives it. -/
def message : PathFault → String
  | fileInPlace path => "[Errno 17] File exists: " ++ Text.Quoted.quote path
  | fileAbove path => "[Errno 20] Not a directory: " ++ Text.Quoted.quote path
  | directoryInPlace path => "[Errno 21] Is a directory: " ++ Text.Quoted.quote path
  | nothingAbove path => "[Errno 2] No such file or directory: " ++ Text.Quoted.quote path
  | nameTooLong path => "[Errno 36] File name too long: " ++ Text.Quoted.quote path

end PathFault

/-- Why an address does not name a database that can be opened. -/
inductive AddressFault where
  | missing
  | notText (shown : String)
  | unparsable
  | badWhole (text : String) (fault : Text.NumberFault)
  | severalWholes
  | badDecimal (text : String)
  | severalDecimals
  | badSwitch (value : String)
  | unknownPlugin (name : String)
  | crowdedDriver
  | unknownDriver (name : String)
  | notADriver (what : String)
  | missingPackage (name : String)
  | foreignParts (address : String)
  | optionsAlone
  | blocking
deriving DecidableEq, Repr

namespace AddressFault

/-- How much of a text that is no whole number is shown, quotes included. -/
def greatestShown : Nat := 200

/-- The wording of a fault in an address. -/
def message : AddressFault → String
  | missing => "Database.__init__() missing 1 required positional argument: 'url'"
  | notText shown => "Expected string or URL object, got " ++ shown
  | unparsable => "Could not parse SQLAlchemy URL from given URL string"
  | badWhole text .unreadable =>
    "invalid literal for int() with base 10: " ++
      String.ofList ((Text.Quoted.quote text).toList.take greatestShown)
  | badWhole _ (.tooLong digits) =>
    "Exceeds the limit (" ++ Text.greatestDigits.repr ++
      " digits) for integer string conversion: value has " ++ digits.repr ++
      " digits; use sys.set_int_max_str_digits() to increase the limit"
  | severalWholes =>
    "int() argument must be a string, a bytes-like object or a real number, not 'tuple'"
  | badDecimal text => "could not convert string to float: " ++ Text.Quoted.quote text
  | severalDecimals => "float() argument must be a string or a real number, not 'tuple'"
  | badSwitch value => "String is not true/false: " ++ Text.Quoted.quote value
  | unknownPlugin name => "Can't load plugin: sqlalchemy.plugins:" ++ name
  | crowdedDriver => "too many values to unpack (expected 2)"
  | unknownDriver name => "Can't load plugin: sqlalchemy.dialects:" ++ name
  | notADriver what => what ++ " has no attribute 'dialect'"
  | missingPackage name => "No module named '" ++ name ++ "'"
  | foreignParts address => "Invalid SQLite URL: " ++ address
  | optionsAlone => "unsupported operand type(s) for +=: 'NoneType' and 'str'"
  | blocking =>
    "The asyncio extension requires an async driver to be used. The loaded 'pysqlite' is not async."

end AddressFault

/-- Why a call failed. -/
inductive Failure where
  | conflict (operation : String)
  | absent (what : Absence)
  | invalid (flaw : Flaw)
  | unavailable (operation : String) (fault : StorageFault)
  | noDirectory (database : String) (fault : PathFault)
  | storage (fault : StorageFault)
  | path (fault : PathFault)
  | address (fault : AddressFault)
  | unfit (what : Unfit)
  | outsideCalendar
  | beforeCalendar
  | limitTooLarge
  | notAMoment (kind : String)
  | notIterable (kind : String)
  | severalDimensions
  | nestedTooDeep
  | notOffered (kind feature : String)
deriving DecidableEq, Repr

namespace Failure

/-- The class of a failure, for those that the stores define. -/
def class? : Failure → Option ErrorClass
  | conflict _ => some .conflict
  | absent _ => some .notFound
  | invalid _ => some .validation
  | unavailable _ _ => some .unavailable
  | noDirectory _ _ => some .unavailable
  | _ => none

/-- The wording of a failure. -/
def message : Failure → String
  | conflict operation => operation ++ ": record already exists"
  | absent what => what.message
  | invalid flaw => flaw.message
  | unavailable operation fault => operation ++ ": " ++ fault.message
  | noDirectory database fault =>
    "open: cannot create directory for " ++ database ++ ": " ++ fault.message
  | storage fault => fault.message
  | path fault => fault.message
  | address fault => fault.message
  | unfit what => what.message
  | outsideCalendar => "date value out of range"
  | beforeCalendar => "year 0 is out of range"
  | limitTooLarge => "Python int too large to convert to SQLite INTEGER"
  | notAMoment kind => "'" ++ kind ++ "' object has no attribute 'tzinfo'"
  | notIterable kind => "'" ++ kind ++ "' object is not iterable"
  | severalDimensions => "multi-dimensional sub-views are not implemented"
  | nestedTooDeep => "maximum recursion depth exceeded while calling a Python object"
  | notOffered kind feature => "'" ++ kind ++ "' object has no attribute '" ++ feature ++ "'"

end Failure

/-! ## What storage cannot be used for -/

/-- Why something cannot be used in storage: it is refused without a look there, or storage fails. -/
inductive Unusable where
  | unfit (what : Unfit)
  | storage (fault : StorageFault)
deriving DecidableEq, Repr

/-- The failure of a use that is not an operation of the stores. -/
def Unusable.failure : Unusable → Failure
  | unfit what => .unfit what
  | storage fault => .storage fault

end DeliveryStore
