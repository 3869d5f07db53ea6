import DeliveryStore.Locator
import DeliveryStore.Text.Blank
import DeliveryStore.Text.Lower

/-!
# Options of the driver

Some options of an address steer the driver and are no part of a file address. `DriverOptions.read`
reads them one after the other, and the first that cannot be read is the fault of the address. What
can be read may still be refused when the database is first used.
-/

namespace DeliveryStore

namespace OptionValue

/-- The words for on and for off, apart. -/
def switchWords : List String × List String :=
  (["true", "yes", "on", "y", "t", "1"], ["false", "no", "off", "n", "f", "0"])

/-- A switch: one of the words in any case, or several words, which count as on. -/
def switch : OptionValue → Except AddressFault Bool
  | several _ => .ok true
  | one s =>
    let word := Text.lower (String.ofList (Text.trim Text.isBlank s.toList))
    if switchWords.1.contains word then .ok true
    else if switchWords.2.contains word then .ok false
    else .error (.badSwitch word)

/-- A whole number. -/
def whole : OptionValue → Except AddressFault Int
  | several _ => .error .severalWholes
  | one s =>
    match Text.readWhole s.toList with
    | .ok n => .ok n
    | .error fault => .error (.badWhole s fault)

/-- Whether a value is a decimal number. Which one does not matter to what is opened. -/
def decimal : OptionValue → Except AddressFault Unit
  | several _ => .error .severalDecimals
  | one s => if Text.isDecimal s.toList then .ok () else .error (.badDecimal s)

/-- Whether an option was given several times. -/
def isSeveral : OptionValue → Bool
  | several _ => true
  | one _ => false

end OptionValue

/-- What the options of an address tell the driver. -/
structure DriverOptions where
  uri : Bool := false
  severalLevels : Bool := false
  detectTypes : Int := 0
  cachedStatements : Int := 0
deriving DecidableEq, Repr

namespace DriverOptions

/-- The names of the options that steer the driver. -/
def names : List String :=
  ["uri", "timeout", "isolation_level", "detect_types", "check_same_thread", "cached_statements"]

/-- The value of an option, or a default if it is not given. -/
def valueOr {α : Type} (l : Locator) (name : String) (default : α)
    (read : OptionValue → Except AddressFault α) : Except AddressFault α :=
  match l.option? name with
  | none => .ok default
  | some v => read v

/-- Reads the options of an address. -/
def read (l : Locator) : Except AddressFault DriverOptions := do
  let uri ← valueOr l "uri" false OptionValue.switch
  valueOr l "timeout" () OptionValue.decimal
  let severalLevels := (l.option? "isolation_level").any OptionValue.isSeveral
  let detectTypes ← valueOr l "detect_types" 0 OptionValue.whole
  let _ ← valueOr l "check_same_thread" false OptionValue.switch
  let cachedStatements ← valueOr l "cached_statements" 0 OptionValue.whole
  return { uri, severalLevels, detectTypes, cachedStatements }

/-- Whether a number has 32 bits with its sign. -/
def fits (n : Int) : Bool := -2147483648 ≤ n && n < 2147483648

/-- What is refused when the database is first used. -/
def refusal? (o : DriverOptions) : Option Unfit :=
  if !fits o.detectTypes then some .number
  else if o.severalLevels then some .isolation
  else if !fits o.cachedStatements then some .number
  else none

end DriverOptions

end DeliveryStore
