import DeliveryStore.Text.Blank
import DeliveryStore.Text.Digit

/-!
# Numbers in texts

Whole numbers and decimal numbers as texts give them: with blanks around them, in the digits of any
script, and with single underscores between digits. A whole number may not have more digits than
`greatestDigits`, which keeps the work of reading it within bounds.
-/

namespace DeliveryStore.Text

/-- The blanks that may stand around a number: every blank but the information separators. -/
def isNumberBlank (c : Char) : Bool := isBlank c && !isSeparator c

/-- How many digits a whole number may have. -/
def greatestDigits : Nat := 4300

/-- Why a text gives no whole number. -/
inductive NumberFault where
  | unreadable
  | tooLong (digits : Nat)
deriving DecidableEq, Repr

/-! ## Whole numbers -/

/-- A whole number without its sign, read from the left: the value so far, how many digits were
read, and whether an underscore came last. What stands behind the digits is left over. -/
structure Scan where
  value : Nat := 0
  digits : Nat := 0
  underscore : Bool := false
  rest : List Char
deriving Repr

/-- Reads digits, and underscores so long as they do not touch. -/
def scan (value digits : Nat) (underscore : Bool) : List Char → Option Scan
  | [] => some ⟨value, digits, underscore, []⟩
  | c :: rest =>
    if c = '_' then
      if underscore || digits = 0 then none else scan value digits true rest
    else match digitValue? c with
      | some d => scan (10 * value + d) (digits + 1) false rest
      | none => some ⟨value, digits, underscore, c :: rest⟩

/-- The value of a text that is a whole number without its sign. That there are too many digits is
noticed before what may stand behind them. -/
def unsigned (text : List Char) : Except NumberFault Nat :=
  match scan 0 0 false text with
  | none => .error .unreadable
  | some s =>
    if s.underscore then .error .unreadable
    else if greatestDigits < s.digits then .error (.tooLong s.digits)
    else if s.digits = 0 || !s.rest.isEmpty then .error .unreadable
    else .ok s.value

/-- The whole number that a text gives. -/
def readWhole (text : List Char) : Except NumberFault Int :=
  match trim isNumberBlank text with
  | '-' :: rest => (unsigned rest).map fun n => -(n : Int)
  | '+' :: rest => (unsigned rest).map fun n => (n : Int)
  | cs => (unsigned cs).map fun n => (n : Int)

/-! ## Decimal numbers -/

/-- A text without its underscores, each of which must stand between two digits. -/
def withoutUnderscores (afterDigit : Bool) : List Char → Option (List Char)
  | [] => some []
  | '_' :: c :: rest =>
    if afterDigit && isDigit c then (withoutUnderscores true rest).map (c :: ·) else none
  | c :: rest => if c = '_' then none else (withoutUnderscores (isDigit c) rest).map (c :: ·)

/-- A text without one sign in front. -/
def withoutSign : List Char → List Char
  | '-' :: rest => rest
  | '+' :: rest => rest
  | cs => cs

/-- The words for numbers without digits. -/
def numberWords : List String := ["inf", "infinity", "nan"]

/-- Whether a text is nothing or an exponent with its digits. -/
def isExponent : List Char → Bool
  | [] => true
  | c :: rest =>
    (c == 'e' || c == 'E') && !(withoutSign rest).isEmpty && (withoutSign rest).all isDigit

/-- Whether a text gives a decimal number: digits with a point anywhere among them or with none,
and an exponent if need be; or one of the words, in any case. -/
def isDecimal (text : List Char) : Bool :=
  match withoutUnderscores false (trim isNumberBlank text) with
  | none => false
  | some plain =>
    let body := withoutSign plain
    let whole := body.takeWhile isDigit
    let afterWhole := body.dropWhile isDigit
    let fraction : List Char := match afterWhole with
      | '.' :: more => more.takeWhile isDigit
      | _ => []
    let rest : List Char := match afterWhole with
      | '.' :: more => more.dropWhile isDigit
      | _ => afterWhole
    numberWords.contains (String.ofList (body.map Char.toLower)) ||
      (!(whole ++ fraction).isEmpty && isExponent rest)

/-- No number can be read from nothing. -/
theorem readWhole_nil : readWhole [] = .error .unreadable := rfl

end DeliveryStore.Text
