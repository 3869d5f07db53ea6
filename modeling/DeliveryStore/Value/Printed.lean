import DeliveryStore.Value
import DeliveryStore.Text.Quoted

/-!
# Values as text

Each value has two texts: the plain one, by which a text stands for itself, and the literal one,
which shows how the value is written down. They differ for texts, identifiers and moments only.
Collections show their items literally.
-/

namespace DeliveryStore

namespace Moment

/-- The microseconds after the point, if there are any. -/
def microText (micro : Nat) : List Char :=
  if micro = 0 then [] else '.' :: Text.decimal 6 micro

/-- An offset from UTC as hours and minutes, with seconds and microseconds if there are any. -/
def offsetText (o : Int) : List Char :=
  let n := o.natAbs
  let second := n / 1000000 % 60
  let micro := n % 1000000
  (if o < 0 then '-' else '+') :: Text.decimal 2 (n / 3600000000) ++
    ':' :: Text.decimal 2 (n / 60000000 % 60) ++
    (if second = 0 ∧ micro = 0 then [] else ':' :: Text.decimal 2 second) ++ microText micro

/-- The date and the time with a space between, and the offset if there is one. -/
def plain (m : Moment) : String :=
  let c := m.civil
  String.ofList (Text.decimal 4 c.year ++ '-' :: Text.decimal 2 c.month ++ '-' ::
    Text.decimal 2 c.day ++ ' ' :: Text.decimal 2 c.hour ++ ':' :: Text.decimal 2 c.minute ++
    ':' :: Text.decimal 2 c.second ++ microText c.micro ++
    match m.offset with
    | some o => offsetText o
    | none => [])

/-- An offset from UTC, by its days, seconds and microseconds. -/
def offsetLiteral (o : Int) : String :=
  if o = 0 then "datetime.timezone.utc"
  else
    let days := o / microsPerDay
    let seconds := o % microsPerDay / 1000000
    let micros := o % 1000000
    let parts := (if days = 0 then [] else ["days=" ++ Text.wholeNumber days]) ++
      (if seconds = 0 then [] else ["seconds=" ++ Text.wholeNumber seconds]) ++
      (if micros = 0 then [] else ["microseconds=" ++ Text.wholeNumber micros])
    "datetime.timezone(datetime.timedelta(" ++ ", ".intercalate parts ++ "))"

/-- The fields in order, of which seconds and microseconds may be left out at the end. -/
def literal (m : Moment) : String :=
  let c := m.civil
  let tail := if c.micro ≠ 0 then [c.second, c.micro] else if c.second ≠ 0 then [c.second] else []
  let fields := ([c.year, c.month, c.day, c.hour, c.minute] ++ tail).map Nat.repr
  let zone := match m.offset with
    | some o => ["tzinfo=" ++ offsetLiteral o]
    | none => []
  "datetime.datetime(" ++ ", ".intercalate (fields ++ zone) ++ ")"

end Moment

namespace Value

mutual

/-- How a value is written down. -/
def literal : Value → String
  | null => "None"
  | bool b => if b then "True" else "False"
  | int n => Text.wholeNumber n
  | real x => x.text
  | text s => Text.Quoted.quote s
  | unpaired t => t.quote
  | bytes .fixed content => Text.Quoted.quoteBytes content
  | bytes .mutable content => "bytearray(" ++ Text.Quoted.quoteBuffer content ++ ")"
  | bytes .view _ | grid _ => "<memory>"
  | uuid id => "UUID('" ++ id.dashed ++ "')"
  | moment m => m.literal
  | list items => "[" ++ ", ".intercalate (literals items) ++ "]"
  | tuple items =>
    "(" ++ ", ".intercalate (literals items) ++ (if items.length = 1 then ",)" else ")")
  | dict entries => "\x7b" ++ ", ".intercalate (entryLiterals entries) ++ "\x7d"

/-- How the items of a collection are written down. -/
def literals : List Value → List String
  | [] => []
  | v :: rest => literal v :: literals rest

/-- How the entries of a dictionary are written down. -/
def entryLiterals : List (String × Value) → List String
  | [] => []
  | (k, v) :: rest => (Text.Quoted.quote k ++ ": " ++ literal v) :: entryLiterals rest

end

/-- The plain text of a value. -/
def plain : Value → String
  | text s => s
  | unpaired t => t.replaced
  | uuid id => id.dashed
  | moment m => m.plain
  | v => v.literal

end Value

end DeliveryStore
