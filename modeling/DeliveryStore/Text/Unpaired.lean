import DeliveryStore.Text.Quoted

/-!
# Texts with unpaired surrogates

A caller's text may hold code points that are no characters: surrogates that stand alone. UTF-8 has
no bytes for them, so that such a text can be shown but not stored. `Unpaired.fault` is what becomes
of an attempt to write it down.
-/

namespace DeliveryStore.Text

/-- A surrogate, by its place among them. -/
abbrev Surrogate := Fin 2048

/-- The code point of a surrogate. -/
def Surrogate.number (s : Surrogate) : Nat := 0xd800 + s.val

/-- How a surrogate is written down between quotes. -/
def Surrogate.escape (s : Surrogate) : List Char := '\\' :: 'u' :: hexadecimal 4 s.number

/-- A text with a surrogate that stands alone: what comes before the first one, that one, and what
comes after it. -/
structure Unpaired where
  before : List Char
  surrogate : Surrogate
  after : List (Char ⊕ Surrogate)
deriving DecidableEq, Repr

namespace Unpaired

/-- All that the text holds, in order. -/
def points (t : Unpaired) : List (Char ⊕ Surrogate) :=
  t.before.map .inl ++ .inr t.surrogate :: t.after

/-- How one character or surrogate is written down between quotes `q`. -/
def escape (q : Char) : Char ⊕ Surrogate → List Char
  | .inl c => Quoted.escape isPrintable q c
  | .inr s => s.escape

/-- The text in quotes, by the rules for other texts. -/
def quote (t : Unpaired) : String :=
  let q := Quoted.mark (t.points.filterMap Sum.getLeft?)
  String.ofList (q :: t.points.flatMap (escape q) ++ [q])

/-- The text with a replacement character for each surrogate, since nothing can be printed for them. -/
def replaced (t : Unpaired) : String :=
  String.ofList (t.points.map fun
    | .inl c => c
    | .inr _ => Char.ofNat 0xfffd)

/-! ## Writing it down -/

/-- The first surrogates that UTF-8 has no bytes for: where they start, how many stand together, and
the first of them. -/
structure Fault where
  start : Nat
  count : Nat
  first : Surrogate
deriving DecidableEq, Repr

/-- The wording of a fault. -/
def Fault.message (f : Fault) : String :=
  let place :=
    if f.count = 1 then
      "character '" ++ String.ofList f.first.escape ++ "' in position " ++ f.start.repr
    else "characters in position " ++ f.start.repr ++ "-" ++ (f.start + f.count - 1).repr
  "'utf-8' codec can't encode " ++ place ++ ": surrogates not allowed"

/-- What keeps a text from being written down. -/
def fault (t : Unpaired) : Fault where
  start := t.before.length
  count := (t.after.takeWhile Sum.isRight).length + 1
  first := t.surrogate

end Unpaired

end DeliveryStore.Text
