import DeliveryStore.Text.Numeral
import DeliveryStore.Text.Printable

/-!
# Quoted text

A text is shown between single quotes, or between double quotes if it holds a single quote and no
double one. The backslash and the quote in use are escaped, tab, line feed and carriage return
have letters of their own, and every other character that is not printable is written by its code
point. Bytes are quoted in the same way, as ASCII with a `b` in front.
-/

namespace DeliveryStore.Text.Quoted

/-- The single quote. -/
def single : Char := '\x27'

/-- The double quote. -/
def double : Char := '\x22'

/-- The quote to put around a text: the double one only if it avoids an escape. -/
def mark (text : List Char) : Char :=
  if text.contains single && !text.contains double then double else single

/-- A character by its code point, in the shortest of the three forms that holds it. -/
def byCodePoint (c : Char) : List Char :=
  if c.toNat < 0x100 then '\\' :: 'x' :: hexadecimal 2 c.toNat
  else if c.toNat < 0x10000 then '\\' :: 'u' :: hexadecimal 4 c.toNat
  else '\\' :: 'U' :: hexadecimal 8 c.toNat

/-- One character between quotes `q`, where `shown` tells which characters stand for themselves. -/
def escape (shown : Char → Bool) (q c : Char) : List Char :=
  if c = '\\' ∨ c = q then ['\\', c]
  else if c = '\t' then ['\\', 't']
  else if c = '\n' then ['\\', 'n']
  else if c = '\r' then ['\\', 'r']
  else if shown c then [c]
  else byCodePoint c

/-- The characters between quotes `outer`, with the quotes `inner` among them escaped. -/
def between (outer inner : Char) (shown : Char → Bool) (text : List Char) : List Char :=
  outer :: text.flatMap (escape shown inner) ++ [outer]

/-- The characters between the quotes that suit them. -/
def enclose (shown : Char → Bool) (text : List Char) : List Char :=
  between (mark text) (mark text) shown text

/-- A text in quotes. -/
def quote (s : String) : String := String.ofList (enclose isPrintable s.toList)

/-- The visible ASCII characters and the space. -/
def isVisibleAscii (c : Char) : Bool := 0x20 ≤ c.toNat && c.toNat < 0x7f

/-- Bytes as characters, each byte being a code point. -/
def latin (bytes : List UInt8) : List Char := bytes.map fun b => Char.ofNat b.toNat

/-- Bytes in quotes, with a `b` in front. -/
def quoteBytes (bytes : List UInt8) : String :=
  String.ofList ('b' :: enclose isVisibleAscii (latin bytes))

/-- Bytes of a buffer in quotes, with a `b` in front. Single quotes are escaped even where they need
not be. -/
def quoteBuffer (bytes : List UInt8) : String :=
  String.ofList ('b' :: between (mark (latin bytes)) single isVisibleAscii (latin bytes))

/-- A quoted text is never empty: it begins with its quote. -/
theorem enclose_ne_nil (shown : Char → Bool) (text : List Char) : enclose shown text ≠ [] := by
  simp [enclose, between]

end DeliveryStore.Text.Quoted
