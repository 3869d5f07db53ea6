/-!
# Numerals of a fixed width

`fixed base width n` writes `n` in exactly `width` digits, with leading zeros. Where all texts have
one width, the order of the texts is the order of the numbers, which is what stored times rest on.
-/

namespace DeliveryStore.Text

/-- The last `width` digits of `n`, most significant first. -/
def fixed (base : Nat) : Nat → Nat → List Char
  | 0, _ => []
  | width + 1, n => fixed base width (n / base) ++ [Nat.digitChar (n % base)]

/-- The text has as many digits as were asked for. -/
@[simp] theorem length_fixed (base width n : Nat) : (fixed base width n).length = width := by
  induction width generalizing n with
  | zero => rfl
  | succ w ih => simp [fixed, ih]

/-- Decimal digits of a fixed width. -/
def decimal (width n : Nat) : List Char := fixed 10 width n

/-- Hexadecimal digits of a fixed width, in lower case. -/
def hexadecimal (width n : Nat) : List Char := fixed 16 width n

/-- A whole number as people write it: a minus sign if need be, and no leading zeros. -/
def wholeNumber (n : Int) : String :=
  match n with
  | .ofNat k => k.repr
  | .negSucc k => "-" ++ (k + 1).repr

end DeliveryStore.Text
