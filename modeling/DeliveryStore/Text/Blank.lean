/-!
# Blanks

The characters that count as blank in Unicode 14, and texts without the blanks around them.
-/

namespace DeliveryStore.Text

/-- The blanks: the space, the controls that move the print head, the four information separators,
and the spaces and line ends beyond ASCII. -/
def isBlank (c : Char) : Bool :=
  let n := c.toNat
  (9 ≤ n && n ≤ 13) || (28 ≤ n && n ≤ 32) || n == 0x85 || n == 0xa0 || n == 0x1680 ||
    (0x2000 ≤ n && n ≤ 0x200a) || n == 0x2028 || n == 0x2029 || n == 0x202f || n == 0x205f ||
    n == 0x3000

/-- The four information separators of ASCII. -/
def isSeparator (c : Char) : Bool := 28 ≤ c.toNat && c.toNat ≤ 31

/-- A text without the characters of a class that stand around it. -/
def trim (passed : Char → Bool) (text : List Char) : List Char :=
  ((text.dropWhile passed).reverse.dropWhile passed).reverse

/-- A text that neither begins nor ends with a character of the class is left alone. -/
theorem trim_of_ends {passed : Char → Bool} {c d : Char} {text : List Char}
    (hc : passed c = false) (hd : passed d = false) :
    trim passed (c :: text ++ [d]) = c :: text ++ [d] := by
  simp [trim, hc, hd]

end DeliveryStore.Text
