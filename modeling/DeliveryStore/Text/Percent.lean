import DeliveryStore.Text.Hex
import DeliveryStore.Text.Utf8

/-!
# Percent coding and forms

In a percent-coded text a percent sign and two hexadecimal digits stand for one byte, and runs of
ASCII are read as UTF-8 once their bytes are known; a percent sign without two digits stands for
itself. A form is a list of `key=value` items between ampersands, with a plus sign for a space.
-/

namespace DeliveryStore.Text.Percent

/-- Decoding, with the bytes of the current ASCII run in reverse. -/
def decodeFrom (run : List UInt8) : List Char → List Char
  | [] => Utf8.decode run.reverse
  | '%' :: a :: b :: rest =>
    match Hex.byte? a b with
    | some byte => decodeFrom (byte :: run) rest
    | none => decodeFrom (0x25 :: run) (a :: b :: rest)
  | c :: rest =>
    if c.toNat < 0x80 then decodeFrom (UInt8.ofNat c.toNat :: run) rest
    else Utf8.decode run.reverse ++ c :: decodeFrom [] rest

/-- The text that a percent-coded text stands for. -/
def decode (text : List Char) : List Char := decodeFrom [] text

/-- The bytes that a percent-coded text stands for. -/
def bytes : List Char → List UInt8
  | [] => []
  | '%' :: a :: b :: rest =>
    match Hex.byte? a b with
    | some byte => byte :: bytes rest
    | none => 0x25 :: bytes (a :: b :: rest)
  | c :: rest => String.utf8EncodeChar c ++ bytes rest

/-- Characters that percent coding never touches. -/
def isUnreserved (c : Char) : Bool :=
  c.isAlphanum || c == '_' || c == '.' || c == '-' || c == '~'

/-- Percent coding that leaves the unreserved characters and those of `safe` alone. -/
def encode (safe : List Char) (text : List Char) : List Char :=
  text.flatMap fun c =>
    if isUnreserved c || safe.contains c then [c]
    else (String.utf8EncodeChar c).flatMap fun b =>
      '%' :: (hexadecimal 2 b.toNat).map Char.toUpper

/-- Percent coding of a form's key or value, with a plus sign for a space. -/
def encodeForm (text : List Char) : List Char :=
  (encode [' '] text).map fun c => if c = ' ' then '+' else c

/-- A form's key or value, decoded. -/
def decodeForm (text : List Char) : List Char :=
  decode (text.map fun c => if c = '+' then ' ' else c)

/-- The part before the first `c`, and the part after it if there is one. -/
def cut (c : Char) (text : List Char) : List Char × Option (List Char) :=
  (text.takeWhile (· ≠ c), (text.dropWhile (· ≠ c)).tail? )

/-- The items of a form in order. Items with no value, or with an empty one, are left out. -/
def form (text : List Char) : List (String × String) :=
  (text.splitOn '&').filterMap fun item =>
    match cut '=' item with
    | (key, some value) =>
      if value.isEmpty then none
      else some (String.ofList (decodeForm key), String.ofList (decodeForm value))
    | (_, none) => none

/-- A text without a percent sign stands for its own bytes. -/
theorem bytes_of_plain {text : List Char} (h : '%' ∉ text) : bytes text = Utf8.encode text := by
  induction text with
  | nil => rfl
  | cons c rest ih =>
    have hc : c ≠ '%' := fun e => h (by simp [e])
    have hr : '%' ∉ rest := fun e => h (by simp [e])
    rw [bytes, ih hr]
    · rfl
    · intro a b r e; exact absurd e hc

/-- A text is its part before the first `c`, that `c`, and the rest. -/
theorem cut_append (c : Char) (text : List Char) :
    (cut c text).1 ++ (match (cut c text).2 with | some rest => c :: rest | none => []) = text := by
  induction text with
  | nil => rfl
  | cons x xs ih =>
    by_cases h : x = c
    · simp [cut, h]
    · simpa [cut, h] using ih

end DeliveryStore.Text.Percent
