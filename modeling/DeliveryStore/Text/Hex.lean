import DeliveryStore.Text.Numeral

/-!
# Bytes as hexadecimal text

Identifiers and payloads are shown as two lower-case digits a byte. Reading accepts capitals too.
Main statement: `decode?_encode`, reading what was written gives the bytes back.
-/

namespace DeliveryStore.Text.Hex

/-- Two lower-case digits for each byte. -/
def encode (bytes : List UInt8) : List Char :=
  bytes.flatMap fun b => hexadecimal 2 b.toNat

/-- The value of one hexadecimal digit, in either case. -/
def digit? (c : Char) : Option Nat :=
  if '0' ≤ c ∧ c ≤ '9' then some (c.toNat - 48)
  else if 'a' ≤ c ∧ c ≤ 'f' then some (c.toNat - 87)
  else if 'A' ≤ c ∧ c ≤ 'F' then some (c.toNat - 55)
  else none

/-- The byte that two digits stand for. -/
def byte? (high low : Char) : Option UInt8 := do
  let h ← digit? high
  let l ← digit? low
  return UInt8.ofNat (16 * h + l)

/-- The bytes that a text of digit pairs stands for. -/
def decode? : List Char → Option (List UInt8)
  | [] => some []
  | [_] => none
  | high :: low :: rest => do
    let b ← byte? high low
    let bs ← decode? rest
    return b :: bs

/-- The hexadecimal text of some bytes. -/
def text (bytes : List UInt8) : String := String.ofList (encode bytes)

/-- The two digits of a byte read back as that byte. -/
theorem byte?_hexadecimal (b : UInt8) :
    byte? (Nat.digitChar (b.toNat / 16 % 16)) (Nat.digitChar (b.toNat % 16)) = some b := by
  have h : ∀ n : Fin 256, byte? (Nat.digitChar (n.val / 16 % 16)) (Nat.digitChar (n.val % 16)) =
      some (UInt8.ofNat n.val) := by decide +kernel
  have := h ⟨b.toNat, b.toNat_lt⟩
  simpa using this

theorem encode_cons (b : UInt8) (bs : List UInt8) :
    encode (b :: bs) =
      Nat.digitChar (b.toNat / 16 % 16) :: Nat.digitChar (b.toNat % 16) :: encode bs := by
  simp [encode, hexadecimal, fixed]

/-- Reading what was written gives the bytes back. -/
theorem decode?_encode (bytes : List UInt8) : decode? (encode bytes) = some bytes := by
  induction bytes with
  | nil => rfl
  | cons b bs ih =>
    rw [encode_cons, decode?, byte?_hexadecimal, ih]
    rfl

end DeliveryStore.Text.Hex
