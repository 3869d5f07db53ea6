import DeliveryStore.Text.Numeral

/-!
# Reading bytes as UTF-8

Bytes that are not UTF-8 do not stop the reading: each longest run of bytes that could have begun a
character, and each byte that could not, is read as one replacement character. Where they may not be
passed over, `fault?` finds the first of them.
-/

namespace DeliveryStore.Text.Utf8

/-- What a text shows in place of bytes that are not UTF-8. -/
def replacement : Char := Char.ofNat 0xfffd

/-- A character begun: the bits so far, how many bytes are missing, and the bounds of the next. -/
structure Pending where
  bits : Nat
  missing : Nat
  low : Nat
  high : Nat

/-- What one byte does at the beginning of a character. -/
inductive Opening where
  | whole (c : Char)
  | begun (p : Pending)
  | bad

/-- The leading bytes of UTF-8, with the bounds that rule out overlong forms, surrogates and code
points beyond the last. -/
def opening (b : Nat) : Opening :=
  if b < 0x80 then .whole (Char.ofNat b)
  else if 0xc2 ≤ b ∧ b ≤ 0xdf then .begun ⟨b - 0xc0, 1, 0x80, 0xbf⟩
  else if b = 0xe0 then .begun ⟨0, 2, 0xa0, 0xbf⟩
  else if b = 0xed then .begun ⟨0xd, 2, 0x80, 0x9f⟩
  else if 0xe1 ≤ b ∧ b ≤ 0xef then .begun ⟨b - 0xe0, 2, 0x80, 0xbf⟩
  else if b = 0xf0 then .begun ⟨0, 3, 0x90, 0xbf⟩
  else if 0xf1 ≤ b ∧ b ≤ 0xf3 then .begun ⟨b - 0xf0, 3, 0x80, 0xbf⟩
  else if b = 0xf4 then .begun ⟨4, 3, 0x80, 0x8f⟩
  else .bad

/-- Reading with a character begun, or with none. -/
def read : Option Pending → List UInt8 → List Char
  | none, [] => []
  | some _, [] => [replacement]
  | none, b :: rest =>
    match opening b.toNat with
    | .whole c => c :: read none rest
    | .begun p => read (some p) rest
    | .bad => replacement :: read none rest
  | some p, b :: rest =>
    if p.low ≤ b.toNat ∧ b.toNat ≤ p.high then
      let bits := p.bits * 64 + (b.toNat - 0x80)
      if p.missing ≤ 1 then Char.ofNat bits :: read none rest
      else read (some ⟨bits, p.missing - 1, 0x80, 0xbf⟩) rest
    else
      replacement :: match opening b.toNat with
        | .whole c => c :: read none rest
        | .begun q => read (some q) rest
        | .bad => replacement :: read none rest

/-- The text that some bytes hold. -/
def decode (bytes : List UInt8) : List Char := read none bytes

/-! ## Faults -/

/-- Why bytes are not UTF-8: one that begins no character, one that does not go on with the
character begun, or an end within a character. -/
inductive FaultKind where
  | opening
  | continuation
  | ending
deriving DecidableEq, Repr

/-- The wording of why bytes are not UTF-8. -/
def FaultKind.message : FaultKind → String
  | opening => "invalid start byte"
  | continuation => "invalid continuation byte"
  | ending => "unexpected end of data"

/-- The first bytes that are not UTF-8: where they start, how many they are, and the first. -/
structure Fault where
  start : Nat
  count : Nat
  first : UInt8
  kind : FaultKind
deriving DecidableEq, Repr

namespace Fault

/-- A fault found that many bytes further on. -/
def after (f : Fault) (n : Nat) : Fault := { f with start := n + f.start }

/-- The wording of a fault. -/
def message (f : Fault) : String :=
  let place :=
    if f.count = 1 then
      "byte 0x" ++ String.ofList (hexadecimal 2 f.first.toNat) ++ " in position " ++
        f.start.repr
    else "bytes in position " ++ f.start.repr ++ "-" ++ (f.start + f.count - 1).repr
  "'utf-8' codec can't decode " ++ place ++ ": " ++ f.kind.message

end Fault

/-- A character begun, with its first byte and the number of bytes read of it. -/
structure Begun where
  pending : Pending
  first : UInt8
  count : Nat

/-- Looks for a fault from a place on, with a character begun or with none. -/
def faultFrom (place : Nat) : Option Begun → List UInt8 → Option Fault
  | none, [] => none
  | some c, [] => some ⟨place - c.count, c.count, c.first, .ending⟩
  | none, b :: rest =>
    match opening b.toNat with
    | .whole _ => faultFrom (place + 1) none rest
    | .begun p => faultFrom (place + 1) (some ⟨p, b, 1⟩) rest
    | .bad => some ⟨place, 1, b, .opening⟩
  | some c, b :: rest =>
    if c.pending.low ≤ b.toNat ∧ b.toNat ≤ c.pending.high then
      if c.pending.missing ≤ 1 then faultFrom (place + 1) none rest
      else
        let pending := { c.pending with missing := c.pending.missing - 1, low := 0x80, high := 0xbf }
        faultFrom (place + 1) (some { c with pending, count := c.count + 1 }) rest
    else some ⟨place - c.count, c.count, c.first, .continuation⟩

/-- The first fault of some bytes. -/
def fault? (bytes : List UInt8) : Option Fault := faultFrom 0 none bytes

/-! ## Writing -/

/-- The bytes of a text. -/
def encode (text : List Char) : List UInt8 := text.flatMap String.utf8EncodeChar

/-- The number of bytes of a text. -/
def size (s : String) : Nat := (encode s.toList).length

/-- ASCII is read byte by byte. -/
theorem decode_ascii_cons {b : UInt8} (h : b.toNat < 0x80) (bytes : List UInt8) :
    decode (b :: bytes) = Char.ofNat b.toNat :: decode bytes := by
  simp [decode, read, opening, h]

/-- ASCII is without fault. -/
theorem faultFrom_ascii {bytes : List UInt8} (h : ∀ b ∈ bytes, b.toNat < 0x80) (place : Nat) :
    faultFrom place none bytes = none := by
  induction bytes generalizing place with
  | nil => rfl
  | cons b rest ih =>
    have hb : b.toNat < 0x80 := h b (by simp)
    simp only [faultFrom, opening, if_pos hb]
    exact ih (fun c hc => h c (by simp [hc])) (place + 1)

end DeliveryStore.Text.Utf8
