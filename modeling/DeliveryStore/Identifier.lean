import DeliveryStore.Text.Hex

/-!
# Identifiers

Key packages and messages are named by sixteen bytes. A caller may bring any sixteen, or have them
drawn at random, in which case four bits name the version and two the variant of the layout.
-/

namespace DeliveryStore

/-- The number of bytes of an identifier. -/
def idSize : Nat := 16

/-- Sixteen bytes that name a key package or a message. -/
structure Identifier where
  bytes : List UInt8
  size_eq : bytes.length = idSize
deriving DecidableEq, Repr

namespace Identifier

/-- The identifier with these bytes, if there are sixteen. -/
def ofBytes? (bytes : List UInt8) : Option Identifier :=
  if h : bytes.length = idSize then some ⟨bytes, h⟩ else none

/-- The 32 hexadecimal digits of an identifier. -/
def hex (id : Identifier) : String := Text.Hex.text id.bytes

/-- The digits in groups of eight, four, four, four and twelve, with dashes between. -/
def dashed (id : Identifier) : String :=
  let digits := Text.Hex.encode id.bytes
  String.ofList (digits.take 8 ++ '-' :: (digits.drop 8).take 4 ++ '-' :: (digits.drop 12).take 4 ++
    '-' :: (digits.drop 16).take 4 ++ '-' :: digits.drop 20)

/-- The version in the high half of byte 6. -/
def version (id : Identifier) : Nat := (id.bytes.getD 6 0).toNat / 16

/-- The variant in the two high bits of byte 8. -/
def variant (id : Identifier) : Nat := (id.bytes.getD 8 0).toNat / 64

/-- Sixteen bytes marked as drawn at random: version 4 of variant 2. -/
def marked (id : Identifier) : Identifier where
  bytes := (id.bytes.modify 6 fun b => b % 16 + 0x40).modify 8 fun b => b % 64 + 0x80
  size_eq := by simp [id.size_eq]

/-- Reading back the bytes of an identifier gives that identifier. -/
theorem ofBytes?_bytes (id : Identifier) : ofBytes? id.bytes = some id := by
  simp [ofBytes?, id.size_eq]

/-- `n` bytes drawn at random. -/
def drawBytes (gen : StdGen) : (n : Nat) → { bs : List UInt8 // bs.length = n } × StdGen
  | 0 => (⟨[], rfl⟩, gen)
  | n + 1 =>
    let (b, gen) := randNat gen 0 255
    let (⟨bs, h⟩, gen) := drawBytes gen n
    (⟨UInt8.ofNat b :: bs, by simp [h]⟩, gen)

/-- A new identifier, drawn at random. -/
def draw (gen : StdGen) : Identifier × StdGen :=
  let (⟨bytes, h⟩, gen) := drawBytes gen idSize
  (marked ⟨bytes, h⟩, gen)

/-- That many new identifiers, in the order drawn. -/
def drawMany (gen : StdGen) : Nat → List Identifier
  | 0 => []
  | n + 1 => let (id, gen) := draw gen; id :: drawMany gen n

/-- A marked identifier is of version 4. -/
theorem version_marked (id : Identifier) : id.marked.version = 4 := by
  obtain ⟨bytes, h⟩ := id
  have h6 : 6 < bytes.length := by simp [h, idSize]
  simp [version, marked, List.getD_eq_getElem?_getD, h6]
  omega

/-- A marked identifier is of variant 2. -/
theorem variant_marked (id : Identifier) : id.marked.variant = 2 := by
  obtain ⟨bytes, h⟩ := id
  have h8 : 8 < bytes.length := by simp [h, idSize]
  simp [variant, marked, List.getD_eq_getElem?_getD, h8]
  omega

end Identifier

end DeliveryStore
