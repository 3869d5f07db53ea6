import DeliveryStore.Text.Utf8
import Mathlib.Tactic.Common

/-!
# UTF-8

What is written in UTF-8 is read as what it was, and in it the bytes of ASCII stand for the characters
of ASCII only. Main statements:

* `mem_encode_iff` — a character of ASCII is in a text if its byte is in the bytes;
* `decode_encode` — the bytes of a text are read as that text.
-/

namespace DeliveryStore.Text.Utf8

/-! ## Bytes of a text -/

section

variable {c d : Char} {text : List Char}

/-- Other characters are written without the byte of a character of ASCII. -/
theorem mem_utf8EncodeChar_iff (hc : c.toNat < 128) :
    UInt8.ofNat c.toNat ∈ String.utf8EncodeChar d ↔ d = c := by
  have hsame : d = c ↔ d.val.toNat = c.toNat := by
    rw [Char.ext_iff, ← UInt32.toNat_inj]
    rfl
  unfold String.utf8EncodeChar
  rw [hsame]
  dsimp only
  -- Beyond ASCII all bytes are at least 128, however many there are.
  split
  · simp only [List.mem_singleton, ← UInt8.toNat_inj, UInt8.toNat_ofNat']
    omega
  split
  · simp only [List.mem_cons, List.not_mem_nil, or_false, ← UInt8.toNat_inj, UInt8.toNat_ofNat']
    omega
  split
  · simp only [List.mem_cons, List.not_mem_nil, or_false, ← UInt8.toNat_inj, UInt8.toNat_ofNat']
    omega
  · simp only [List.mem_cons, List.not_mem_nil, or_false, ← UInt8.toNat_inj, UInt8.toNat_ofNat']
    omega

/-- A character of ASCII is in a text if its byte is in the bytes of the text, and only then. -/
theorem mem_encode_iff (hc : c.toNat < 128) : UInt8.ofNat c.toNat ∈ encode text ↔ c ∈ text := by
  simp only [encode, List.mem_flatMap, mem_utf8EncodeChar_iff hc, exists_eq_right]

/-- The bytes of texts with a text between them are theirs with its bytes between them. -/
theorem encode_intercalate (between : List Char) (texts : List (List Char)) :
    encode (between.intercalate texts) = (encode between).intercalate (texts.map encode) := by
  induction texts with
  | nil => rfl
  | cons text rest ih =>
    cases rest with
    | nil => simp
    | cons next rest =>
      rw [List.intercalate_cons_cons, List.map_cons, List.map_cons, List.intercalate_cons_cons,
        ← List.map_cons, ← ih]
      simp only [encode, List.flatMap_append]

end

/-! ## Reading -/

section

variable {p : Pending} {b n : Nat} {rest : List UInt8}

/-- Bytes of ASCII are read as the characters with their numbers. -/
theorem decode_ascii {bytes : List UInt8} (h : ∀ b ∈ bytes, b.toNat < 0x80) :
    decode bytes = bytes.map fun b => Char.ofNat b.toNat := by
  induction bytes with
  | nil => rfl
  | cons b rest ih =>
    rw [decode_ascii_cons (h b List.mem_cons_self), List.map_cons,
      ih fun c hc => h c (List.mem_cons_of_mem _ hc)]

/-- A byte that begins a character is kept in mind. -/
theorem read_begun (hb : b < 256) (ho : opening b = .begun p) :
    read none (UInt8.ofNat b :: rest) = read (some p) rest := by
  rw [read, UInt8.toNat_ofNat', Nat.mod_eq_of_lt hb, ho]

/-- The last byte of a character adds its bits. -/
theorem read_last {bits low high : Nat} (hb : b < 256) (hlow : low ≤ b) (hhigh : b ≤ high) :
    read (some ⟨bits, 1, low, high⟩) (UInt8.ofNat b :: rest) =
      Char.ofNat (bits * 64 + (b - 0x80)) :: read none rest := by
  rw [read, UInt8.toNat_ofNat', Nat.mod_eq_of_lt hb, if_pos ⟨hlow, hhigh⟩]
  rfl

/-- A byte in the middle of a character adds its bits and leaves one less missing. -/
theorem read_middle {bits more low high : Nat} (hb : b < 256) (hlow : low ≤ b) (hhigh : b ≤ high) :
    read (some ⟨bits, more + 2, low, high⟩) (UInt8.ofNat b :: rest) =
      read (some ⟨bits * 64 + (b - 0x80), more + 1, 0x80, 0xbf⟩) rest := by
  rw [read, UInt8.toNat_ofNat', Nat.mod_eq_of_lt hb, if_pos ⟨hlow, hhigh⟩]
  exact if_neg (by dsimp only; omega)

/-- The first byte of a character of three bytes leaves room for the second. -/
theorem opening_of_three (hlow : 0x800 ≤ n) (hhigh : n < 0x10000)
    (hscalar : n < 0xd800 ∨ 0xdfff < n) :
    ∃ low high, opening (n / 4096 % 16 + 0xe0) = .begun ⟨n / 4096, 2, low, high⟩ ∧
      low ≤ n / 64 % 64 + 0x80 ∧ n / 64 % 64 + 0x80 ≤ high := by
  unfold opening
  rw [if_neg (by omega), if_neg (by omega)]
  split
  · have hbits : n / 4096 = 0 := by omega
    exact ⟨0xa0, 0xbf, by rw [hbits], by omega, by omega⟩
  split
  · have hbits : n / 4096 = 0xd := by omega
    exact ⟨0x80, 0x9f, by rw [hbits], by omega, by omega⟩
  · have hbits : n / 4096 % 16 + 0xe0 - 0xe0 = n / 4096 := by omega
    rw [if_pos (by omega), hbits]
    exact ⟨0x80, 0xbf, rfl, by omega, by omega⟩

/-- The first byte of a character of four bytes leaves room for the second. -/
theorem opening_of_four (hlow : 0x10000 ≤ n) (hhigh : n < 0x110000) :
    ∃ low high, opening (n / 262144 % 8 + 0xf0) = .begun ⟨n / 262144, 3, low, high⟩ ∧
      low ≤ n / 4096 % 64 + 0x80 ∧ n / 4096 % 64 + 0x80 ≤ high := by
  unfold opening
  iterate 5 rw [if_neg (by omega)]
  split
  · have hbits : n / 262144 = 0 := by omega
    exact ⟨0x90, 0xbf, by rw [hbits], by omega, by omega⟩
  split
  · have hbits : n / 262144 % 8 + 0xf0 - 0xf0 = n / 262144 := by omega
    rw [hbits]
    exact ⟨0x80, 0xbf, rfl, by omega, by omega⟩
  · have hbits : n / 262144 = 4 := by omega
    rw [if_pos (by omega), hbits]
    exact ⟨0x80, 0x8f, rfl, by omega, by omega⟩

/-- The bytes of a character are read as that character. -/
theorem read_utf8EncodeChar (c : Char) (rest : List UInt8) :
    read none (String.utf8EncodeChar c ++ rest) = c :: read none rest := by
  have hvalid : c.val.toNat < 0xd800 ∨ 0xdfff < c.val.toNat ∧ c.val.toNat < 0x110000 := c.valid
  have hback : Char.ofNat c.val.toNat = c := Char.ofNat_toNat c
  generalize hn : c.val.toNat = n at hvalid hback
  have hmiddle : ∀ m, m % 64 + 128 < 256 ∧ 0x80 ≤ m % 64 + 128 ∧ m % 64 + 128 ≤ 0xbf := by omega
  unfold String.utf8EncodeChar
  rw [hn]
  dsimp only
  split
  · rw [List.cons_append, List.nil_append, read, UInt8.toNat_ofNat', Nat.mod_eq_of_lt (by omega),
      opening, if_pos (by omega), hback]
  split
  · have ho : opening (n / 64 % 32 + 192) = .begun ⟨n / 64, 1, 0x80, 0xbf⟩ := by
      have hbits : n / 64 % 32 + 192 - 0xc0 = n / 64 := by omega
      rw [opening, if_neg (by omega), if_pos (by omega), hbits]
    have hbits : n / 64 * 64 + (n % 64 + 128 - 0x80) = n := by omega
    obtain ⟨hb, hlow, hhigh⟩ := hmiddle n
    rw [List.cons_append, read_begun (by omega) ho, List.cons_append, List.nil_append,
      read_last hb hlow hhigh, hbits, hback]
  split
  · obtain ⟨low, high, ho, hlow, hhigh⟩ := opening_of_three (n := n) (by omega) (by omega) (by omega)
    have hbits : (n / 4096 * 64 + (n / 64 % 64 + 128 - 0x80)) * 64 + (n % 64 + 128 - 0x80) = n := by
      omega
    obtain ⟨hb, hlow', hhigh'⟩ := hmiddle n
    rw [List.cons_append, read_begun (by omega) ho, List.cons_append,
      read_middle (hmiddle _).1 hlow hhigh, List.cons_append, List.nil_append,
      read_last hb hlow' hhigh', hbits, hback]
  · obtain ⟨low, high, ho, hlow, hhigh⟩ := opening_of_four (n := n) (by omega) (by omega)
    have hbits : ((n / 262144 * 64 + (n / 4096 % 64 + 128 - 0x80)) * 64 +
        (n / 64 % 64 + 128 - 0x80)) * 64 + (n % 64 + 128 - 0x80) = n := by
      omega
    obtain ⟨hb, hlow', hhigh'⟩ := hmiddle (n / 64)
    obtain ⟨hb', hlow'', hhigh''⟩ := hmiddle n
    rw [List.cons_append, read_begun (by omega) ho, List.cons_append,
      read_middle (hmiddle _).1 hlow hhigh, List.cons_append, read_middle hb hlow' hhigh',
      List.cons_append, List.nil_append, read_last hb' hlow'' hhigh'', hbits, hback]

/-- The bytes of a text are read as that text. -/
theorem decode_encode (text : List Char) : decode (encode text) = text := by
  induction text with
  | nil => rfl
  | cons c rest ih =>
    have hstep := read_utf8EncodeChar c (encode rest)
    rw [← decode, ← decode, ih] at hstep
    exact hstep

end

end DeliveryStore.Text.Utf8
