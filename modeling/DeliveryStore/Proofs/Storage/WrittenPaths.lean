import DeliveryStore.Proofs.Storage.Making
import DeliveryStore.Proofs.Utf8

/-!
# Written paths

A path is written with a slash between its names. Read byte by byte it has the same names again, since
no other character than the slash has its byte. Main statements:

* `Path.namesOfText_intercalate` — the names of a written path are those that it was written from;
* `Path.written_ofText` — the names of a path are written with a slash between them.
-/

namespace DeliveryStore

theorem FileName.text_ofText (s : String) : FileName.text (FileName.ofText s) = s := by
  rw [text, ofText, Text.Utf8.decode_encode, String.ofList_toList]

namespace Path

variable {n : String} {names : List String}

/-- A name that leads down and can stand in a written path. -/
structure IsPlainName (n : String) : Prop where
  named : n ≠ ""
  not_here : n ≠ "."
  not_above : n ≠ ".."
  unslashed : '/' ∉ n.toList

instance : DecidablePred IsPlainName := fun n =>
  decidable_of_iff (n ≠ "" ∧ n ≠ "." ∧ n ≠ ".." ∧ '/' ∉ n.toList)
    ⟨fun ⟨hnamed, hhere, habove, hslash⟩ => ⟨hnamed, hhere, habove, hslash⟩,
      fun h => ⟨h.named, h.not_here, h.not_above, h.unslashed⟩⟩

theorem slash_mem_ofText_iff : slash ∈ FileName.ofText n ↔ '/' ∈ n.toList :=
  Text.Utf8.mem_encode_iff (c := '/') (by decide)

theorem zero_mem_ofText_iff : 0 ∈ FileName.ofText n ↔ '\x00' ∈ n.toList :=
  Text.Utf8.mem_encode_iff (c := '\x00') (by decide)

/-- Plain names do not lead up. -/
theorem above_not_mem (h : ∀ n ∈ names, IsPlainName n) : above ∉ names.map FileName.ofText := by
  rw [List.mem_map]
  rintro ⟨n, hn, habove⟩
  exact (h n hn).not_above (FileName.ofText_inj (b := "..") habove)

/-- The names of a path that is written from plain names are these. -/
theorem namesOfText_intercalate (h : ∀ n ∈ names, IsPlainName n) :
    namesOfText ("/".intercalate names) = names.map FileName.ofText := by
  by_cases hnames : names = []
  · rw [hnames]
    rfl
  have hunslashed : ∀ name ∈ names.map FileName.ofText, slash ∉ name := by
    intro name hname
    obtain ⟨n, hn, rfl⟩ := List.mem_map.1 hname
    exact mt slash_mem_ofText_iff.1 (h n hn).unslashed
  have hkept : ∀ name ∈ names.map FileName.ofText, (name != [] && name != here) = true := by
    intro name hname
    obtain ⟨n, hn, rfl⟩ := List.mem_map.1 hname
    have hempty : FileName.ofText n ≠ [] := fun heq =>
      (h n hn).named (FileName.ofText_inj (b := "") heq)
    have hhere : FileName.ofText n ≠ here := fun heq =>
      (h n hn).not_here (FileName.ofText_inj (b := ".") heq)
    simp [hempty, hhere]
  have hbytes : FileName.ofText ("/".intercalate names) =
      [slash].intercalate (names.map FileName.ofText) := by
    have htexts : FileName.ofText ("/".intercalate names) =
        Text.Utf8.encode ("/".toList.intercalate (names.map String.toList)) := by
      rw [FileName.ofText, String.toList_intercalate]
    rw [htexts, Text.Utf8.encode_intercalate, List.map_map]
    rfl
  -- A path that does not begin with a slash begins in the working directory.
  have hbelow : ((FileName.ofText ("/".intercalate names)).head? == some slash) = false := by
    rw [hbytes]
    obtain _ | ⟨first, rest⟩ := names
    · exact absurd rfl hnames
    obtain ⟨b, more, hfirst⟩ : ∃ b more, FileName.ofText first = b :: more := by
      refine List.exists_cons_of_ne_nil fun heq => ?_
      exact (h first (by simp)).named (FileName.ofText_inj (b := "") heq)
    have hb : b ≠ slash := by
      rintro rfl
      exact hunslashed (FileName.ofText first) List.mem_cons_self (hfirst ▸ List.mem_cons_self)
    cases rest <;> simp [hfirst, hb]
  rw [namesOfText, Path.names, hbelow, hbytes, List.splitOn_intercalate slash hunslashed (by simpa)]
  simp only [Bool.false_eq_true, if_false, List.nil_append, List.filter_eq_self.2 hkept]

/-- Plain names are written with a slash between them. -/
theorem written_ofText (hne : names ≠ []) (h : ∀ n ∈ names, IsPlainName n) :
    written (names.map FileName.ofText) = "/".intercalate names := by
  obtain ⟨first, rest, rfl⟩ := List.exists_cons_of_ne_nil hne
  have htop : FileName.ofText first ≠ top := by
    intro heq
    have hslash : slash ∈ FileName.ofText first := by
      rw [heq]
      exact List.mem_cons_self
    exact (h first List.mem_cons_self).unslashed (slash_mem_ofText_iff.1 hslash)
  have htext : ∀ n : String, String.ofList (Text.Utf8.decode (FileName.ofText n)) = n :=
    FileName.text_ofText
  simp only [List.map_cons, written, if_neg htop, List.map_map, Function.comp_def, htext,
    List.map_id']

/-- Names of one letter take twice as many bytes as they are, less one, when they are written. -/
theorem size_replicate (n : Nat) :
    Text.Utf8.size ("/".intercalate (List.replicate (n + 1) "d")) = 2 * n + 1 := by
  rw [Text.Utf8.size, String.toList_intercalate, List.map_replicate]
  induction n with
  | zero => rfl
  | succ n ih =>
    have hone : (Text.Utf8.encode "d".toList).length = 1 ∧
        (Text.Utf8.encode "/".toList).length = 1 := ⟨rfl, rfl⟩
    rw [List.replicate_succ, List.replicate_succ, List.intercalate_cons_cons,
      ← List.replicate_succ]
    simp only [Text.Utf8.encode, List.flatMap_append, List.length_append] at hone ih ⊢
    omega

end Path

end DeliveryStore
