import DeliveryStore.Proofs.Storage.WrittenPaths
import DeliveryStore.Storage.Target
import Mathlib.Data.List.TakeWhile

/-!
# File addresses

What a file address opens depends on its path, on the `mode` that it was given last, and on the way
into the file system that it was given last. Main statements:

* `Target.Wishes.foldlM_take` — what the parameters of a file address ask for when all are taken in;
* `Target.isFile_ofAddress_iff` — which file addresses open a file;
* `Target.given_addressed` — a file address that is written from plain words has these parameters.
-/

namespace DeliveryStore

/-- Whether data are in a file that outlasts its channels. -/
def Medium.isFile : Medium → Bool
  | file _ => true
  | _ => false

/-- A name belongs to one way into the file system. -/
theorem FileSystem.ofName?_eq_some_iff {s : String} {system : FileSystem} :
    ofName? s = some system ↔ s = system.name := by
  constructor
  · intro h
    have hname := List.find?_some (p := fun system : FileSystem => system.name == s) h
    exact (eq_of_beq hname).symm
  · rintro rfl
    exact ofName?_name system

namespace Target

/-! ## Names -/

/-- Whether a name is that of a file: not the empty one, and not the one for memory. -/
def NamesFile (name : FileName) : Prop := name ≠ [] ∧ name ≠ FileName.ofText memoryName

theorem isFile_ofName_iff {name : FileName} :
    (ofName name).medium.isFile = true ↔ NamesFile name := by
  unfold ofName NamesFile
  split
  · rename_i hmemory
    exact iff_of_false Bool.false_ne_true fun h => h.2 hmemory
  split
  · rename_i hempty
    exact iff_of_false Bool.false_ne_true fun h => h.1 (List.isEmpty_iff.1 hempty)
  · rename_i hmemory hempty
    exact iff_of_true rfl ⟨fun h => hempty (List.isEmpty_iff.2 h), hmemory⟩

theorem isFile_mediumOf_iff {system : FileSystem} {memory : Bool} {name : FileName} :
    (mediumOf system memory name).isFile = true ↔
      memory = false ∧ system ≠ .memory ∧ NamesFile name := by
  rw [← isFile_ofName_iff]
  unfold mediumOf
  cases memory with
  | true => simp [Medium.isFile]
  | false =>
    cases (ofName name).medium with
    | file names => cases system <;> simp [Medium.isFile]
    | memory name => simp [Medium.isFile]
    | store name => simp [Medium.isFile]
    | temporary => simp [Medium.isFile]

/-! ## Parameters -/

/-- The value that a parameter was given last. -/
def last? (given : List (FileName × FileName)) (name : String) : Option String :=
  (given.reverse.find? fun p => FileName.text p.1 == name).map fun p => FileName.text p.2

theorem last?_cons (p : FileName × FileName) (rest : List (FileName × FileName)) (name : String) :
    last? (p :: rest) name =
      (last? rest name).or (if FileName.text p.1 = name then some (FileName.text p.2) else none) := by
  unfold last?
  rw [List.reverse_cons, List.find?_append, Option.map_or, List.find?_singleton]
  congr 1
  by_cases h : FileName.text p.1 = name <;> simp [h]

namespace Wishes

variable {w w' : Wishes} {p : FileName × FileName} {given : List (FileName × FileName)}

/-- A `mode` decides whether memory is asked for, and nothing else does. Only `vfs` chooses the way
into the file system. -/
theorem take_asks (h : w.take p = .ok w') :
    w'.memory = (if FileName.text p.1 = "mode" then FileName.text p.2 == "memory" else w.memory) ∧
      w'.system.map FileName.text =
        if FileName.text p.1 = "vfs" then some (FileName.text p.2)
        else w.system.map FileName.text := by
  have haccess : ∀ {name : String} {next : Access}, w.takeAccess name next = .ok w' →
      w' = { w with access := next, memory := false } := by
    intro name next h
    unfold takeAccess at h
    split at h
    · exact (Except.ok.inj h).symm
    · cases h
  unfold take at h
  split at h
  · rename_i hkey
    cases h
    simp [hkey]
  · rename_i hkey hvalue
    cases h
    simp [hkey]
  · rename_i hkey hvalue
    cases h
    simp [hkey]
  · cases h
  · rename_i hkey hvalue
    simp [haccess h, hkey, hvalue]
  · rename_i hkey hvalue
    simp [haccess h, hkey, hvalue]
  · rename_i hkey hvalue
    simp [haccess h, hkey, hvalue]
  · rename_i hkey hvalue
    cases h
    simp [hkey, hvalue]
  · cases h
  · rename_i hsystem hcache hmode _ _ _ _ _ _
    cases h
    exact ⟨(if_neg hmode).symm, (if_neg hsystem).symm⟩

/-- When all parameters are taken in, the last `mode` has decided whether memory is asked for, and the
last `vfs` which way to take into the file system. -/
theorem foldlM_take (h : given.foldlM take w = .ok w') :
    w'.memory = ((last? given "mode").map (· == "memory")).getD w.memory ∧
      w'.system.map FileName.text = (last? given "vfs").or (w.system.map FileName.text) := by
  induction given generalizing w with
  | nil =>
    cases h
    exact ⟨rfl, rfl⟩
  | cons p rest ih =>
    rw [List.foldlM_cons] at h
    cases htake : w.take p with
    | error e =>
      rw [htake] at h
      cases h
    | ok next =>
      rw [htake] at h
      obtain ⟨hmemory, hsystem⟩ := take_asks htake
      obtain ⟨hmemory', hsystem'⟩ := ih h
      rw [hmemory', hsystem', hmemory, hsystem, last?_cons, last?_cons]
      constructor
      · cases last? rest "mode" with
        | some mode => rfl
        | none => split <;> rfl
      · cases last? rest "vfs" with
        | some name => rfl
        | none => split <;> rfl

/-- Memory is the way into the file system that is taken if it was asked for by its name. -/
theorem fileSystem_eq_memory_iff {system : FileSystem} (h : w.fileSystem = .ok system) :
    system = .memory ↔ w.system.map FileName.text = some FileSystem.memory.name := by
  unfold fileSystem at h
  split at h
  · rename_i hnone
    cases h
    simp [hnone]
  · rename_i name hname
    split at h
    · rename_i found hfound
      cases h
      rw [hname, Option.map_some, Option.some_inj, FileSystem.ofName?_eq_some_iff.1 hfound]
      cases system <;> decide +kernel
    · cases h

end Wishes

/-! ## What is opened -/

/-- The path in a file address, as it is written. -/
def pathText (text : List Char) : List Char := text.takeWhile fun c => c ≠ '?' ∧ c ≠ '#'

/-- The parameters that a file address gives behind its path. -/
def given (text : List Char) : List (FileName × FileName) :=
  match text.drop (pathText text).length with
  | '?' :: options => parameters options
  | _ => []

/-- A file address that is opened names no host but the local one. -/
theorem pathOf_of_ofAddress {text : List Char} {target : Target}
    (h : ofAddress text = .ok target) : ∃ rest, pathOf text = .ok rest := by
  unfold ofAddress at h
  cases hrest : pathOf text with
  | error e =>
    rw [hrest] at h
    cases h
  | ok rest => exact ⟨rest, rfl⟩

/-- A file address opens a file if neither memory was asked for last nor the way into the file system
that keeps all in memory, and its path is the name of a file. -/
theorem isFile_ofAddress_iff {text rest : List Char} {target : Target}
    (hrest : pathOf text = .ok rest) (h : ofAddress text = .ok target) :
    target.medium.isFile = true ↔ last? (given rest) "mode" ≠ some "memory" ∧
      last? (given rest) "vfs" ≠ some FileSystem.memory.name ∧ NamesFile (coded (pathText rest)) := by
  unfold ofAddress at h
  rw [hrest] at h
  change ((given rest).foldlM Wishes.take {}).bind _ = .ok target at h
  cases hwishes : (given rest).foldlM Wishes.take {} with
  | error e =>
    rw [hwishes] at h
    cases h
  | ok wishes =>
    rw [hwishes] at h
    cases hsystem : wishes.fileSystem with
    | error e =>
      simp only [bind, Except.bind, hsystem] at h
      cases h
    | ok system =>
      simp only [bind, Except.bind, hsystem] at h
      cases h
      obtain ⟨hmemory, hways⟩ := Wishes.foldlM_take hwishes
      change (mediumOf system wishes.memory (coded (pathText rest))).isFile = true ↔ _
      rw [isFile_mediumOf_iff, ne_eq, Wishes.fileSystem_eq_memory_iff hsystem, hmemory, hways]
      simp only [Option.map_none, Option.or_none]
      cases last? (given rest) "mode" with
      | none => simp
      | some mode => simp

/-! ## Plain words -/

/-- The characters that part something in a file address, or stand for something else. -/
def marks : List Char := ['?', '#', '&', '=', '%', '\x00']

/-- Whether a text means itself in a file address. -/
def IsBare (s : String) : Prop := ∀ c ∈ s.toList, c ∉ marks

/-- A file address, after its start, that is written from a path and options. -/
def addressed (path : String) (options : List (String × String)) : String :=
  let items := options.map fun o => o.1 ++ "=" ++ o.2
  path ++ if items.isEmpty then "" else "?" ++ "&".intercalate items

section

variable {s path : String} {options : List (String × String)}

theorem IsBare.not_mem (h : IsBare s) {c : Char} (hc : c ∈ marks) : c ∉ s.toList :=
  fun hmem => h c hmem hc

/-- A plain text is not changed by decoding. -/
theorem coded_of_bare (h : IsBare s) : coded s.toList = FileName.ofText s := by
  have hzero : 0 ∉ Text.Utf8.encode s.toList := fun hmem =>
    h.not_mem (c := '\x00') (by decide) (Path.zero_mem_ofText_iff.1 hmem)
  rw [coded, Text.Percent.bytes_of_plain (h.not_mem (by decide))]
  exact List.takeWhile_eq_self_iff.2 fun b hb => by simpa using ne_of_mem_of_not_mem hb hzero

/-- What is in texts with a text between them is in this or in one of them. -/
theorem mem_intercalate {c : Char} {between : List Char} {texts : List (List Char)}
    (h : c ∈ between.intercalate texts) : c ∈ between ∨ ∃ text ∈ texts, c ∈ text := by
  induction texts with
  | nil => cases h
  | cons text rest ih =>
    cases rest with
    | nil => exact .inr ⟨text, List.mem_singleton_self _, by simpa using h⟩
    | cons next rest =>
      rw [List.intercalate_cons_cons, List.mem_append, List.mem_append] at h
      rcases h with (h | h) | h
      · exact .inr ⟨text, List.mem_cons_self, h⟩
      · exact .inl h
      · exact (ih h).imp_right fun ⟨found, hmem, hc⟩ => ⟨found, List.mem_cons_of_mem _ hmem, hc⟩

/-- A plain parameter is cut at its sign of equality. -/
theorem cut_of_bare (h : IsBare s) (value : String) :
    Text.Percent.cut '=' (s ++ "=" ++ value).toList = (s.toList, some value.toList) := by
  have hkept : ∀ c ∈ s.toList, decide (c ≠ '=') = true := by
    intro c hc
    simpa using ne_of_mem_of_not_mem hc (h.not_mem (by decide))
  have htext : (s ++ "=" ++ value).toList = s.toList ++ '=' :: value.toList := by
    simp [String.toList_append]
  rw [Text.Percent.cut, htext, List.takeWhile_append_of_pos hkept, List.dropWhile_append_of_pos hkept]
  simp

/-- Plain parameters are read as they were written. -/
theorem parameters_of_bare (h : ∀ o ∈ options, o.1 ≠ "" ∧ IsBare o.1 ∧ IsBare o.2) :
    parameters ("&".intercalate (options.map fun o => o.1 ++ "=" ++ o.2)).toList =
      options.map fun o => (FileName.ofText o.1, FileName.ofText o.2) := by
  by_cases hnone : options = []
  · rw [hnone]
    rfl
  have hitem : ∀ item ∈ options.map (fun o => (o.1 ++ "=" ++ o.2).toList),
      '&' ∉ item ∧ '#' ∉ item := by
    intro item hitem
    obtain ⟨o, ho, rfl⟩ := List.mem_map.1 hitem
    obtain ⟨-, hkey, hvalue⟩ := h o ho
    have hmark : '&' ∉ "=".toList ∧ '#' ∉ "=".toList := by decide
    simp only [String.toList_append, List.mem_append, not_or]
    exact ⟨⟨⟨hkey.not_mem (by decide), hmark.1⟩, hvalue.not_mem (by decide)⟩,
      ⟨hkey.not_mem (by decide), hmark.2⟩, hvalue.not_mem (by decide)⟩
  have htext : ("&".intercalate (options.map fun o => o.1 ++ "=" ++ o.2)).toList =
      ['&'].intercalate (options.map fun o => (o.1 ++ "=" ++ o.2).toList) := by
    rw [String.toList_intercalate, List.map_map]
    rfl
  have hrun : (['&'].intercalate (options.map fun o => (o.1 ++ "=" ++ o.2).toList)).takeWhile
      (· ≠ '#') = ['&'].intercalate (options.map fun o => (o.1 ++ "=" ++ o.2).toList) := by
    refine List.takeWhile_eq_self_iff.2 fun c hc => decide_eq_true ?_
    rintro rfl
    rcases mem_intercalate hc with hmem | ⟨item, hmem, hc⟩
    · exact absurd hmem (by decide)
    · exact (hitem item hmem).2 hc
  have hnamed : ∀ p ∈ options.map (fun o => (FileName.ofText o.1, FileName.ofText o.2)),
      (!p.1.isEmpty) = true := by
    intro p hp
    obtain ⟨o, ho, rfl⟩ := List.mem_map.1 hp
    have hne : FileName.ofText o.1 ≠ [] := fun heq =>
      (h o ho).1 (FileName.ofText_inj (b := "") heq)
    simpa using hne
  rw [parameters, htext, hrun, List.splitOn_intercalate '&' (fun item hi => (hitem item hi).1)
    (by simpa using hnone), List.map_map]
  refine Eq.trans ?_ (List.filter_eq_self.2 hnamed)
  dsimp only
  congr 1
  refine List.map_congr_left fun o ho => ?_
  obtain ⟨-, hkey, hvalue⟩ := h o ho
  simp only [Function.comp_apply, cut_of_bare hkey, coded_of_bare hkey, Option.getD_some,
    coded_of_bare hvalue]

/-- A text does not begin with another one because of what follows a question mark in it. -/
theorem isPrefixOf_append_mark {start d rest : List Char} (hmark : '?' ∉ start)
    (h : start.isPrefixOf d = false) : start.isPrefixOf (d ++ '?' :: rest) = false := by
  rw [← Bool.not_eq_true, List.isPrefixOf_iff_prefix] at h ⊢
  intro hprefix
  rcases Nat.lt_or_ge d.length start.length with hlt | hle
  · have hbegins : d ++ ['?'] <+: d ++ '?' :: rest := ⟨rest, by simp⟩
    have hmore : d ++ ['?'] <+: start := by
      refine List.prefix_of_prefix_length_le hbegins hprefix ?_
      rw [List.length_append]
      exact hlt
    exact hmark (hmore.subset (by simp))
  · exact h (List.prefix_of_prefix_length_le hprefix (List.prefix_append _ _) hle)

/-- A file address names no host if its path does not begin with two slashes. -/
theorem pathOf_addressed (h : ['/', '/'].isPrefixOf path.toList = false)
    (options : List (String × String)) :
    pathOf (addressed path options).toList = .ok (addressed path options).toList := by
  have hlocal : ['/', '/'].isPrefixOf (addressed path options).toList = false := by
    rw [addressed, String.toList_append]
    split
    · simpa using h
    · rw [String.toList_append]
      exact isPrefixOf_append_mark (by decide) h
  unfold pathOf
  split
  · rename_i after htext
    rw [htext] at hlocal
    simp at hlocal
  · rfl

/-- The path of a file address that is written from a plain path and plain options. -/
theorem pathText_addressed (hpath : IsBare path) (options : List (String × String)) :
    pathText (addressed path options).toList = path.toList := by
  have hkept : ∀ c ∈ path.toList, decide (c ≠ '?' ∧ c ≠ '#') = true := by
    intro c hc
    exact decide_eq_true ⟨ne_of_mem_of_not_mem hc (hpath.not_mem (by decide)),
      ne_of_mem_of_not_mem hc (hpath.not_mem (by decide))⟩
  rw [pathText, addressed, String.toList_append, List.takeWhile_append_of_pos hkept]
  split
  · simp
  · simp [String.toList_append]

/-- The parameters of a file address that is written from a plain path and plain options. -/
theorem given_addressed (hpath : IsBare path)
    (h : ∀ o ∈ options, o.1 ≠ "" ∧ IsBare o.1 ∧ IsBare o.2) :
    given (addressed path options).toList =
      options.map fun o => (FileName.ofText o.1, FileName.ofText o.2) := by
  rw [given, pathText_addressed hpath, addressed, String.toList_append, List.drop_left]
  by_cases hnone : options = []
  · rw [hnone]
    rfl
  · have hitems : (options.map fun o => o.1 ++ "=" ++ o.2).isEmpty = false := by
      simpa using hnone
    rw [hitems, if_neg Bool.false_ne_true, String.toList_append]
    exact parameters_of_bare h

/-- If no parameter is given twice, each has the value that it was given. -/
theorem last?_of_nodup (h : (options.map Prod.fst).Nodup) (name : String) :
    last? (options.map fun o => (FileName.ofText o.1, FileName.ofText o.2)) name =
      options.lookup name := by
  induction options with
  | nil => rfl
  | cons o rest ih =>
    obtain ⟨key, value⟩ := o
    rw [List.map_cons, List.nodup_cons] at h
    rw [List.map_cons, last?_cons, ih h.2, FileName.text_ofText, FileName.text_ofText,
      List.lookup_cons]
    by_cases hkey : key = name
    · subst hkey
      have hrest : rest.lookup key = none := by
        rw [List.lookup_eq_none_iff]
        exact fun p hp => bne_iff_ne.2 fun heq => h.1 (List.mem_map.2 ⟨p, hp, heq.symm⟩)
      simp [hrest]
    · have hbeq : (name == key) = false := by simpa using fun heq => hkey heq.symm
      simp [hkey, hbeq]

end

end Target

end DeliveryStore
