import DeliveryStore.Proofs.Directories
import DeliveryStore.Proofs.Lists
import DeliveryStore.Proofs.PlainFiles
import DeliveryStore.Proofs.Storage.FileAddresses

/-!
# The flag for memory

A handle takes its database to be in memory or in a file by the database and the option `mode` of its
address. What is opened depends on more than these: on whether the address may be a file address, and
then on its path and its other options. Main statements:

* `Locator.flag_of_plain`, `Locator.flag_of_name`, `Locator.flag_of_address` — for which addresses the
  flag is right: without file addresses, with them for other names, and for file addresses;
* `Locator.flag_of_spelled` — the same for file addresses that are spelled from plain words;
* `Storage.journal_of_openChannel`, `Host.directories_of_openAs` — what hangs on the flag: the
  write-ahead log of a file, and the directories above it;
* `mistaken_flags` — addresses of all kinds whose flag is wrong.
-/

namespace DeliveryStore

/-! ## Options -/

namespace OptionValue

/-- An option that was given several times stands for no other text than one that begins with a
bracket. -/
theorem plain_eq_iff {v : OptionValue} {s : String} (hs : s.toList.head? ≠ some '(') :
    v.plain = s ↔ v = .one s := by
  cases v with
  | one text => simp [plain]
  | several values =>
    refine iff_of_false (fun h => hs ?_) (by simp)
    rw [← h, plain, String.toList_append, String.toList_append]
    rfl

end OptionValue

namespace Locator

variable {l : Locator} {target : Target} {options : DriverOptions}

/-- Collecting keeps the keys apart. -/
theorem nodup_collect {collected : List (String × OptionValue)} {items : List (String × String)}
    (h : (collected.map Prod.fst).Nodup) : ((collect collected items).map Prod.fst).Nodup := by
  induction items generalizing collected with
  | nil => exact h
  | cons item rest ih =>
    obtain ⟨key, value⟩ := item
    rw [collect]
    split
    · rename_i hnone
      refine ih ?_
      rw [List.map_append, List.nodup_append]
      refine ⟨h, by simp, ?_⟩
      rintro a ha b hb rfl
      obtain ⟨o, ho, rfl⟩ := List.mem_map.1 ha
      have hkey : o.1 = key := by simpa using hb
      exact bne_iff_ne.1 (List.lookup_eq_none_iff.1 hnone o ho) hkey.symm
    · refine ih ?_
      rw [List.map_map]
      have hsame : (Prod.fst ∘ fun o : String × OptionValue =>
          if o.1 == key then (o.1, o.2.add value) else o) = Prod.fst := by
        funext o
        simp only [Function.comp_apply]
        split <;> rfl
      rwa [hsame]

/-- The options of an address that was read have different names. -/
theorem nodup_of_parse {address : String} (h : parse address = .ok l) :
    (l.options.map Prod.fst).Nodup := by
  unfold parse at h
  dsimp only at h
  split at h
  · split at h
    · cases h
      exact nodup_collect List.nodup_nil
    · split at h
      · cases h
        exact nodup_collect List.nodup_nil
      · cases h
  · cases h

/-- The options of a file address are those of the address that neither ask for a plugin nor steer the
driver. -/
theorem mem_addressOptions_iff {o : String × OptionValue} :
    o ∈ l.withoutPlugins.addressOptions ↔
      o ∈ l.options ∧ o.1 ∉ DriverOptions.names ∧ o.1 ≠ "plugin" ∧ o.1 ≠ "plugins" := by
  simp [addressOptions, withoutPlugins]

/-- The options of a file address, as they are written into it. -/
def asked (l : Locator) : List (String × String) :=
  l.withoutPlugins.addressOptions.map fun o => (o.1, o.2.plain)

theorem nodup_asked (h : (l.options.map Prod.fst).Nodup) : (l.asked.map Prod.fst).Nodup := by
  have hsub : (l.withoutPlugins.options.filter fun o => !DriverOptions.names.contains o.1).Sublist
      l.options := List.filter_sublist.trans List.filter_sublist
  rw [asked, List.map_map]
  exact ((List.mergeSort_perm _ _).map _).nodup_iff.2 ((hsub.map _).nodup h)

/-- A text is written into a file address for an option if it is the one value of the option. -/
theorem lookup_asked_iff (h : (l.options.map Prod.fst).Nodup) {name text : String}
    (hname : name ∉ DriverOptions.names ∧ name ≠ "plugin" ∧ name ≠ "plugins")
    (htext : text.toList.head? ≠ some '(') :
    l.asked.lookup name = some text ↔ l.option? name = some (.one text) := by
  rw [option?, List.lookup_eq_some_iff_mem (nodup_asked h),
    List.lookup_eq_some_iff_mem h, asked, List.mem_map]
  constructor
  · rintro ⟨⟨key, value⟩, ho, heq⟩
    obtain ⟨rfl, hvalue⟩ := Prod.mk.inj heq
    obtain rfl := (OptionValue.plain_eq_iff htext).1 hvalue
    exact (mem_addressOptions_iff.1 ho).1
  · exact fun hmem => ⟨_, mem_addressOptions_iff.2 ⟨hmem, hname⟩, rfl⟩

/-! ## Addresses by name -/

/-- Whether an address names a database, and not the one in memory. -/
def IsNamed (l : Locator) : Prop :=
  ∃ d, l.database = some d ∧ d ≠ "" ∧ d ≠ Target.memoryName

/-- The flag says that a database is in a file if the database is named and the one `mode` of the
address is not memory. -/
theorem inMemory_eq_false_iff :
    l.inMemory = false ↔ l.IsNamed ∧ l.option? "mode" ≠ some (.one "memory") := by
  simp only [inMemory, Bool.or_eq_false_iff, beq_eq_false_iff_ne]
  refine and_congr_left' ⟨?_, ?_⟩
  · rintro ⟨⟨hnone, hempty⟩, hmemory⟩
    obtain ⟨d, hd⟩ := Option.ne_none_iff_exists'.1 hnone
    rw [hd] at hempty hmemory
    exact ⟨d, hd, fun h => hempty (congrArg some h), fun h => hmemory (congrArg some h)⟩
  · rintro ⟨d, hd, hempty, hmemory⟩
    rw [hd]
    exact ⟨⟨Option.some_ne_none d, fun h => hempty (Option.some_inj.1 h)⟩,
      fun h => hmemory (Option.some_inj.1 h)⟩

/-- A text is the name of a file if it is neither empty nor the name for memory. -/
theorem namesFile_ofText_iff {s : String} :
    Target.NamesFile (FileName.ofText s) ↔ s ≠ "" ∧ s ≠ Target.memoryName := by
  refine and_congr (not_congr ⟨fun h => FileName.ofText_inj (b := "") h, ?_⟩)
    (not_congr ⟨FileName.ofText_inj, congrArg FileName.ofText⟩)
  rintro rfl
  rfl

theorem isFile_targetOfPlain_iff {name : String} :
    (targetOfPlain name).medium.isFile = true ↔ name ≠ "" ∧ name ≠ Target.memoryName := by
  unfold targetOfPlain
  split
  · rename_i hempty
    refine iff_of_false ?_ fun h => h.1 hempty
    rw [Target.isFile_ofName_iff]
    exact fun h => h.2 rfl
  · rw [← namesFile_ofText_iff, ← Target.isFile_ofName_iff]
    cases hmedium : (Target.ofName (FileName.ofText name)).medium with
    | file names => simp [hmedium, Medium.isFile]
    | memory name => simp [hmedium]
    | store name => simp [hmedium]
    | temporary => simp [hmedium]

theorem isNamed_iff :
    l.IsNamed ↔ l.database.getD "" ≠ "" ∧ l.database.getD "" ≠ Target.memoryName := by
  unfold IsNamed
  cases l.database with
  | none => simp
  | some d => simp

/-- Without file addresses a file is opened if the database is named, whatever the options. -/
theorem isFile_of_plain (h : l.target = .ok (.ok target))
    (hread : DriverOptions.read l.withoutPlugins = .ok options) (huri : options.uri = false) :
    target.medium.isFile = true ↔ l.IsNamed := by
  obtain ⟨found, hfound, ⟨hfile, -⟩ | ⟨-, rfl⟩⟩ := target_cases h
  · obtain rfl := Except.ok.inj (hread.symm.trans hfound)
    rw [huri] at hfile
    cases hfile
  · rw [isFile_targetOfPlain_iff, isNamed_iff]

/-- The flag is right if a file is opened just when the flag says so. -/
theorem flag_iff : l.inMemory = !target.medium.isFile ↔
    (target.medium.isFile = true ↔ l.IsNamed ∧ l.option? "mode" ≠ some (.one "memory")) := by
  rw [← inMemory_eq_false_iff]
  cases l.inMemory <;> cases target.medium.isFile <;> simp

/-- Without file addresses the flag is right unless the database is named and the one `mode` of the
address is memory: this `mode` is not read by what opens the database. -/
theorem flag_of_plain (h : l.target = .ok (.ok target))
    (hread : DriverOptions.read l.withoutPlugins = .ok options) (huri : options.uri = false) :
    l.inMemory = !target.medium.isFile ↔
      ¬(l.IsNamed ∧ l.option? "mode" = some (.one "memory")) := by
  rw [flag_iff, isFile_of_plain h hread huri]
  tauto

/-- Where file addresses are read, the name that is opened holds the options as well. -/
theorem targetOfName_of_uri (h : l.target = .ok (.ok target))
    (hread : DriverOptions.read l.withoutPlugins = .ok options) (huri : options.uri = true) :
    ∃ name, l.withoutPlugins.addressName = .ok name ∧ targetOfName name = .ok target := by
  obtain ⟨found, hfound, ⟨-, hname⟩ | ⟨hplain, -⟩⟩ := target_cases h
  · exact hname
  · obtain rfl := Except.ok.inj (hread.symm.trans hfound)
    rw [huri] at hplain
    cases hplain

/-- Where file addresses are read, another name with options behind it is that of a file, whatever
comes before the options, and so is the text that stands for no name. -/
theorem isFile_of_name (h : l.target = .ok (.ok target))
    (hread : DriverOptions.read l.withoutPlugins = .ok options) (huri : options.uri = true)
    (hscheme : ∀ d, l.database = some d → Target.scheme.toList.isPrefixOf d.toList = false) :
    target.medium.isFile = true ↔
      l.IsNamed ∨ l.database = none ∨ l.withoutPlugins.addressOptions ≠ [] := by
  obtain ⟨name, hname, htarget⟩ := targetOfName_of_uri h hread huri
  have hopened : Target.scheme.toList.isPrefixOf name.toList = false →
      (target.medium.isFile = true ↔ name ≠ "" ∧ name ≠ Target.memoryName) := by
    intro hname
    rw [targetOfName, hname, if_neg Bool.false_ne_true] at htarget
    rw [← Except.ok.inj htarget, Target.isFile_ofName_iff, namesFile_ofText_iff]
  have hdatabase : l.withoutPlugins.database = l.database := rfl
  unfold addressName at hname
  rw [hdatabase] at hname
  cases hd : l.database with
  | none =>
    rw [hd] at hname
    dsimp only at hname
    split at hname
    · obtain rfl := Except.ok.inj hname
      exact iff_of_true ((hopened (by decide +kernel)).2 (by decide +kernel)) (.inr (.inl rfl))
    · cases hname
  | some d =>
    rw [hd] at hname
    have hunschemed := hscheme d hd
    obtain rfl := Except.ok.inj hname
    by_cases hnone : l.withoutPlugins.addressOptions = []
    · simp only [hnone, List.map_nil, List.isEmpty_nil, if_true, String.append_empty] at hopened
      rw [hopened hunschemed, isNamed_iff, hd, Option.getD_some]
      simp [hnone]
    · -- With options behind it the name holds a question mark.
      have hitems : (l.withoutPlugins.addressOptions.map fun o => o.1 ++ "=" ++ o.2.plain).isEmpty =
          false := by
        simpa using hnone
      simp only [hitems, Bool.false_eq_true, if_false] at hopened
      generalize "&".intercalate (l.withoutPlugins.addressOptions.map _) = tail at hopened
      have htext : (d ++ ("?" ++ tail)).toList = d.toList ++ '?' :: tail.toList := by
        rw [String.toList_append, String.toList_append]
        rfl
      have hmark : ∀ s : String, '?' ∉ s.toList → d ++ ("?" ++ tail) ≠ s := by
        rintro s hs rfl
        exact hs (htext ▸ List.mem_append_right _ List.mem_cons_self)
      rw [hopened (htext ▸ Target.isPrefixOf_append_mark (by decide) hunschemed)]
      exact iff_of_true ⟨hmark "" (by decide), hmark _ (by decide)⟩ (.inr (.inr hnone))

/-- Where file addresses are read, the flag is right for another name if it is that of a file, no
memory is asked for in its options, or if it is none of a file and there are no options that make it
one. An address without a database opens a file. -/
theorem flag_of_name (h : l.target = .ok (.ok target))
    (hread : DriverOptions.read l.withoutPlugins = .ok options) (huri : options.uri = true)
    (hscheme : ∀ d, l.database = some d → Target.scheme.toList.isPrefixOf d.toList = false) :
    l.inMemory = !target.medium.isFile ↔
      l.IsNamed ∧ l.option? "mode" ≠ some (.one "memory") ∨
        ¬l.IsNamed ∧ l.database ≠ none ∧ l.withoutPlugins.addressOptions = [] := by
  have hnamed : l.IsNamed → l.database ≠ none := by
    rintro ⟨d, hd, -⟩
    simp [hd]
  rw [flag_iff, isFile_of_name h hread huri hscheme]
  tauto

/-! ## File addresses -/

section

variable {d : String}

theorem isNamed_of_scheme (hd : l.database = some d)
    (hscheme : Target.scheme.toList.isPrefixOf d.toList = true) : l.IsNamed := by
  refine ⟨d, hd, ?_, ?_⟩
  · rintro rfl
    exact absurd hscheme (by decide)
  · rintro rfl
    exact absurd hscheme (by decide)

/-- A file address is opened for its path and its parameters, as they stand in the database of the
address and in the options behind it. -/
theorem isFile_of_address (h : l.target = .ok (.ok target))
    (hread : DriverOptions.read l.withoutPlugins = .ok options) (huri : options.uri = true)
    (hd : l.database = some d) (hscheme : Target.scheme.toList.isPrefixOf d.toList = true) :
    ∃ name rest, l.withoutPlugins.addressName = .ok name ∧
      Target.pathOf (name.toList.drop Target.scheme.length) = .ok rest ∧
        (target.medium.isFile = true ↔ Target.last? (Target.given rest) "mode" ≠ some "memory" ∧
          Target.last? (Target.given rest) "vfs" ≠ some FileSystem.memory.name ∧
            Target.NamesFile (Target.coded (Target.pathText rest))) := by
  obtain ⟨name, hname, htarget⟩ := targetOfName_of_uri h hread huri
  have hbegins : Target.scheme.toList.isPrefixOf name.toList = true := by
    have hdatabase : l.withoutPlugins.database = some d := hd
    simp only [addressName, hdatabase] at hname
    rw [← Except.ok.inj hname, String.toList_append, List.isPrefixOf_iff_prefix]
    exact (List.isPrefixOf_iff_prefix.1 hscheme).trans (List.prefix_append _ _)
  rw [targetOfName, if_pos hbegins] at htarget
  obtain ⟨rest, hrest⟩ := Target.pathOf_of_ofAddress htarget
  exact ⟨name, rest, hname, hrest, Target.isFile_ofAddress_iff hrest htarget⟩

/-- For a file address the flag is right if the one `mode` of the address is memory just when the
database is kept in memory: by the `mode` that the file address was given last, by its way into the
file system, or by its path. -/
theorem flag_of_address (h : l.target = .ok (.ok target))
    (hread : DriverOptions.read l.withoutPlugins = .ok options) (huri : options.uri = true)
    (hd : l.database = some d) (hscheme : Target.scheme.toList.isPrefixOf d.toList = true) :
    ∃ name rest, l.withoutPlugins.addressName = .ok name ∧
      Target.pathOf (name.toList.drop Target.scheme.length) = .ok rest ∧
        (l.inMemory = !target.medium.isFile ↔
          (l.option? "mode" = some (.one "memory") ↔
            Target.last? (Target.given rest) "mode" = some "memory" ∨
              Target.last? (Target.given rest) "vfs" = some FileSystem.memory.name ∨
                ¬Target.NamesFile (Target.coded (Target.pathText rest)))) := by
  obtain ⟨name, rest, hname, hrest, hfile⟩ := isFile_of_address h hread huri hd hscheme
  refine ⟨name, rest, hname, hrest, ?_⟩
  have hnamed := isNamed_of_scheme hd hscheme
  rw [flag_iff, hfile]
  tauto

end

/-- An address whose database is a file address, spelled from a path and options that mean
themselves, and without the name of a host. -/
structure SpellsAddress (l : Locator) (path : String) : Prop where
  database : l.database = some (Target.scheme ++ path)
  unhosted : ['/', '/'].isPrefixOf path.toList = false
  path_bare : Target.IsBare path
  options_bare : ∀ o ∈ l.options, o.1 ≠ "" ∧ Target.IsBare o.1 ∧ Target.IsBare o.2.plain

theorem scheme_isPrefixOf (path : String) :
    Target.scheme.toList.isPrefixOf (Target.scheme ++ path).toList = true := by
  rw [String.toList_append, List.isPrefixOf_iff_prefix]
  exact List.prefix_append _ _

/-- A file address that is spelled from plain words opens a file if its path is the name of one, and
neither its one `mode` nor its one way into the file system is memory. -/
theorem isFile_of_spelled {address path : String} (hparse : parse address = .ok l)
    (h : l.target = .ok (.ok target)) (hread : DriverOptions.read l.withoutPlugins = .ok options)
    (huri : options.uri = true) (hspells : l.SpellsAddress path) :
    target.medium.isFile = true ↔ l.option? "mode" ≠ some (.one "memory") ∧
      l.option? "vfs" ≠ some (.one FileSystem.memory.name) ∧ path ≠ "" ∧
        path ≠ Target.memoryName := by
  obtain ⟨name, rest, hname, hrest, hfile⟩ :=
    isFile_of_address h hread huri hspells.database (scheme_isPrefixOf path)
  have hasked : ∀ o ∈ l.asked, o.1 ≠ "" ∧ Target.IsBare o.1 ∧ Target.IsBare o.2 := by
    intro o ho
    obtain ⟨given, hgiven, rfl⟩ := List.mem_map.1 ho
    exact hspells.options_bare given (mem_addressOptions_iff.1 hgiven).1
  have haddressed : name = Target.scheme ++ Target.addressed path l.asked := by
    have hdatabase : l.withoutPlugins.database = some (Target.scheme ++ path) := hspells.database
    simp only [addressName, hdatabase] at hname
    rw [← Except.ok.inj hname, String.append_assoc, Target.addressed, asked, List.map_map]
    rfl
  obtain rfl : rest = (Target.addressed path l.asked).toList := by
    rw [haddressed, String.toList_append, ← String.length_toList, List.drop_left,
      Target.pathOf_addressed hspells.unhosted l.asked] at hrest
    exact (Except.ok.inj hrest).symm
  have hkeys := nodup_of_parse hparse
  rw [hfile, Target.given_addressed hspells.path_bare hasked,
    Target.last?_of_nodup (nodup_asked hkeys), Target.last?_of_nodup (nodup_asked hkeys),
    Target.pathText_addressed hspells.path_bare, Target.coded_of_bare hspells.path_bare,
    namesFile_ofText_iff, ne_eq, ne_eq, lookup_asked_iff hkeys (by decide) (by decide),
    lookup_asked_iff hkeys (by decide) (by decide)]

/-- For a file address that is spelled from plain words the flag is right if the one `mode` of the
address is memory, or else if the path names a file and nothing else keeps the database in memory. -/
theorem flag_of_spelled {address path : String} (hparse : parse address = .ok l)
    (h : l.target = .ok (.ok target)) (hread : DriverOptions.read l.withoutPlugins = .ok options)
    (huri : options.uri = true) (hspells : l.SpellsAddress path) :
    l.inMemory = !target.medium.isFile ↔ l.option? "mode" = some (.one "memory") ∨
      l.option? "vfs" ≠ some (.one FileSystem.memory.name) ∧ path ≠ "" ∧
        path ≠ Target.memoryName := by
  have hnamed := isNamed_of_scheme hspells.database (scheme_isPrefixOf path)
  rw [flag_iff, isFile_of_spelled hparse h hread huri hspells]
  tauto

end Locator

/-! ## What hangs on the flag -/

/-- A first look that is to start no log is a look-up. -/
theorem Channel.settle_of_unlogged (c : Channel) (t : FileTree) (others : List Channel) (p : Path) :
    c.settle t others p false false = c.refresh t others p := by
  simp only [settle, Bool.false_eq_true, if_false, bind, Except.bind, pure, Except.pure]
  cases c.refresh t others p <;> rfl

namespace Storage

variable {s s' : Storage} {n : Nat} {target : Target} {path : Path} {c : Channel}

/-- A new channel to a file keeps a write-ahead log if it can, unless its address passes for memory. -/
theorem journal_of_openChannel (h : s.openChannel n target (.file path) false = (.ok c, s'))
    (hfile : target.medium.isFile = true) (hshares : target.system.sharesMemory = true)
    (hlocked : target.unlocked = false) (hmutable : target.immutable = false) :
    c.journal = .writeAhead := by
  rcases openChannel_ok h with ⟨path', tree, tree', hpath, -, hsettle, -⟩ | ⟨hother, -⟩
  swap
  · exact absurd rfl (hother path)
  cases hpath
  rw [hmutable] at hsettle
  cases hmedium : target.medium with
  | file names =>
    have hkeeps : (Channel.new n (.file path) target).keepsLog = true := by
      simp [Channel.new, hmedium, hshares, hlocked, hmutable]
    rcases Channel.settle_log hkeeps (frozen_new _ _ _) (logging_new _ _ _) hsettle with
      ⟨rfl, -⟩ | ⟨rfl, -⟩
    · rfl
    · rfl
  | memory name => simp [hmedium, Medium.isFile] at hfile
  | store name => simp [hmedium, Medium.isFile] at hfile
  | temporary => simp [hmedium, Medium.isFile] at hfile

/-- A file that is made for an address that passes for memory keeps no log. -/
theorem journal_of_openChannel_missing
    (h : s.openChannel n target (.file path) true = (.ok c, s'))
    (hmissing : s.tree.get? path = none) (hmutable : target.immutable = false) :
    c.journal = .rollback := by
  rcases openChannel_ok h with ⟨path', tree, tree', hpath, hopen, hsettle, -⟩ | ⟨hother, -⟩
  swap
  · exact absurd rfl (hother path)
  cases hpath
  -- The file was made, and there is nothing in it that could tell of a log.
  have hempty : tree.get? path = some (.file (.text "")) := by
    unfold FileTree.openFile at hopen
    rw [hmissing] at hopen
    split at hopen
    · cases hopen
    split at hopen
    · cases hopen
    dsimp only at hopen
    split at hopen
    · cases hopen
      exact FileTree.get?_put_self (FileTree.isOuter_of_get? (t := s.tree) (by simp [hmissing]))
    · cases hopen
  have hblank : (tree.tidy path).isBlank path = true := by
    rw [FileTree.isBlank, FileTree.get?_tidy_self, hempty]
    rfl
  rw [hmutable] at hsettle
  have hrefresh := (Channel.settle_of_unlogged ..).symm.trans hsettle
  rcases Channel.refresh_cases hrefresh with ⟨-, -, hfrozen | ⟨hlogging, -⟩⟩ | ⟨-, -, -, hsolid⟩ |
    ⟨rfl, -⟩
  · rw [frozen_new] at hfrozen
    cases hfrozen
  · rw [logging_new] at hlogging
    cases hlogging
  · rw [hblank] at hsolid
    cases hsolid
  · rfl

end Storage

namespace Host

variable {host : Host} {o : Opening} {address : Value} {l : Locator}

/-- Opening an address that passes for memory makes no directories. -/
theorem openAs_storage_of_inMemory (haddress : o.addressIn host.settings = some address)
    (hl : Locator.ofValue address = .ok l) (hflag : l.inMemory = true) :
    (host.openAs o).host.storage = host.storage := by
  have hnone : Handle.directoriesOf l = [] := by
    unfold Handle.directoriesOf
    split
    · rfl
    · rw [hflag]
      rfl
  rw [openAs_storage]
  cases hdurability : Durability.ofValue (o.durabilityIn host.settings) with
  | error f =>
    refine Opening.complete_of_unread host.asked host.storage fun address durability l _ hread => ?_
    rw [hdurability] at hread
    cases hread
  | ok durability =>
    rcases Opening.complete_of_address host.asked host.storage haddress hdurability hl with
      ⟨-, hcomplete⟩ | ⟨-, -, hcomplete⟩ |
        ⟨-, -, tree, htree, ⟨_, -, hcomplete⟩ | ⟨-, hcomplete⟩⟩
    · rw [hcomplete]
    · rw [hcomplete]
    all_goals
      rw [hnone] at htree
      have hsame : tree = host.storage.tree := htree
      rw [hcomplete, hsame]

/-- Opening any other address that does not begin like a file address makes the directories above the
file. -/
theorem directories_of_openAs (haddress : o.addressIn host.settings = some address)
    (hl : Locator.ofValue address = .ok l) (hflag : l.inMemory = false) {d : String}
    (hd : l.database = some d) (hscheme : Target.scheme.toList.isPrefixOf d.toList = false)
    {h : Handle} (ho : (host.openAs o).outcome = .ok h) {q : Path}
    (hq : Path.Along (Path.namesOfText d).dropLast q) :
    (host.openAs o).host.storage.tree.get? q = some .directory := by
  have hdirectories : Handle.directoriesOf l = (Path.namesOfText d).dropLast := by
    simp only [Handle.directoriesOf, hd, hflag, hscheme, Bool.or_self, Bool.false_eq_true, if_false]
  rw [openAs_outcome] at ho
  rw [openAs_storage]
  cases hdurability : Durability.ofValue (o.durabilityIn host.settings) with
  | error f =>
    unfold Opening.complete at ho
    simp only [haddress, hdurability, reduceCtorEq] at ho
  | ok durability =>
    rcases Opening.complete_of_address host.asked host.storage haddress hdurability hl with
      ⟨-, hcomplete⟩ | ⟨-, -, hcomplete⟩ |
        ⟨-, -, tree, htree, ⟨_, -, hcomplete⟩ | ⟨hmade, hcomplete⟩⟩
    · rw [hcomplete] at ho
      cases ho
    · rw [hcomplete] at ho
      cases ho
    · rw [hcomplete] at ho
      cases ho
    · rw [hcomplete]
      dsimp only
      rw [hdirectories] at hmade htree
      rw [htree]
      exact FileTree.get?_of_along hmade hq

end Host

/-- Addresses whose flag is wrong. A `mode` that nothing reads, and options behind the name for memory
or behind no name, make a file pass for memory; the name for memory in a file address, the way into
the file system that keeps all in memory, and a `mode` in the path itself make memory pass for a file.
A file that passes for memory keeps no log, and its directory is not made, as is that of a name which
begins like a file address where none are read. -/
theorem mistaken_flags :
    let flags (address : String) : Except AddressFault (Bool × Except Unusable Bool) := do
      let l ← Locator.parse address
      let opened ← l.target
      return (l.inMemory, opened.map (·.medium.isFile))
    let used (address : String) : Except Failure (Journal × Durability) :=
      let opening : Opening := { role := .server, address := some (.text address) }
      ((({} : Host).openAs opening).andThen fun h host => host.pragmas h).outcome
    (∀ address ∈ ["sqlite+aiosqlite:///a.db?mode=memory", "sqlite+aiosqlite://?uri=true",
        "sqlite+aiosqlite:///a.db?mode=memory&uri=true",
        "sqlite+aiosqlite:///:memory:?uri=true&x=1"],
        flags address = .ok (true, .ok true) ∧ used address = .ok (.rollback, .extra)) ∧
      (∀ address ∈ ["sqlite+aiosqlite:///file::memory:?uri=true",
        "sqlite+aiosqlite:///file:a.db?vfs=memdb&uri=true",
        "sqlite+aiosqlite:///file:a.db%3Fmode=memory?uri=true"],
        flags address = .ok (false, .ok false) ∧ used address = .ok (.memory, .extra)) ∧
      (flags "sqlite+aiosqlite:///d/a.db?mode=memory" = .ok (true, .ok true) ∧
        used "sqlite+aiosqlite:///d/a.db?mode=memory" = .error (.storage .cannotOpen)) ∧
      flags "sqlite+aiosqlite:///file:d/a.db" = .ok (false, .ok true) ∧
        used "sqlite+aiosqlite:///file:d/a.db" = .error (.storage .cannotOpen) := by
  decide +kernel

end DeliveryStore
