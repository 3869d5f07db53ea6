import DeliveryStore.Proofs.Addresses
import DeliveryStore.Proofs.Remarks

/-!
# Directories of opened databases

Opening the database in a file makes the directories above the file, and it makes them before the rest
of the address is looked at. Main statements:

* `Opening.complete_of_address` — what an opening comes to, once durability and address can be read;
* `opening_makes_directories` — what is made for a file that is given by a relative path, and when
  nothing can be made;
* `failed_opening_leaves_directories` — what a failed opening may leave behind.
-/

namespace DeliveryStore

/-! ## Openings -/

deriving instance DecidableEq for Handle

section

variable {o : Opening} {settings : Settings} {number : Nat} {address : Value}
  {durability : Durability} {l : Locator}

/-- An opening whose durability and address can be read fails at a NUL in the name of a directory, at
too many missing directories, or at the directories, or it comes to the handle of the address. -/
theorem Opening.complete_of_address (number : Nat) (s : Storage)
    (haddress : o.addressIn settings = some address)
    (hdurability : Durability.ofValue (o.durabilityIn settings) = .ok durability)
    (hl : Locator.ofValue address = .ok l) :
    ((Handle.directoriesOf l).any (·.contains 0) = true ∧
        o.complete settings number s = { outcome := .error (.unfit .path), storage := s }) ∨
      ((Handle.directoriesOf l).any (·.contains 0) = false ∧
        settings.nesting < s.tree.callsFor (Handle.directoriesOf l) ∧
        o.complete settings number s = { outcome := .error .nestedTooDeep, storage := s }) ∨
      ((Handle.directoriesOf l).any (·.contains 0) = false ∧
        s.tree.callsFor (Handle.directoriesOf l) ≤ settings.nesting ∧
        ∃ tree, tree = (s.tree.makeDirectories (Handle.directoriesOf l)).2 ∧
          ((∃ fault, (s.tree.makeDirectories (Handle.directoriesOf l)).1 = some fault ∧
              o.complete settings number s =
                { outcome := .error (.noDirectory (l.database.getD "") fault)
                  note := some (Completion.schemaGroup, Completion.unavailable "open" fault.label)
                  storage := { s with tree } }) ∨
            (s.tree.makeDirectories (Handle.directoriesOf l)).1 = none ∧
              o.complete settings number s =
                { outcome := Handle.make number o durability l, storage := { s with tree } })) := by
  cases hnul : (Handle.directoriesOf l).any (·.contains 0) with
  | true =>
    refine .inl ⟨rfl, ?_⟩
    simp only [complete, haddress, hdurability, hl, hnul, if_true]
  | false =>
    by_cases hdeep : settings.nesting < s.tree.callsFor (Handle.directoriesOf l)
    · refine .inr (.inl ⟨rfl, hdeep, ?_⟩)
      simp only [complete, haddress, hdurability, hl, hnul, hdeep, Bool.false_eq_true, if_false,
        if_true]
    refine .inr (.inr ⟨rfl, Nat.not_lt.1 hdeep, _, rfl, ?_⟩)
    cases hmade : (s.tree.makeDirectories (Handle.directoriesOf l)).1 with
    | none =>
      refine .inr ⟨rfl, ?_⟩
      simp only [complete, haddress, hdurability, hl, hnul, hdeep, hmade, Bool.false_eq_true,
        if_false]
    | some fault =>
      refine .inl ⟨fault, rfl, ?_⟩
      simp only [complete, haddress, hdurability, hl, hnul, hdeep, hmade, Bool.false_eq_true,
        if_false]

/-- An opening that does not come to reading durability and address leaves storage as it was. -/
theorem Opening.complete_of_unread (number : Nat) (s : Storage)
    (h : ∀ address durability l, o.addressIn settings = some address →
      Durability.ofValue (o.durabilityIn settings) = .ok durability →
      Locator.ofValue address ≠ .ok l) :
    (o.complete settings number s).storage = s := by
  unfold complete
  split
  · rfl
  · rfl
  rename_i address durability haddress hdurability
  split
  · rfl
  · rename_i l hl
    exact absurd hl (h address durability l haddress hdurability)

theorem Host.openAs_outcome (host : Host) (o : Opening) :
    (host.openAs o).outcome = (o.complete host.settings host.asked host.storage).outcome :=
  settle_outcome _ _ _

theorem Host.openAs_storage (host : Host) (o : Opening) :
    (host.openAs o).host.storage = (o.complete host.settings host.asked host.storage).storage :=
  settle_storage _ _ _

/-- A directory with a name that is too long cannot be made for an opening. -/
theorem Host.openAs_of_long_name (host : Host) (haddress : o.addressIn host.settings = some address)
    (hdurability : Durability.ofValue (o.durabilityIn host.settings) = .ok durability)
    (hl : Locator.ofValue address = .ok l)
    (hnul : (Handle.directoriesOf l).any (·.contains 0) = false)
    (hcalls : host.storage.tree.callsFor (Handle.directoriesOf l) ≤ host.settings.nesting)
    {name : FileName} (hname : name ∈ Handle.directoriesOf l) (hlong : Path.greatestName < name.length) :
    ∃ fault, (host.openAs o).outcome = .error (.noDirectory (l.database.getD "") fault) := by
  rw [openAs_outcome]
  rcases Opening.complete_of_address host.asked host.storage haddress hdurability hl with
    ⟨hzero, -⟩ | ⟨-, hdeep, -⟩ | ⟨-, -, tree, -, ⟨fault, -, hcomplete⟩ | ⟨hmade, -⟩⟩
  · rw [hnul] at hzero
    cases hzero
  · omega
  · exact ⟨fault, congrArg Completion.outcome hcomplete⟩
  · exact absurd ((FileTree.makeDirectories_eq_none_iff.1 hmade).1.each name hname) (by omega)

/-- Directories that are too many within one another cannot be made for an opening. -/
theorem Host.openAs_of_deep (host : Host) (haddress : o.addressIn host.settings = some address)
    (hdurability : Durability.ofValue (o.durabilityIn host.settings) = .ok durability)
    (hl : Locator.ofValue address = .ok l)
    (hnul : (Handle.directoriesOf l).any (·.contains 0) = false)
    (hdeep : host.settings.nesting < host.storage.tree.callsFor (Handle.directoriesOf l)) :
    (host.openAs o).outcome = .error .nestedTooDeep := by
  rw [openAs_outcome]
  rcases Opening.complete_of_address host.asked host.storage haddress hdurability hl with
    ⟨hzero, -⟩ | ⟨-, -, hcomplete⟩ | ⟨-, hshallow, -⟩
  · rw [hnul] at hzero
    cases hzero
  · exact congrArg Completion.outcome hcomplete
  · exact absurd hshallow (Nat.not_le.2 hdeep)

/-- The handle of an address is made if the address is accepted, and only then. -/
theorem Handle.isOk_make_iff : (∃ h, make number o durability l = .ok h) ↔
    ∃ target, l.target = .ok target := by
  unfold make
  cases l.target with
  | error fault => simp
  | ok target => simp

theorem Handle.make_error {f : Failure} (h : make number o durability l = .error f) :
    ∃ fault, l.target = .error fault ∧ f = .address fault := by
  unfold make at h
  split at h
  · rename_i fault htarget
    exact ⟨fault, htarget, (Except.error.inj h).symm⟩
  · cases h

end

/-! ## What is made -/

/-- Whether a file stands above a place, where a directory would have to be. -/
def FileTree.Blocks (t : FileTree) (p : Path) : Prop :=
  ∃ q, q <+: p ∧ q ≠ p ∧ t.isFile q = true

/-- Below a place are the directories on the way of its names but the last. -/
theorem Path.along_dropLast_iff {p q : Path} (h : above ∉ p) (hp : p ≠ []) :
    Along p.dropLast q ↔ q <+: p ∧ q ≠ p := by
  have hup : above ∉ p.dropLast := fun hmem => h (p.dropLast_subset hmem)
  rw [along_iff_of_not_mem hup]
  constructor
  · intro hq
    refine ⟨hq.trans (List.dropLast_prefix p), ?_⟩
    rintro rfl
    have hlength := hq.length_le
    rw [List.length_dropLast] at hlength
    exact hp (List.eq_nil_of_length_eq_zero (by omega))
  · rintro ⟨hq, hne⟩
    rw [← List.dropLast_append_getLast hp] at hq hne
    exact (List.prefix_concat_iff.1 hq).resolve_left hne

/-- Opening a database in a file that is given by a relative path makes the directories above the file
that are missing, and nothing else. Where so many are missing that the calls for them are nested too
deep, nothing is made. Otherwise it fails with one entry in the log if a file stands above the place
or the names of the directories do not fit, and only then, and then nothing is made unless it is one
name that is too long. Only after that the rest of the address decides. -/
theorem opening_makes_directories (host : Host) (o : Opening) {address : Value}
    {durability : Durability} {l : Locator} {names : List String}
    (haddress : o.addressIn host.settings = some address)
    (hdurability : Durability.ofValue (o.durabilityIn host.settings) = .ok durability)
    (hl : Locator.ofValue address = .ok l) (hdriver : l.driver = Locator.asynchronousDriver)
    (hspells : l.SpellsFile names) (ht : host.storage.tree.Grounded) :
    let p : Path := names.map FileName.ofText
    let r := host.openAs o
    let before := host.storage.tree
    let after := r.host.storage.tree
    let isNul := ∃ n ∈ names.dropLast, '\x00' ∈ n.toList
    let isDeep := host.settings.nesting < before.callsFor p.dropLast
    let fails := before.Blocks p ∨ ¬Path.Fits p.dropLast
    (isNul → r.outcome = .error (.unfit .path) ∧ r.text = "" ∧ after = before) ∧
      (¬isNul → isDeep → r.outcome = .error .nestedTooDeep ∧ r.text = "" ∧ after = before) ∧
      (¬isNul → ¬isDeep →
        ((∃ f, r.outcome = .error f ∧ f.class? = some .unavailable) ↔ fails) ∧
        (fails →
          (∃ label, (r.text, r.host.log) = host.log.write (Host.entry Completion.schemaGroup o.logName
            (Completion.unavailable "open" label))) ∧
          ((∀ name ∈ p.dropLast, name.length ≤ Path.greatestName) → after = before)) ∧
        (¬fails →
          ((∃ h, r.outcome = .ok h) ↔ l.IsAcceptable) ∧ r.text = "" ∧ r.host.log = host.log ∧
          (∀ q, q <+: p → q ≠ p → after.get? q = some .directory) ∧
          ∀ q, (q <+: p → q = p) → after.get? q = before.get? q)) := by
  intro p r before after isNul isDeep fails
  have hp : p ≠ [] := by
    simpa [p] using hspells.names_ne_nil
  have hup : Path.above ∉ p := Path.above_not_mem hspells.plain
  have hdirectories : Handle.directoriesOf l = p.dropLast := hspells.directories
  have halong : ∀ q, Path.Along p.dropLast q ↔ q <+: p ∧ q ≠ p :=
    fun q => Path.along_dropLast_iff hup hp
  -- The directories cannot be made in the two cases that are called failures here.
  have hfails : (before.makeDirectories p.dropLast).1 = none ↔ ¬fails := by
    rw [FileTree.makeDirectories_eq_none_iff]
    simp only [fails, FileTree.Blocks, not_or, not_not, not_exists, not_and, halong, and_imp,
      Bool.not_eq_true]
    exact and_comm
  have hnul : isNul ↔ (Handle.directoriesOf l).any (·.contains 0) = true :=
    hspells.contains_zero_iff.symm
  have hr : ∀ {c : Completion Handle}, o.complete host.settings host.asked host.storage = c →
      r.outcome = c.outcome ∧ (r.text, r.host.log) = host.log.remark o.logName c.note ∧
        after = c.storage.tree := by
    rintro c rfl
    have heq := Host.settle_eq { host with asked := host.asked + 1 } o.logName
      (o.complete host.settings host.asked host.storage)
    exact ⟨congrArg Report.outcome heq, by simp only [r, Host.openAs, heq],
      congrArg (·.host.storage.tree) heq⟩
  rcases Opening.complete_of_address host.asked host.storage haddress hdurability hl with
    ⟨hzero, hcomplete⟩ | ⟨hzero, hdeep, hcomplete⟩ |
      ⟨hzero, hshallow, tree, htree, ⟨fault, hmade, hcomplete⟩ | ⟨hmade, hcomplete⟩⟩
  all_goals obtain ⟨houtcome, hlog, hafter⟩ := hr hcomplete
  · have hzero' : isNul := hnul.2 hzero
    exact ⟨fun _ => ⟨houtcome, congrArg Prod.fst hlog, hafter⟩, fun h => absurd hzero' h,
      fun h => absurd hzero' h⟩
  all_goals
    have hfree : ¬isNul := fun h => Bool.false_ne_true (hzero.symm.trans (hnul.1 h))
  · rw [hdirectories] at hdeep
    exact ⟨fun h => absurd h hfree, fun _ _ => ⟨houtcome, congrArg Prod.fst hlog, hafter⟩,
      fun _ h => absurd hdeep h⟩
  all_goals
    rw [hdirectories] at hmade htree hshallow
    refine ⟨fun h => absurd h hfree, fun _ h => absurd h (Nat.not_lt.2 hshallow), fun _ _ => ?_⟩
  · have hfailed : fails := by
      by_contra hnot
      rw [hfails.2 hnot] at hmade
      cases hmade
    refine ⟨iff_of_true ⟨_, houtcome, rfl⟩ hfailed, fun _ => ⟨⟨_, hlog⟩, fun hfits => ?_⟩,
      fun hnot => absurd hfailed hnot⟩
    have hupward : Path.above ∉ p.dropLast := fun hmem => hup (p.dropLast_subset hmem)
    have hsame := FileTree.makeDirectories_of_grounded ht hupward hfits (by simp [hmade])
    exact hafter.trans (htree.trans hsame)
  · have hpassed : ¬fails := hfails.1 hmade
    refine ⟨iff_of_false ?_ hpassed, fun h => absurd h hpassed, fun _ => ⟨?_, congrArg Prod.fst hlog,
      congrArg Prod.snd hlog, ?_, ?_⟩⟩
    · rintro ⟨f, hf, hclass⟩
      obtain ⟨fault, -, rfl⟩ := Handle.make_error (houtcome.symm.trans hf)
      cases hclass
    · rw [← Locator.isOk_target_iff hdriver hspells.database, ← Handle.isOk_make_iff, houtcome]
    · intro q hq hne
      rw [hafter, htree]
      exact FileTree.get?_of_along hmade ((halong q).2 ⟨hq, hne⟩)
    · intro q hq
      rw [hafter, htree]
      rcases FileTree.get?_makeDirectories before p.dropLast q with hsame | ⟨-, -, hon⟩
      · exact hsame
      · obtain ⟨hup, hne⟩ := (halong q).1 hon
        exact absurd (hq hup) hne

/-- Two directories for a file, one of which is there. -/
theorem opening_makes_directories_of_two :
    let host : Host := { storage := { tree := ({} : FileTree).put [FileName.ofText "d"] .directory } }
    let o : Opening := { role := .server, address := some (.text "sqlite+aiosqlite:///d/e/a.db") }
    let l : Locator := { driver := "sqlite+aiosqlite", database := some "d/e/a.db" }
    let names := ["d", "e", "a.db"]
    let p : Path := names.map FileName.ofText
    let r := host.openAs o
    let before := host.storage.tree
    let after := r.host.storage.tree
    let isNul := ∃ n ∈ names.dropLast, '\x00' ∈ n.toList
    let isDeep := host.settings.nesting < before.callsFor p.dropLast
    let fails := before.Blocks p ∨ ¬Path.Fits p.dropLast
    o.addressIn host.settings = some (.text "sqlite+aiosqlite:///d/e/a.db") ∧
      Durability.ofValue (o.durabilityIn host.settings) = .ok .extra ∧
      Locator.ofValue (.text "sqlite+aiosqlite:///d/e/a.db") = .ok l ∧
      l.driver = Locator.asynchronousDriver ∧ l.SpellsFile names ∧ host.storage.tree.Grounded ∧
      (isNul → r.outcome = .error (.unfit .path) ∧ r.text = "" ∧ after = before) ∧
      (¬isNul → isDeep → r.outcome = .error .nestedTooDeep ∧ r.text = "" ∧ after = before) ∧
      (¬isNul → ¬isDeep →
        ((∃ f, r.outcome = .error f ∧ f.class? = some .unavailable) ↔ fails) ∧
        (fails →
          (∃ label, (r.text, r.host.log) = host.log.write (Host.entry Completion.schemaGroup o.logName
            (Completion.unavailable "open" label))) ∧
          ((∀ name ∈ p.dropLast, name.length ≤ Path.greatestName) → after = before)) ∧
        (¬fails →
          ((∃ h, r.outcome = .ok h) ↔ l.IsAcceptable) ∧ r.text = "" ∧ r.host.log = host.log ∧
          (∀ q, q <+: p → q ≠ p → after.get? q = some .directory) ∧
          ∀ q, (q <+: p → q = p) → after.get? q = before.get? q)) := by
  intro host o l names p r before after isNul isDeep fails
  have hdurability : Durability.ofValue (o.durabilityIn host.settings) = .ok .extra := by
    decide +kernel
  have hl : Locator.ofValue (.text "sqlite+aiosqlite:///d/e/a.db") = .ok l := by decide +kernel
  have hspells : l.SpellsFile names :=
    ⟨by decide +kernel, by decide, by decide +kernel, by decide +kernel, by decide +kernel, by decide⟩
  have ht : host.storage.tree.Grounded :=
    FileTree.grounded_empty.put_directory rfl rfl
  exact ⟨rfl, hdurability, hl, rfl, hspells, ht,
    opening_makes_directories host o rfl hdurability hl rfl hspells ht⟩

section

variable {o : Opening} {address : Value} {durability : Durability} {l : Locator}

/-- A file in a directory whose name is too long is not opened. -/
theorem Host.openAs_in_long_directory (host : Host) {directory file : String}
    (hspells : l.SpellsFile [directory, file]) (haddress : o.addressIn host.settings = some address)
    (hdurability : Durability.ofValue (o.durabilityIn host.settings) = .ok durability)
    (hl : Locator.ofValue address = .ok l) (hnul : 0 ∉ FileName.ofText directory)
    (hlong : Path.greatestName < (FileName.ofText directory).length) :
    ∃ f, (host.openAs o).outcome = .error f ∧ f.class? = some .unavailable := by
  have hdirectories : Handle.directoriesOf l = [FileName.ofText directory] := hspells.directories
  have hcalls : host.storage.tree.callsFor (Handle.directoriesOf l) = 0 := by
    rw [hdirectories]
    exact FileTree.callsFor_of_long_name hlong
  obtain ⟨fault, hfault⟩ := host.openAs_of_long_name haddress hdurability hl
    (by simpa [hdirectories] using hnul) (hcalls ▸ Nat.zero_le _)
    (hdirectories ▸ List.mem_cons_self) hlong
  exact ⟨_, hfault, rfl⟩

/-- A file is not opened in more directories of one letter than calls can be nested, if none of them is
there. -/
theorem Host.openAs_in_many_directories (host : Host) {n : Nat} {file : String}
    (hspells : l.SpellsFile (List.replicate (n + 1) "d" ++ [file]))
    (haddress : o.addressIn host.settings = some address)
    (hdurability : Durability.ofValue (o.durabilityIn host.settings) = .ok durability)
    (hl : Locator.ofValue address = .ok l)
    (hget : host.storage.tree.get? (Path.resolve [FileName.ofText "d"]) = none)
    (hnesting : host.settings.nesting < n + 1) (hn : 2 * n + 1 ≤ Path.greatestLength) :
    (host.openAs o).outcome = .error .nestedTooDeep := by
  have hdirectories : Handle.directoriesOf l =
      (List.replicate (n + 1) "d").map FileName.ofText := by
    rw [hspells.directories, List.map_append, List.map_singleton, List.dropLast_concat]
  have hcalls : host.storage.tree.callsFor (Handle.directoriesOf l) = n + 1 := by
    have hsize : Text.Utf8.size (Path.written (Handle.directoriesOf l)) ≤ Path.greatestLength := by
      rw [hdirectories, Path.written_ofText (by simp [List.replicate_succ])
        (fun n hn => List.eq_of_mem_replicate hn ▸ by decide +kernel), Path.size_replicate]
      exact hn
    rw [hdirectories, List.map_replicate, List.replicate_succ] at hsize ⊢
    rw [FileTree.callsFor_of_missing hsize (by decide +kernel) hget, List.length_replicate]
  refine host.openAs_of_deep haddress hdurability hl ?_ (hcalls ▸ hnesting)
  rw [hdirectories, List.map_replicate, List.any_replicate, if_neg (Nat.succ_ne_zero n)]
  decide +kernel

end

/-- An opening may fail although no file stands above the place: as the name of a directory is too
long, as there are too many directories, or as an option cannot be read. -/
theorem opening_fails_in_empty_tree :
    let long := [String.ofList (List.replicate 64 '𝄞'), "a.db"]
    let deep := List.replicate 1000 "d" ++ ["a.db"]
    let named (names : List String) : String :=
      Locator.asynchronousDriver ++ ":///" ++ "/".intercalate names
    let optional := Locator.asynchronousDriver ++ ":///d/a.db?uri=maybe"
    let spells (address : String) (names : List String) : Prop :=
      ∃ l, Locator.ofValue (.text address) = .ok l ∧ l.driver = Locator.asynchronousDriver ∧
        l.SpellsFile names
    let opening (address : String) : Opening := { role := .server, address := some (.text address) }
    let opened (address : String) : Except Failure Handle :=
      (({} : Host).openAs (opening address)).outcome
    (∀ p, ¬({} : Host).storage.tree.Blocks p) ∧
      spells (named long) long ∧
      (∃ f, opened (named long) = .error f ∧ f.class? = some .unavailable) ∧
      spells (named deep) deep ∧ opened (named deep) = .error .nestedTooDeep ∧
      spells optional ["d", "a.db"] ∧
      opened optional = .error (.address (.badSwitch "maybe")) := by
  intro long deep named optional spells opening opened
  have hclear : ∀ p, ¬({} : Host).storage.tree.Blocks p := by
    rintro p ⟨q, -, -, hfile⟩
    obtain ⟨c, hc⟩ := FileTree.isFile_eq_true_iff.1 hfile
    have houter := FileTree.isOuter_of_file hc
    simp [FileTree.get?, houter] at hc
  have hextra : Durability.ofValue (.text ({} : Settings).serverSynchronous) = .ok .extra := by
    decide +kernel
  have haddress : ∀ names, (opening (named names)).addressIn ({} : Host).settings =
      some (.text (named names)) := by
    intro names
    simp [opening, Opening.addressIn, Opening.orElse, Value.isTruthy, named,
      Locator.asynchronousDriver]
  -- The long name is looked at as a list, since a text of its length takes long to compute with.
  have hname : (String.ofList (List.replicate 64 '𝄞')).toList = List.replicate 64 '𝄞' :=
    String.toList_ofList
  have hlong : spells (named long) long := by
    refine Locator.spellsFile_of_bare (List.cons_ne_nil _ _)
      (List.forall_mem_cons.2 ⟨?_, by decide +kernel⟩)
      (List.forall_mem_cons.2 ⟨?_, by decide +kernel⟩)
    · refine ⟨?_, ?_, ?_, by simp⟩
      all_goals
        intro heq
        rw [heq] at hname
        exact absurd hname (by decide +kernel)
    · rw [hname]
      decide +kernel
  have hdeep : spells (named deep) deep := by
    have hnames : ∀ {P : String → Prop}, P "d" → P "a.db" → ∀ n ∈ deep, P n := by
      intro P hd ha n hn
      rcases List.mem_append.1 hn with hn | hn
      · exact List.eq_of_mem_replicate hn ▸ hd
      · exact List.mem_singleton.1 hn ▸ ha
    exact Locator.spellsFile_of_bare (List.append_ne_nil_of_right_ne_nil _ (by decide))
      (hnames (by decide +kernel) (by decide +kernel))
      (hnames (by decide +kernel) (by decide +kernel))
  let l : Locator :=
    { driver := Locator.asynchronousDriver, database := some "d/a.db"
      options := [("uri", .one "maybe")] }
  have hoptional : spells optional ["d", "a.db"] :=
    ⟨l, by decide +kernel, rfl, by decide +kernel, by decide, by decide +kernel, by decide +kernel,
      by decide +kernel, by decide +kernel⟩
  refine ⟨hclear, hlong, ?_, hdeep, ?_, hoptional, by decide +kernel⟩
  · obtain ⟨l, hl, -, hspells⟩ := hlong
    have hbytes : 0 ∉ FileName.ofText (String.ofList (List.replicate 64 '𝄞')) ∧
        Path.greatestName < (FileName.ofText (String.ofList (List.replicate 64 '𝄞'))).length := by
      rw [FileName.ofText, hname]
      decide +kernel
    exact Host.openAs_in_long_directory {} hspells (haddress long) hextra hl hbytes.1 hbytes.2
  · obtain ⟨l, hl, -, hspells⟩ := hdeep
    exact Host.openAs_in_many_directories {} (n := 999) hspells (haddress deep) hextra hl rfl
      (by decide) (by decide)

/-! ## What a failed opening leaves behind -/

/-- A failed opening leaves all data as they were. It leaves the files and directories as they were,
too, unless they are more directories: where nothing was, on the way to the file of the database, and
only if the directories could not all be made, as a name among them is too long or leads up, or if all
of them were made before the rest of the address was found to be wrong. -/
theorem failed_opening_leaves_directories (host : Host) (o : Opening) {f : Failure}
    (hf : (host.openAs o).outcome = .error f) :
    let before := host.storage.tree
    let after := (host.openAs o).host.storage.tree
    (host.openAs o).host.storage = { host.storage with tree := after } ∧
      (after = before ∨ ∃ address l, o.addressIn host.settings = some address ∧
        Locator.ofValue address = .ok l ∧
        (∀ q, after.get? q = before.get? q ∨ before.get? q = none ∧
          after.get? q = some .directory ∧ Path.Along (Handle.directoriesOf l) q) ∧
        (f.class? = some .unavailable ∧ (before.Grounded → ∃ name ∈ Handle.directoriesOf l,
            name = Path.above ∨ Path.greatestName < name.length) ∨
          (∃ fault, l.target = .error fault ∧ f = .address fault) ∧
            ∀ q, Path.Along (Handle.directoriesOf l) q → after.get? q = some .directory)) := by
  intro before after
  have houtcome := Host.openAs_outcome host o
  have hleft := Host.openAs_storage host o
  by_cases hread : ∃ address durability l, o.addressIn host.settings = some address ∧
      Durability.ofValue (o.durabilityIn host.settings) = .ok durability ∧
      Locator.ofValue address = .ok l
  swap
  · have hsame := Opening.complete_of_unread host.asked host.storage
      fun address durability l haddress hdurability hl =>
        hread ⟨address, durability, l, haddress, hdurability, hl⟩
    rw [← hleft] at hsame
    exact ⟨hsame.trans (by simp only [after, hsame]), .inl (congrArg Storage.tree hsame)⟩
  obtain ⟨address, durability, l, haddress, hdurability, hl⟩ := hread
  rcases Opening.complete_of_address host.asked host.storage haddress hdurability hl with
    ⟨-, hcomplete⟩ | ⟨-, -, hcomplete⟩ | ⟨-, -, tree, htree, hends⟩
  iterate 2
    have hsame := hleft.trans (congrArg Completion.storage hcomplete)
    exact ⟨hsame.trans (by simp only [after, hsame]), .inl (congrArg Storage.tree hsame)⟩
  have hstorage : (host.openAs o).host.storage = { host.storage with tree } := by
    rcases hends with ⟨fault, -, hcomplete⟩ | ⟨-, hcomplete⟩
    · exact hleft.trans (congrArg Completion.storage hcomplete)
    · exact hleft.trans (congrArg Completion.storage hcomplete)
  have hafter : after = (before.makeDirectories (Handle.directoriesOf l)).2 :=
    (congrArg Storage.tree hstorage).trans htree
  refine ⟨hstorage.trans (by simp only [after, hstorage]), ?_⟩
  by_cases hsame : after = before
  · exact .inl hsame
  refine .inr ⟨address, l, haddress, hl, fun q => ?_, ?_⟩
  · rw [hafter]
    exact FileTree.get?_makeDirectories before _ q
  rcases hends with ⟨fault, hmade, hcomplete⟩ | ⟨hmade, hcomplete⟩
  · have hfault := hf.symm.trans (houtcome.trans (congrArg Completion.outcome hcomplete))
    obtain rfl := Except.error.inj hfault
    refine .inl ⟨rfl, fun hgrounded => ?_⟩
    by_contra hgood
    have hfailed : (before.makeDirectories (Handle.directoriesOf l)).1 ≠ none :=
      fun hnone => Option.some_ne_none fault (hmade.symm.trans hnone)
    refine hsame (hafter.trans (FileTree.makeDirectories_of_grounded hgrounded ?_ ?_ hfailed))
    · exact fun hmem => hgood ⟨_, hmem, .inl rfl⟩
    · exact fun name hname => Nat.not_lt.1 fun hlong => hgood ⟨name, hname, .inr hlong⟩
  · have hfault := hf.symm.trans (houtcome.trans (congrArg Completion.outcome hcomplete))
    obtain ⟨fault, hrefused, rfl⟩ := Handle.make_error hfault.symm
    refine .inr ⟨⟨fault, hrefused, rfl⟩, fun q hq => ?_⟩
    rw [hafter]
    exact FileTree.get?_of_along hmade hq

/-- A driver that is not asynchronous, which is found out when the directory has been made. -/
theorem failed_opening_leaves_directories_of_blocking :
    let host : Host := {}
    let o : Opening := { role := .server, address := some (.text "sqlite:///d/a.db") }
    let f : Failure := .address .blocking
    let before := host.storage.tree
    let after := (host.openAs o).host.storage.tree
    (host.openAs o).outcome = .error f ∧
      (host.openAs o).host.storage = { host.storage with tree := after } ∧
      (after = before ∨ ∃ address l, o.addressIn host.settings = some address ∧
        Locator.ofValue address = .ok l ∧
        (∀ q, after.get? q = before.get? q ∨ before.get? q = none ∧
          after.get? q = some .directory ∧ Path.Along (Handle.directoriesOf l) q) ∧
        (f.class? = some .unavailable ∧ (before.Grounded → ∃ name ∈ Handle.directoriesOf l,
            name = Path.above ∨ Path.greatestName < name.length) ∨
          (∃ fault, l.target = .error fault ∧ f = .address fault) ∧
            ∀ q, Path.Along (Handle.directoriesOf l) q → after.get? q = some .directory)) := by
  intro host o f before after
  have hf : (host.openAs o).outcome = .error f := by decide +kernel
  exact ⟨hf, failed_opening_leaves_directories host o hf⟩

/-- A failed opening may leave a directory behind: for a driver that is not asynchronous, and for a
path that leads up again and then to a file. -/
theorem failed_opening_leaves_a_directory :
    let opened (tree : FileTree) (address : String) : Report Handle :=
      ({ storage := { tree } } : Host).openAs { role := .server, address := some (.text address) }
    let file : FileTree := ({} : FileTree).put [FileName.ofText "f"] (.file (.text ""))
    let place (name : String) : Path := [FileName.ofText name]
    let blocking := opened {} "sqlite:///d/a.db"
    let blocked := opened file "sqlite+aiosqlite:///x/../f/a.db"
    (blocking.outcome.isOk = false ∧ ({} : FileTree).get? (place "d") = none ∧
        blocking.host.storage.tree.get? (place "d") = some .directory) ∧
      blocked.outcome.isOk = false ∧ file.get? (place "x") = none ∧
        blocked.host.storage.tree.get? (place "x") = some .directory := by
  decide +kernel

end DeliveryStore
