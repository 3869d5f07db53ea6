import DeliveryStore.Proofs.Reachable
import DeliveryStore.Proofs.Storage.Sites

/-!
# Handles on ordinary files

An address that names nothing but a file opens the file at a `Site`. All handles that are opened for
such an address after the first that made its tables serve the same data, whether they are new, have
been in use, or have been closed. Main statements:

* `Locator.IsPlainFile.site` — what an address of an ordinary file opens is at a site;
* `Carries.upholds` — a later handle on the site serves the data that storage carries there, and what
  it does to them they are for all such handles;
* `Storage.carries_of_initialise` — the first handle that makes its tables makes storage carry data.
-/

namespace DeliveryStore

/-! ## Addresses of ordinary files -/

/-- An address that names nothing but a file: nothing in memory, no file address, and no options that
are taken for a part of the name. -/
structure Locator.IsPlainFile (l : Locator) : Prop where
  outside : l.inMemory = false
  unschemed : ∀ d, l.database = some d → Target.scheme.toList.isPrefixOf d.toList = false
  bare : ∀ options, DriverOptions.read l.withoutPlugins = .ok options → options.uri = true →
    l.withoutPlugins.addressOptions = []

namespace Locator

variable {l : Locator} {target : Target}

/-- An address that opens something opens it for the name of its database, with options or without,
or for the text that stands for no name. -/
theorem target_cases (h : l.target = .ok (.ok target)) :
    ∃ options, DriverOptions.read l.withoutPlugins = .ok options ∧
      ((options.uri = true ∧ ∃ name, l.withoutPlugins.addressName = .ok name ∧
          targetOfName name = .ok target) ∨
        options.uri = false ∧ target = targetOfPlain (l.database.getD "")) := by
  unfold Locator.target at h
  simp only [bind, Except.bind, pure, Except.pure, throw, throwThe, MonadExceptOf.throw] at h
  split at h
  · cases h
  split at h
  · cases h
  split at h
  · cases h
  split at h
  · cases h
  rename_i options hoptions
  refine ⟨options, hoptions, ?_⟩
  split at h
  · rename_i huri
    split at h
    · cases h
    rename_i name hname
    split at h
    · cases h
    split at h
    · cases h
    split at h
    · cases h
    · exact .inl ⟨huri, name, hname, Except.ok.inj h⟩
  · rename_i huri
    split at h
    · cases h
    split at h
    · cases h
    split at h
    · cases h
    · exact .inr ⟨by simpa using huri, (Except.ok.inj (Except.ok.inj h)).symm⟩

/-- An ordinary file has a name, and not the one for memory. -/
theorem IsPlainFile.named (hl : l.IsPlainFile) :
    ∃ d, l.database = some d ∧ d ≠ "" ∧ d ≠ Target.memoryName := by
  have houtside := hl.outside
  simp only [inMemory, Bool.or_eq_false_iff, beq_eq_false_iff_ne] at houtside
  obtain ⟨⟨⟨hnone, hempty⟩, hmemory⟩, -⟩ := houtside
  cases hd : l.database with
  | none => exact absurd hd hnone
  | some d =>
    rw [hd] at hempty hmemory
    exact ⟨d, rfl, fun h => hempty (by rw [h]), fun h => hmemory (by rw [h]; rfl)⟩

/-- A name that is neither empty nor the one for memory is that of a file. -/
theorem ofName_of_ne {d : String} (hempty : d ≠ "") (hmemory : d ≠ Target.memoryName) :
    Target.ofName (FileName.ofText d) = { medium := .file (Path.namesOfText d) } := by
  have hname : FileName.ofText d ≠ FileName.ofText Target.memoryName := fun h =>
    hmemory (FileName.ofText_inj h)
  have hnil : (FileName.ofText d).isEmpty = false := by
    rw [List.isEmpty_eq_false_iff]
    exact fun h => hempty (FileName.ofText_inj (b := "") h)
  simp only [Target.ofName, hname, hnil, if_false, Bool.false_eq_true]
  rfl

/-- What an address of an ordinary file opens is at a site, for which the directories of the address
are made. -/
theorem IsPlainFile.site (hl : l.IsPlainFile) (h : l.target = .ok (.ok target)) :
    ∃ w : Site, w.IsPlain ∧ w.directories = Handle.directoriesOf l ∧ target = w.target := by
  obtain ⟨d, hd, hempty, hmemory⟩ := hl.named
  have hscheme := hl.unschemed d hd
  have hdirectories : Handle.directoriesOf l = (Path.namesOfText d).dropLast := by
    simp only [Handle.directoriesOf, hd, hl.outside, hscheme, Bool.false_or, Bool.false_eq_true,
      if_false]
  rw [hdirectories]
  obtain ⟨options, hoptions, ⟨huri, name, hname, htarget⟩ | ⟨-, rfl⟩⟩ := target_cases h
  · -- The name is the database, and its names are followed as they are written.
    have hsame : name = d := by
      have hbare := hl.bare options hoptions huri
      have hdatabase : l.withoutPlugins.database = some d := hd
      simp only [addressName, hdatabase, hbare, List.map_nil, List.isEmpty_nil, if_true,
        String.append_empty] at hname
      exact (Except.ok.inj hname).symm
    subst hsame
    refine ⟨⟨(Path.namesOfText name).dropLast, Path.namesOfText name⟩, ?_, rfl, ?_⟩
    · intro before last after hnames
      exact Path.along_dropLast hnames (by simp)
    · simp only [targetOfName, hscheme, Bool.false_eq_true, if_false,
        ofName_of_ne hempty hmemory] at htarget
      exact (Except.ok.inj htarget).symm
  · -- The names are resolved before they are followed.
    refine ⟨⟨(Path.namesOfText d).dropLast, Path.resolve (Path.namesOfText d)⟩, ?_, rfl, ?_⟩
    · intro before last after hnames
      exact Path.along_dropLast_of_resolve hnames
    · simp only [hd, Option.getD_some, targetOfPlain, hempty, if_false, ofName_of_ne hempty hmemory]
      rfl

end Locator

/-! ## Handles at a site -/

/-- A handle on the file at a site. -/
structure Handle.IsAt (h : Handle) (w : Site) : Prop where
  target_eq : h.target = .ok w.target
  outside : h.inMemory = false

/-- An opening, under some settings, of the file at a site. -/
def Opening.IsAt (o : Opening) (settings : Settings) (w : Site) : Prop :=
  ∃ address l, o.addressIn settings = some address ∧ Locator.ofValue address = .ok l ∧
    l.inMemory = false ∧ l.target = .ok (.ok w.target) ∧
    Handle.directoriesOf l = w.directories ∧ w.directories.any (·.contains 0) = false

/-- A handle that can be entered opens something. -/
theorem Handle.target_of_initialise {h : Handle} {s : Storage}
    (ho : (h.initialise s).outcome = .ok ()) : ∃ target, h.target = .ok target := by
  unfold initialise at ho
  rcases he : h.enter s with ⟨refusal | c, s'⟩
  · rw [he] at ho
    cases refusal <;> cases ho
  · exact (stands_of_enter he).1

/-- A handle that is made for the address of an ordinary file is at a site, if it opens anything. -/
theorem Opening.isAt_of_make {o : Opening} {settings : Settings} {address : Value} {l : Locator}
    (haddress : o.addressIn settings = some address) (hl : Locator.ofValue address = .ok l)
    (hplain : l.IsPlainFile) (hnames : (Handle.directoriesOf l).any (·.contains 0) = false)
    {number : Nat} {durability : Durability} {h : Handle}
    (hmake : Handle.make number o durability l = .ok h) {target : Target}
    (ht : h.target = .ok target) :
    ∃ w : Site, w.IsPlain ∧ w.directories = Handle.directoriesOf l ∧ o.IsAt settings w ∧ h.IsAt w ∧
      h.number = number ∧ h.role = o.role ∧ h.name = o.logName := by
  unfold Handle.make at hmake
  split at hmake
  · cases hmake
  rename_i found hfound
  cases hmake
  dsimp only at ht
  subst ht
  obtain ⟨w, hw, hdirectories, rfl⟩ := hplain.site hfound
  rw [← hdirectories] at hnames
  exact ⟨w, hw, hdirectories,
    ⟨address, l, haddress, hl, hplain.outside, hfound, hdirectories.symm, hnames⟩,
    ⟨rfl, hplain.outside⟩, rfl, rfl, rfl⟩

namespace Storage

variable {w : Site} {first : Nat} {d : Database} {s s' : Storage} {h : Handle}

theorem Carries.enter_handle (hw : w.Tried) (hs : s.Carries w first d) (hh : h.IsAt w)
    (hn : first ≤ h.number) :
    ∃ c s', h.enter s = (.ok c, s') ∧ c.Uses w.path first ∧ s'.Carries w first d := by
  obtain ⟨c, s', henter, huses, hcarries⟩ := hs.enter hw hn
  refine ⟨c, s', ?_, huses, hcarries⟩
  unfold Handle.enter
  rw [hh.target_eq, hh.outside]
  dsimp only
  rw [henter]
  rfl

/-- A later handle at the site upholds that storage carries data there. -/
theorem Carries.upholds (hw : w.Tried) (hh : h.IsAt w) (hn : first ≤ h.number) :
    h.Upholds false (fun d s => s.Carries w first d) := by
  intro d s hs
  obtain ⟨c, s', henter, huses, hcarries⟩ := hs.enter_handle hw hh hn
  refine ⟨c, s', henter, hcarries, ?_, huses.writable, ⟨huses.thawed, fun path hpath => ?_⟩,
    fun _ _ => hcarries.write huses⟩
  · simp only [read, huses.thawed, huses.place_eq, hcarries.data.dataAt]
  · have hsame : path = w.path := Place.file.inj (hpath.symm.trans huses.place_eq)
    exact ⟨hsame ▸ hcarries.data.isSolid.ne_nil, .inl huses.logging⟩

/-- After the first handle at the site has made its tables, storage carries data there, and none of
the tables is missing in them. -/
theorem carries_of_initialise (hw : w.IsPlain) {t : FileTree}
    (hmade : (t.makeDirectories w.directories).1 = none)
    (htree : s.tree = (t.makeDirectories w.directories).2)
    (hs : ∀ c ∈ s.channels, c.IsEarlier h.number) (hh : h.IsAt w)
    (ho : (h.initialise s).outcome = .ok ()) :
    w.Tried ∧ ∃ d, (h.initialise s).storage.Carries w h.number d ∧
      ∀ store ∈ h.role.stores, d.has store = true := by
  have henter : h.enter s = ((s.enter h.number w.target false).1.mapError .storage,
      (s.enter h.number w.target false).2) := by
    unfold Handle.enter
    rw [hh.target_eq, hh.outside]
  unfold Handle.initialise at ho ⊢
  rw [henter] at ho ⊢
  rcases hentered : s.enter h.number w.target false with ⟨fault | c, s₁⟩
  · rw [hentered] at ho
    cases ho
  rw [hentered] at ho
  dsimp only [Except.mapError] at ho ⊢
  -- The first channel may write, and has written the tables.
  have hwritable : c.readOnly = false := (enter_first hs hentered).2.2.1.writable
  split at ho
  · cases ho
  rename_i hstores
  rw [if_neg hstores]
  have hensure : (s₁.read c).ensure c.readOnly h.role.stores =
      .ok (h.role.stores.foldl Database.create (s₁.read c)) := by
    rw [hwritable]
    rfl
  rw [hensure] at ho ⊢
  dsimp only at ho ⊢
  rw [hwritable, if_neg Bool.false_ne_true] at ho ⊢
  rcases hwrite : s₁.write c (h.role.stores.foldl Database.create (s₁.read c)) with fault | s₂
  · rw [hwrite] at ho
    cases ho
  obtain ⟨htried, hcarries⟩ := carries_of_write hw hmade htree hs hentered hwrite
  exact ⟨htried, _, hcarries, fun store hstore => Database.has_foldl_create _ (.inl hstore)⟩

/-- The file at the site can be opened again, under any number, and the data stay as they are. -/
theorem Carries.complete (hw : w.Tried) (hs : s.Carries w first d) {o : Opening}
    {settings : Settings} (ho : o.IsAt settings w) {durability : Durability}
    (hdurability : Durability.ofValue (o.durabilityIn settings) = .ok durability) (number : Nat) :
    ∃ h tree, o.complete settings number s = { outcome := .ok h, storage := { s with tree } } ∧
      h.IsAt w ∧ h.number = number ∧ h.role = o.role ∧ h.name = o.logName ∧
      Carries w first d { s with tree } := by
  obtain ⟨address, l, haddress, hl, houtside, htarget, hdirectories, hnames⟩ := ho
  obtain ⟨hmade, hcarries⟩ := hs.makeDirectories hw
  let h : Handle :=
    { number, role := o.role, name := o.logName, durability, inMemory := false
      target := .ok w.target }
  have hmake : Handle.make number o durability l = .ok h := by
    simp only [Handle.make, htarget, houtside, h]
  -- The directories have been made before, so that no calls are nested.
  have hcalls : ¬settings.nesting < s.tree.callsFor w.directories := by
    simp [hs.paved.callsFor_eq]
  refine ⟨h, _, ?_, ⟨rfl, rfl⟩, rfl, rfl, rfl, hcarries⟩
  simp only [Opening.complete, haddress, hdurability, hl, hdirectories, hnames, Bool.false_eq_true,
    if_false, hcalls, hmade, hmake]

theorem lasts_isEarlier : Lasts Channel.IsEarlier where
  mono hle hc :=
    ⟨Nat.lt_of_lt_of_le hc.number_lt hle, fun m hm => Nat.lt_of_lt_of_le (hc.members_lt m hm) hle⟩
  opened := by
    intro n handle s s' target place inMemory c hn _ hopen
    have hnew : (Channel.new handle place target).IsEarlier n := by
      constructor
      · rwa [number_new]
      · rw [members_new]
        intro m hm
        rwa [List.mem_singleton.1 hm]
    rcases openChannel_ok hopen with ⟨_, _, _, -, -, hsettle, -⟩ | ⟨-, rfl, -⟩
    · rw [Channel.settle_frame hsettle]
      exact ⟨hnew.number_lt, hnew.members_lt⟩
    · exact hnew
  members hmembers hc := by
    refine ⟨hc.number_lt, fun m hm => ?_⟩
    rcases hmembers m hm with hlt | hmem
    · exact hlt
    · exact hc.members_lt m hmem
  noted _ hc := ⟨hc.number_lt, hc.members_lt⟩
  refreshed _ hrefresh hc := by
    rw [Channel.refresh_frame hrefresh]
    exact ⟨hc.number_lt, hc.members_lt⟩

end Storage

/-- In a reachable session all channels are from before the next handle. -/
theorem Session.Reachable.earlier {s : Session} (hs : s.Reachable) :
    ∀ c ∈ s.host.storage.channels, c.IsEarlier s.host.asked := by
  have hbegin : ∀ c ∈ ({} : Storage).channels, c.IsEarlier 0 := by
    intro c hc
    cases hc
  exact (hs.keeps Storage.lasts_isEarlier.invariant hbegin fun _ hs => hs).storage

end DeliveryStore
