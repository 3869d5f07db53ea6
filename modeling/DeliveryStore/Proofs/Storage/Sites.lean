import DeliveryStore.Proofs.Storage.Logs

/-!
# Databases at a site

A `Site` is where the database of an ordinary file is to be found. Once a handle has written there,
it and all that come after it have channels to one and the same log: entering, writing, leaving and
making the directories again go on from the data that are there. Main statements:

* `Storage.Carries` — storage in which the database at a site has some data, for all later handles;
* `Carries.enter`, `Carries.write`, `Carries.disconnect`, `Carries.makeDirectories` — what is done
  through such handles keeps it;
* `Storage.carries_of_write` — it begins with the first handle that writes.
-/

namespace DeliveryStore

/-- Where the database of an ordinary file is: the directories that are made for it, and the names
that lead to the file. -/
structure Site where
  directories : List FileName
  names : List FileName

namespace Site

/-- The place of the file at a site. -/
def path (w : Site) : Path := Path.resolve w.names

/-- What is opened at a site: the file, made if it is missing, with nothing else asked for. -/
def target (w : Site) : Target := { medium := .file w.names }

/-- A site whose file is reached through no other places than those of the directories that are made
for it. -/
def IsPlain (w : Site) : Prop :=
  ∀ before name after, w.names = before ++ name :: after →
    Path.Along w.directories (Path.resolve before)

/-- A site at which a database could be opened and kept a log: what does not change about that. -/
structure Tried (w : Site) : Prop where
  plain : w.IsPlain
  found : ∃ t : FileTree, t.locate w.names = some w.path
  made : ∃ t : FileTree, (t.makeDirectories w.directories).1 = none
  short : w.path.isTooLong = false
  log_off : ¬Path.Along w.directories w.path.log

end Site

/-! ## Channels at a site -/

namespace Channel

/-- A channel that has been there before the handle of a number, and whose handles all have. -/
structure IsEarlier (first : Nat) (c : Channel) : Prop where
  number_lt : c.number < first
  members_lt : ∀ m ∈ c.members, m < first

/-- A channel that writes to the log of the file at a place, for the handle of a number or for a later
one, and for no other. -/
structure Uses (p : Path) (first : Nat) (c : Channel) : Prop where
  le_number : first ≤ c.number
  members_eq : c.members = [c.number]
  place_eq : c.place = .file p
  logging : c.logging = true
  thawed : c.frozen = none
  writable : c.readOnly = false

variable {c c' : Channel} {t t' : FileTree} {others : List Channel} {p : Path} {d : Database}

/-- An index is made unless the channel, or another on the same file, keeps all others out of the log,
or another is in the log already. -/
theorem indexes_eq_true_iff :
    c.indexes others = true ↔ c.system ≠ .exclusive ∧
      ∀ e ∈ others, e.place = c.place → e.system ≠ .exclusive ∧ e.logging = false := by
  simp only [indexes, List.any_cons, Bool.and_eq_true, Bool.not_eq_true', Bool.or_eq_false_iff,
    List.any_eq_false, List.mem_filter, beq_iff_eq, beq_eq_false_iff_ne, Bool.not_eq_true]
  constructor
  · rintro ⟨⟨hc, hsystem⟩, hlogging⟩
    exact ⟨hc, fun e he hplace => ⟨hsystem e ⟨he, hplace⟩, hlogging e ⟨he, hplace⟩⟩⟩
  · rintro ⟨hc, hothers⟩
    exact ⟨⟨hc, fun e he => (hothers e he.1 he.2).1⟩, fun e he => (hothers e he.1 he.2).2⟩

/-- Looking up a database that has data again changes nothing for a channel to its log. -/
theorem refresh_of_logging (h : t.Houses p d) (hf : c.frozen = none) (hl : c.logging = true) :
    c.refresh t others p = .ok (c, t) := by
  rw [refresh_eq, if_neg (by simp [hf]), if_pos hl, h.isLost]
  rfl

/-- A channel that can keep a log opens the one of a database that has data by way of it. -/
theorem refresh_of_houses (h : t.Houses p d) (hf : c.frozen = none) (hl : c.logging = false)
    (hlocks : (c.locksBeside && !p.lock.fits) = false) (hkeeps : c.keepsLog = true) (t' : FileTree)
    (hopen : (t.tidy p).openLog p (c.indexes others) = .ok t') :
    c.refresh t others p = .ok ({ c with logging := true, journal := .writeAhead }, t') := by
  rw [refresh_eq, if_neg (by simp [hf]), if_neg (by simp [hl]), if_neg (by simp [hlocks]),
    if_neg (by simp [hkeeps])]
  simp only [h.tidy.writesAhead, hkeeps, hopen, Bool.true_or, if_true]

end Channel

/-! ## Storage with a database at a site -/

namespace Storage

variable {w : Site} {first n : Nat} {d : Database} {s s' : Storage} {c : Channel}

/-- Storage in which the database at a site has some data, and in which each channel is from before
the handle of a number or writes to the log of that database. Another channel can open the log as
well: either one of the channels from before lets no index be made, or there is room for it. -/
structure Carries (w : Site) (first : Nat) (d : Database) (s : Storage) : Prop where
  data : s.tree.Houses w.path d
  paved : s.tree.Paved w.directories
  channels : ∀ c ∈ s.channels, c.IsEarlier first ∨ c.Uses w.path first
  room : (∃ c ∈ s.channels, c.number < first ∧ c.place = .file w.path ∧
      (c.system = .exclusive ∨ c.logging = true)) ∨
    ¬Path.Along w.directories w.path.index ∧ s.tree.get? w.path.index ≠ some .directory

/-- A handle that is later than all channels has none. -/
theorem channel?_eq_none (hs : ∀ c ∈ s.channels, c.IsEarlier n) : s.channel? n = none := by
  refine List.find?_eq_none.2 fun c hc hmember => ?_
  have hlt := (hs c hc).members_lt n (List.contains_iff_mem.1 hmember)
  exact Nat.lt_irrefl n hlt

/-- A channel of a later handle is its own. -/
theorem Carries.uses (hs : s.Carries w first d) (hn : first ≤ n) (hc : s.channel? n = some c) :
    c.Uses w.path first ∧ c.number = n := by
  have hmem : c ∈ s.channels := List.mem_of_find?_eq_some hc
  have hmember : n ∈ c.members := by simpa using contains_of_channel? hc
  rcases hs.channels c hmem with hearlier | huses
  · have hlt := hearlier.members_lt n hmember
    omega
  · rw [huses.members_eq] at hmember
    exact ⟨huses, (List.mem_singleton.1 hmember).symm⟩

/-- The files may change as long as the data and the directories stay, and no directory comes in the
place of the index. -/
theorem Carries.withTree (hs : s.Carries w first d) {d' : Database} {tree : FileTree}
    (hdata : tree.Houses w.path d') (hkept : s.tree.KeepsDirectories tree)
    (hindex : ¬Path.Along w.directories w.path.index →
      s.tree.get? w.path.index ≠ some .directory → tree.get? w.path.index ≠ some .directory) :
    Carries w first d' { s with tree } := by
  refine ⟨hdata, hs.paved.mono hkept, hs.channels, ?_⟩
  rcases hs.room with hother | ⟨hoff, hfree⟩
  · exact .inl hother
  · exact .inr ⟨hoff, hindex hoff hfree⟩

theorem Carries.noteTables (hs : s.Carries w first d) (hc : c.Uses w.path first) :
    (s.noteTables c).Carries w first d := by
  refine ⟨hs.data, hs.paved, ?_, ?_⟩
  · intro e he
    rcases List.mem_cons.1 he with rfl | hmem
    · exact .inr ⟨hc.le_number, hc.members_eq, hc.place_eq, hc.logging, hc.thawed, hc.writable⟩
    · exact hs.channels e (List.mem_filter.1 hmem).1
  · rcases hs.room with ⟨e, he, hlt, hplace, hkeeps⟩ | hfree
    · -- A channel from before has another number, and so it stays.
      have hle := hc.le_number
      have hne : e.number ≠ c.number := by omega
      refine .inl ⟨e, List.mem_cons_of_mem _ ?_, hlt, hplace, hkeeps⟩
      exact List.mem_filter.2 ⟨he, by simpa using hne⟩
    · exact .inr hfree

/-! ## Entering -/

/-- Where a new channel makes an index there is room for it: no channel from before keeps it from
being made. -/
theorem Carries.room_of_indexes (hs : s.Carries w first d) (hn : first ≤ n)
    (hplace : c.place = .file w.path) (hindexes : c.indexes (s.others n) = true) :
    ¬Path.Along w.directories w.path.index ∧ s.tree.get? w.path.index ≠ some .directory := by
  rcases hs.room with ⟨e, he, hlt, hat, hkeeps⟩ | hfree
  · have hne : e.number ≠ n := by omega
    have hother : e ∈ s.others n := List.mem_filter.2 ⟨he, by simpa using hne⟩
    obtain ⟨-, hothers⟩ := Channel.indexes_eq_true_iff.1 hindexes
    obtain ⟨hsystem, hlogging⟩ := hothers e hother (hat.trans hplace.symm)
    rcases hkeeps with hexclusive | hlogs
    · exact absurd hexclusive hsystem
    · rw [hlogging] at hlogs
      cases hlogs
  · exact hfree

/-- The log at a site can be opened by one more channel, which leaves the data as they are. -/
theorem Carries.openLog (hs : s.Carries w first d) (hn : first ≤ n)
    (hplace : c.place = .file w.path) :
    ∃ tree, (s.tree.tidy w.path).openLog w.path (c.indexes (s.others n)) = .ok tree ∧
      Carries w first d { s with tree } := by
  have hp := hs.data.isSolid.ne_nil
  have htidy := hs.data.tidy
  have hlog : (s.tree.tidy w.path).isDirectory w.path.log = false := by
    cases htidy with
    | pending _ hl => simp [FileTree.isDirectory, hl]
    | whole _ _ hd => simpa [FileTree.isDirectory] using hd
  have hkept := s.tree.keepsDirectories_tidy w.path
  -- Beside the log, tidying up and opening it leave what is in the place of the index.
  have hindex : s.tree.get? w.path.index ≠ some .directory →
      ((s.tree.tidy w.path).withLog w.path).get? w.path.index ≠ some .directory := by
    intro hfree
    rw [FileTree.get?_withLog_of_ne (Path.log_ne_index hp hp).symm]
    by_cases houter : w.path.index.isOuter = true
    · exact absurd (FileTree.get?_of_isOuter houter) hfree
    · rw [FileTree.get?_tidy hp (by simpa using houter)]
      split
      · simp
      · exact hfree
  have hopen := FileTree.openLog_eq (s.tree.tidy w.path) w.path (c.indexes (s.others n))
  rw [if_neg (by simp [hlog])] at hopen
  cases hindexed : c.indexes (s.others n) with
  | false =>
    rw [hindexed] at hopen
    have hopened := hkept.trans (FileTree.keepsDirectories_openLog hopen)
    exact ⟨_, hopen, hs.withTree htidy.withLog hopened fun _ => hindex⟩
  | true =>
    obtain ⟨hoff, hfree⟩ := hs.room_of_indexes hn hplace hindexed
    have hroom := hindex hfree
    rw [hindexed, if_neg (by simp [FileTree.isDirectory, hroom]), if_pos rfl] at hopen
    refine ⟨((s.tree.tidy w.path).withLog w.path).put w.path.index (.file .index), hopen, ?_⟩
    · refine hs.withTree ?_ (hkept.trans (FileTree.keepsDirectories_openLog hopen)) ?_
      · exact htidy.withLog.congr (FileTree.get?_put_of_ne (Path.index_ne hp).symm)
          (FileTree.get?_put_of_ne (Path.log_ne_index hp hp))
      · intro _ _
        have houter : w.path.index.isOuter = false := FileTree.isOuter_of_get? hfree
        simp [FileTree.get?_put_self houter]

/-- A later handle enters the database at a site by way of its log. -/
theorem Carries.enter (hw : w.Tried) (hs : s.Carries w first d) (hn : first ≤ n) :
    ∃ c s', s.enter n w.target false = (.ok c, s') ∧ c.Uses w.path first ∧
      s'.Carries w first d := by
  rw [enter_eq]
  -- Once there is a channel to the log, looking up the file changes nothing.
  have hready : ∀ {s : Storage} {c : Channel}, s.Carries w first d → c.Uses w.path first →
      s.ready c = (.ok c, s.noteTables c) := by
    intro s c hs hc
    rw [ready_file hc.place_eq, Channel.refresh_of_logging hs.data hc.thawed hc.logging]
  cases hchannel : s.channel? n with
  | some c =>
    obtain ⟨huses, -⟩ := hs.uses hn hchannel
    rw [connect_of_channel hchannel]
    exact ⟨c, _, hready hs huses, huses, hs.noteTables huses⟩
  | none =>
    obtain ⟨content, hfile, -⟩ := hs.data.isSolid
    have hplace : s.placeOf n w.target = .ok (.file w.path) := by
      obtain ⟨t, hfound⟩ := hw.found
      have hlocate : s.tree.locate w.names = some w.path :=
        FileTree.locate_of_locate hfound fun before name after hnames hfile => by
          rw [FileTree.isFile_of_directory (hs.paved _ (hw.plain before name after hnames))] at hfile
          cases hfile
      simp only [placeOf, Site.target, hlocate]
    have hopenFile : s.tree.openFile w.path w.target = .ok s.tree := by
      simp [FileTree.openFile, hw.short, Site.target, hfile]
    let new : Channel := Channel.new n (.file w.path) w.target
    let logged : Channel := { new with logging := true, journal := .writeAhead }
    obtain ⟨tree, hopen, hcarries⟩ := hs.openLog hn (c := new) rfl
    have hsettle : new.settle s.tree (s.others n) w.path false true = .ok (logged, tree) := by
      have hrefresh : new.refresh s.tree (s.others n) w.path = .ok (logged, tree) :=
        Channel.refresh_of_houses hs.data rfl rfl rfl rfl tree hopen
      simp only [Channel.settle, Bool.false_eq_true, if_false, hrefresh, bind, Except.bind]
      rfl
    have huses : logged.Uses w.path first := ⟨hn, rfl, rfl, rfl, rfl, rfl⟩
    have hnoted := hcarries.noteTables huses
    have hconnect : s.connect n w.target false =
        (.ok logged, { s with tree }.noteTables logged) := by
      have himmutable : w.target.immutable = false := rfl
      have hsharing : s.sharing? w.target (.file w.path) = none := rfl
      simp only [connect, hchannel, hplace, hsharing, openChannel, hopenFile, himmutable,
        Bool.not_false]
      rw [hsettle]
    rw [hconnect]
    exact ⟨logged, _, hready hnoted huses, huses, hnoted.noteTables huses⟩

/-! ## Writing and leaving -/

/-- What is written through a channel to the log is what the database at the site has then. -/
theorem Carries.write (hs : s.Carries w first d) (hc : c.Uses w.path first)
    {d' : Database} (h : s.write c d' = .ok s') : s'.Carries w first d' := by
  have hp := hs.data.isSolid.ne_nil
  rw [write_of_logging hc.place_eq hc.logging] at h
  cases h
  refine Carries.noteTables (hs.withTree ?_ ?_ ?_) hc
  · exact FileTree.houses_writeLog hs.data.isSolid d'
  · exact FileTree.keepsDirectories_writeLog hs.data.log_ne d'
  · intro _ hfree
    rwa [FileTree.get?_writeLog_of_ne (Path.log_ne_index hp hp).symm (Path.index_ne hp)]

/-- A later handle that is let go leaves the data as they are. -/
theorem Carries.disconnect (hs : s.Carries w first d) (hn : first ≤ n) :
    (s.disconnect n).Carries w first d := by
  unfold Storage.disconnect
  cases hchannel : s.channel? n with
  | none => exact hs
  | some c =>
    obtain ⟨huses, hnumber⟩ := hs.uses hn hchannel
    have hempty : c.members.filter (· != n) = [] := by
      rw [huses.members_eq, hnumber]
      simp
    dsimp only
    rw [hempty, List.isEmpty_nil, if_pos rfl]
    -- The channel goes; whether the log is closed with it depends on the channels that stay.
    have hle := huses.le_number
    have hchannels : ∀ e ∈ s.others c.number, e.IsEarlier first ∨ e.Uses w.path first :=
      fun e he => hs.channels e (List.mem_filter.1 he).1
    have hroom : (∃ e ∈ s.others c.number, e.number < first ∧ e.place = .file w.path ∧
          (e.system = .exclusive ∨ e.logging = true)) ∨
        ¬Path.Along w.directories w.path.index ∧ s.tree.get? w.path.index ≠ some .directory := by
      rcases hs.room with ⟨e, he, hlt, hkeeps⟩ | hfree
      · have hne : e.number ≠ c.number := by omega
        exact .inl ⟨e, List.mem_filter.2 ⟨he, by simpa using hne⟩, hlt, hkeeps⟩
      · exact .inr hfree
    unfold leaveLog
    rw [huses.place_eq]
    dsimp only
    split
    · -- Without its log, the data of the database are in the file.
      obtain ⟨content, hfile, -⟩ := hs.data.isSolid
      have hkept : s.tree.KeepsDirectories (s.tree.closeLog w.path) :=
        FileTree.keepsDirectories_closeLog (by simp [hfile]) hs.data.log_ne
      refine ⟨hs.data.closeLog, hs.paved.mono hkept, hchannels, ?_⟩
      rcases hroom with hother | ⟨hindex, hfree⟩
      · exact .inl hother
      · refine .inr ⟨hindex, ?_⟩
        exact FileTree.get?_closeLog_index hs.data.isSolid.ne_nil hfree
    · exact ⟨hs.data, hs.paved, hchannels, hroom⟩

/-! ## Making directories -/

/-- The directories of a site can be made again, which leaves the data as they are. -/
theorem Carries.makeDirectories (hw : w.Tried) (hs : s.Carries w first d) :
    (s.tree.makeDirectories w.directories).1 = none ∧
      Carries w first d { s with tree := (s.tree.makeDirectories w.directories).2 } := by
  obtain ⟨t, hmade⟩ := hw.made
  refine ⟨FileTree.makeDirectories_again hmade fun q hq =>
    FileTree.isFile_of_directory (hs.paved q hq), ?_⟩
  -- Beside the way nothing changes.
  have hsame : ∀ q, ¬Path.Along w.directories q →
      (s.tree.makeDirectories w.directories).2.get? q = s.tree.get? q := by
    intro q hq
    rcases FileTree.get?_makeDirectories s.tree w.directories q with hsame | ⟨-, -, halong⟩
    · exact hsame
    · exact absurd halong hq
  have hfile : (s.tree.makeDirectories w.directories).2.get? w.path = s.tree.get? w.path := by
    obtain ⟨content, hfile, -⟩ := hs.data.isSolid
    rcases FileTree.get?_makeDirectories s.tree w.directories w.path with hsame | ⟨hnone, -⟩
    · exact hsame
    · rw [hfile] at hnone
      cases hnone
  refine hs.withTree (hs.data.congr hfile (hsame _ hw.log_off))
    (s.tree.keepsDirectories_makeDirectories _) ?_
  intro hoff hfree
  rwa [hsame _ hoff]

end Storage

/-! ## The first handle -/

namespace Channel

variable {c c₁ c₂ : Channel} {t t₁ t₂ : FileTree} {others : List Channel} {p : Path}

/-- The ways in which a new channel that can keep a log finds or starts one. -/
theorem settle_log (hk : c.keepsLog = true) (hf : c.frozen = none) (hl : c.logging = false)
    (h : c.settle t others p false true = .ok (c₁, t₁)) :
    (c₁ = { c with logging := true, journal := .writeAhead } ∧
      (t.tidy p).openLog p (c.indexes others) = .ok t₁ ∧ (t.tidy p).isBlank p = false) ∨
    (c₁ = { c with journal := .writeAhead } ∧ (t.tidy p).canJournal p = true ∧
      t₁ = (t.tidy p).overwrite p true ((t.tidy p).dataAt p)) := by
  simp only [settle, Bool.false_eq_true, if_false, if_true, bind, Except.bind] at h
  cases hrefresh : c.refresh t others p with
  | error fault =>
    rw [hrefresh] at h
    cases h
  | ok r =>
    obtain ⟨c₀, t₀⟩ := r
    rw [hrefresh] at h
    dsimp only at h
    rcases refresh_cases hrefresh with ⟨-, -, hfrozen | ⟨hlogging, -⟩⟩ | ⟨rfl, -, hopen, hblank⟩ |
      ⟨rfl, rfl, -, -, -, -, -, -⟩
    · simp [hf] at hfrozen
    · rw [hl] at hlogging
      cases hlogging
    · -- The log has been opened, and there is none to start.
      simp only [startLog, decide_true, Bool.true_or, if_true] at h
      cases h
      exact .inl ⟨rfl, hopen, hblank⟩
    · unfold startLog at h
      split at h
      · rename_i hkeeps
        simp [hk] at hkeeps
      split at h
      · cases h
      split at h
      · cases h
      · rename_i hcan
        cases h
        exact .inr ⟨rfl, by simpa using hcan, rfl⟩

/-- A new channel that can keep a log has one open once it has looked at its file a second time. -/
theorem logging_of_settle (hk : c.keepsLog = true) (hf : c.frozen = none) (hl : c.logging = false)
    {content : Content} (hp : t.get? p = some (.file content))
    (h₁ : c.settle t others p false true = .ok (c₁, t₁))
    (h₂ : c₁.refresh t₁ others p = .ok (c₂, t₂)) :
    c₂ = { c with logging := true, journal := .writeAhead } ∧ t.KeepsDirectories t₂ ∧
      ∃ u : FileTree, u.IsSolid p ∧ u.openLog p (c.indexes others) = .ok t₂ := by
  have houter := FileTree.isOuter_of_file hp
  have hfile : (t.tidy p).get? p = some (.file content) := by
    rw [FileTree.get?_tidy_self, hp]
  have htidy := t.keepsDirectories_tidy p
  rcases settle_log hk hf hl h₁ with ⟨rfl, hopen, hblank⟩ | ⟨rfl, hcan, rfl⟩
  · -- The log was there, and the second look changes nothing.
    have hsolid : (t.tidy p).IsSolid p := by
      refine ⟨content, hfile, ?_⟩
      simpa only [FileTree.isBlank, hfile] using hblank
    rcases refresh_cases h₂ with ⟨rfl, rfl, -⟩ | ⟨-, -, hagain, -⟩ | ⟨-, -, -, hlogging, -⟩
    · exact ⟨rfl, htidy.trans (FileTree.keepsDirectories_openLog hopen), _, hsolid, hopen⟩
    · rw [refresh_eq, if_neg (by simp [hf]), if_pos rfl] at h₂
      split at h₂
      · cases h₂
      · cases h₂
        exact ⟨rfl, htidy.trans (FileTree.keepsDirectories_openLog hopen), _, hsolid, hopen⟩
    · cases hlogging
  · -- The file speaks of a log now, and the second look opens it.
    have hdata : ((t.tidy p).overwrite p true ((t.tidy p).dataAt p)).get? p =
        some (.file (.database true ((t.tidy p).dataAt p))) :=
      FileTree.get?_overwrite_self houter
    have hkeeps : t.KeepsDirectories ((t.tidy p).overwrite p true ((t.tidy p).dataAt p)) :=
      htidy.trans (FileTree.keepsDirectories_overwrite (by simp [hfile]) hcan)
    rcases refresh_cases h₂ with ⟨-, -, hfrozen | ⟨hlogging, -⟩⟩ | ⟨rfl, -, hopen, -⟩ |
      ⟨-, rfl, -, -, -, -, hahead, -⟩
    · simp [hf] at hfrozen
    · simp [hl] at hlogging
    · rw [FileTree.tidy_overwrite houter] at hopen
      exact ⟨rfl, hkeeps.trans (FileTree.keepsDirectories_openLog hopen), _, ⟨_, hdata, rfl⟩, hopen⟩
    · rw [FileTree.tidy_overwrite houter] at hahead
      unfold FileTree.writesAhead at hahead
      split at hahead
      · cases hahead
      · simp [FileTree.database?, hdata, Content.database?, Except.map] at hahead

end Channel

/-- A file that was opened in order to be made if it is missing is there, and its path is not too
long. -/
theorem FileTree.file_of_openFile {t t' : FileTree} {p : Path} {target : Target}
    (h : t.openFile p target = .ok t') (ha : target.access = .create) :
    p.isTooLong = false ∧ ∃ content, t'.get? p = some (.file content) := by
  unfold openFile at h
  split at h
  · cases h
  rename_i hshort
  refine ⟨by simpa using hshort, ?_⟩
  split at h
  · cases h
  split at h
  · simp [ha] at h
  · rename_i content hcontent
    cases h
    exact ⟨content, hcontent⟩
  · rename_i hnone
    split at h
    · cases h
      exact ⟨_, get?_put_self (isOuter_of_get? (t := t) (by simp [hnone]))⟩
    · cases h

namespace Storage

variable {w : Site} {first : Nat} {d : Database} {s s' s'' : Storage} {c : Channel}

/-- The first handle at a site enters by a new channel, and its file is found. -/
theorem opened_of_enter (hs : ∀ e ∈ s.channels, e.IsEarlier first)
    (h : s.enter first w.target false = (.ok c, s')) :
    s.tree.locate w.names = some w.path ∧ ∃ c₁ s₁,
      s.openChannel first w.target (.file w.path) false = (.ok c₁, s₁) ∧
        s₁.ready c₁ = (.ok c, s') := by
  rw [enter_eq] at h
  have hnone := channel?_eq_none hs
  have hsharing : ∀ place, s.sharing? w.target place = none := fun _ => rfl
  unfold connect at h
  rw [hnone] at h
  dsimp only at h
  cases hlocate : s.tree.locate w.names with
  | none =>
    have hplace : s.placeOf first w.target = .error .cannotOpen := by
      simp only [placeOf, Site.target, hlocate]
    rw [hplace] at h
    cases h
  | some path =>
    have hpath : path = w.path := FileTree.locate_eq hlocate
    subst hpath
    have hplace : s.placeOf first w.target = .ok (.file w.path) := by
      simp only [placeOf, Site.target, hlocate]
    rw [hplace] at h
    simp only [hsharing] at h
    rcases hopened : s.openChannel first w.target (.file w.path) false with ⟨fault | c₁, s₁⟩
    · rw [hopened] at h
      cases h
    rw [hopened] at h
    exact ⟨rfl, c₁, s₁, rfl, h⟩

/-- What the first handle at a site comes to when it enters: the file is found, a log is opened beside
it, and all channels from before stay. -/
theorem enter_first (hs : ∀ e ∈ s.channels, e.IsEarlier first)
    (h : s.enter first w.target false = (.ok c, s')) :
    s.tree.locate w.names = some w.path ∧ w.path.isTooLong = false ∧ c.Uses w.path first ∧
      c.system = .unix ∧ s.tree.KeepsDirectories s'.tree ∧
      (∃ u : FileTree, u.IsSolid w.path ∧
        u.openLog w.path (c.indexes (s.others first)) = .ok s'.tree) ∧
      (∀ e ∈ s.channels, e ∈ s'.channels) ∧
      ∀ e ∈ s'.channels, e.IsEarlier first ∨ e.Uses w.path first := by
  obtain ⟨hlocate, c₁, s₁, hopened, hready⟩ := opened_of_enter hs h
  rcases openChannel_ok hopened with ⟨path, tree, t₁, hpath, hopenFile, hsettle, rfl⟩ | ⟨hfile, -⟩
  swap
  · exact absurd rfl (hfile w.path)
  cases hpath
  -- There is a file, which the new channel looks at twice.
  obtain ⟨hshort, content, hcontent⟩ := FileTree.file_of_openFile hopenFile rfl
  have hnumber : c₁.number = first := by
    rw [Channel.settle_frame hsettle]
    rfl
  have hplace : c₁.place = .file w.path := by
    rw [Channel.settle_frame hsettle]
    rfl
  have hothers : ({ s with tree := t₁ }.noteTables c₁).others c₁.number = s.others first := by
    rw [others_noteTables, hnumber]
    rfl
  rw [ready_file hplace, hothers] at hready
  split at hready
  · cases hready
  rename_i c₂ t₂ hrefresh
  cases hready
  obtain ⟨rfl, hkeeps, u, hsolid, hlog⟩ :=
    Channel.logging_of_settle rfl rfl rfl hcontent hsettle hrefresh
  refine ⟨hlocate, hshort, ⟨Nat.le_refl _, rfl, rfl, rfl, rfl, rfl⟩, rfl,
    (FileTree.keepsDirectories_openFile hopenFile).trans hkeeps, ⟨u, hsolid, hlog⟩, ?_, ?_⟩
  · intro e he
    have hne : e.number ≠ first := Nat.ne_of_lt (hs e he).number_lt
    have hother : e ∈ s.others first := List.mem_filter.2 ⟨he, by simpa using hne⟩
    rw [← hothers, hnumber] at hother
    exact List.mem_cons_of_mem _ hother
  · intro e he
    rcases List.mem_cons.1 he with rfl | hother
    · exact .inr ⟨Nat.le_refl _, rfl, rfl, rfl, rfl, rfl⟩
    · have hmem : e ∈ s.others first := by
        rw [← hothers, hnumber]
        exact hother
      exact .inl (hs e (List.mem_filter.1 hmem).1)

/-- Once the first handle at a site has written, storage carries what it has written. -/
theorem carries_of_write (hw : w.IsPlain) {t : FileTree}
    (hmade : (t.makeDirectories w.directories).1 = none)
    (htree : s.tree = (t.makeDirectories w.directories).2)
    (hs : ∀ e ∈ s.channels, e.IsEarlier first)
    (henter : s.enter first w.target false = (.ok c, s')) (hwrite : s'.write c d = .ok s'') :
    w.Tried ∧ s''.Carries w first d := by
  obtain ⟨hfound, hshort, huses, hsystem, hkeeps, ⟨u, hsolid, hopen⟩, hstay, hchannels⟩ :=
    enter_first hs henter
  have hp := hsolid.ne_nil
  have hpaved : s'.tree.Paved w.directories := by
    intro q hq
    refine hkeeps q ?_
    rw [htree]
    exact FileTree.get?_of_along hmade hq
  have hlogged := FileTree.log_of_openLog hp hopen
  have hlog : ¬Path.Along w.directories w.path.log := hpaved.not_along hlogged
  refine ⟨⟨hw, ⟨_, hfound⟩, ⟨t, hmade⟩, hshort, hlog⟩, ?_⟩
  rw [write_of_logging huses.place_eq huses.logging] at hwrite
  cases hwrite
  have hkept : s'.tree.KeepsDirectories (s'.tree.writeLog w.path d) :=
    FileTree.keepsDirectories_writeLog (by simp [hlogged]) d
  refine Carries.noteTables ⟨?_, hpaved.mono hkept, hchannels, ?_⟩ huses
  · exact FileTree.houses_writeLog (hsolid.openLog hopen) d
  cases hindexed : c.indexes (s.others first) with
  | true =>
    -- An index was made, and so there is room for one.
    rw [hindexed] at hopen
    have hindex := FileTree.index_of_openLog hp hopen
    refine .inr ⟨hpaved.not_along hindex, ?_⟩
    dsimp only
    rw [FileTree.get?_writeLog_of_ne (Path.log_ne_index hp hp).symm (Path.index_ne hp), hindex]
    simp
  | false =>
    -- A channel from before keeps the index from being made.
    left
    by_contra hnone
    have hmakes : c.indexes (s.others first) = true := by
      refine Channel.indexes_eq_true_iff.2 ⟨by simp [hsystem], fun e he hplace => ?_⟩
      have hat : e ∈ s.channels := (List.mem_filter.1 he).1
      have hkeeps : ¬(e.system = .exclusive ∨ e.logging = true) := fun hkeeps =>
        hnone ⟨e, hstay e hat, (hs e hat).number_lt, hplace.trans huses.place_eq, hkeeps⟩
      simpa using hkeeps
    rw [hindexed] at hmakes
    cases hmakes

end Storage

end DeliveryStore
