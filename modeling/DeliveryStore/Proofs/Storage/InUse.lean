import DeliveryStore.Proofs.Storage.Sites

/-!
# Databases in use

While somebody is in the write-ahead log of a database, every handle that can be in the log comes to
be in it when it is used, whatever its address and whatever the others have done before. Main
statements:

* `Storage.InUse` — storage in which somebody is in the log of a database that has some data;
* `Storage.Joins` — storage in which a handle has a channel of its own that is in the log or can be,
  or would open one;
* `InUse.enter`, `inUse_entered`, `Joins.entered` — what entering comes to, and that it leaves the
  database in use and all handles joining;
* `entered_own`, `joins_of_enter` — a handle that comes to be in the log leaves all others as they are,
  and joins.
-/

namespace DeliveryStore

namespace FileTree

variable {t u v : FileTree} {p q : Path} {d : Database} {names : List FileName}

/-! ## Trees without new files -/

/-- Trees of which the second has files only in places in which the first has some. -/
def AddsNoFile (t u : FileTree) : Prop := ∀ q, u.isFile q = true → t.isFile q = true

theorem AddsNoFile.trans (h : t.AddsNoFile u) (h' : u.AddsNoFile v) : t.AddsNoFile v :=
  fun q hq => h q (h' q hq)

theorem addsNoFile_put {n : Node} (h : t.isFile p = true) : t.AddsNoFile (t.put p n) := by
  intro q hq
  by_cases hne : q = p
  · rwa [hne]
  · obtain ⟨content, hcontent⟩ := isFile_eq_true_iff.1 hq
    rw [get?_put_of_ne hne] at hcontent
    exact isFile_eq_true_iff.2 ⟨content, hcontent⟩

/-- Where there is a log, writing into it brings no files. -/
theorem addsNoFile_writeLog (h : t.isFile p.log = true) (d : Database) :
    t.AddsNoFile (t.writeLog p d) := by
  rcases t.writeLog_cases p d with heq | ⟨hfile, heq⟩
  · rw [heq]
    exact addsNoFile_put h
  · rw [heq]
    intro q hq
    by_cases hne : q = p
    · rwa [hne]
    · refine addsNoFile_put (n := .file (.log (some d))) h q ?_
      rwa [isFile, get?_put_of_ne hne] at hq

theorem addsNoFile_tidy (t : FileTree) (p : Path) : t.AddsNoFile (t.tidy p) := by
  intro q hq
  by_cases hp : p = []
  · rwa [hp, tidy_nil] at hq
  obtain ⟨content, hcontent⟩ := isFile_eq_true_iff.1 hq
  rw [get?_tidy hp (isOuter_of_file hcontent)] at hcontent
  split at hcontent
  · cases hcontent
  · exact isFile_eq_true_iff.2 ⟨content, hcontent⟩

/-- What names have led to they lead to when there are no new files. -/
theorem AddsNoFile.locate (h : t.AddsNoFile u) (hl : t.locate names = some p) :
    u.locate names = some p :=
  locate_of_locate hl fun _ _ _ _ hfile => h _ hfile

/-- A log that is there can be opened without an index, which leaves the data and brings no files. -/
theorem Houses.openLog (h : t.Houses p d) (hlog : t.isFile p.log = true) :
    ∃ u, (t.tidy p).openLog p false = .ok u ∧ u.Houses p d ∧ u.isFile p.log = true ∧
      t.AddsNoFile u := by
  have hp := h.isSolid.ne_nil
  have htidied : (t.tidy p).isFile p.log = true := by
    obtain ⟨content, hcontent⟩ := isFile_eq_true_iff.1 hlog
    exact isFile_eq_true_iff.2 ⟨content, h.isSolid.get?_tidy_log.trans hcontent⟩
  have hwith : (t.tidy p).AddsNoFile ((t.tidy p).withLog p) := by
    unfold FileTree.withLog
    split
    · exact fun _ hq => hq
    · exact addsNoFile_put htidied
  refine ⟨(t.tidy p).withLog p, ?_, h.tidy.withLog, ?_, (t.addsNoFile_tidy p).trans hwith⟩
  · obtain ⟨content, hcontent⟩ := isFile_eq_true_iff.1 htidied
    rw [openLog_eq, if_neg (by simp [isDirectory, hcontent])]
    rfl
  · rw [isFile, get?_withLog_log hp]

end FileTree

/-! ## Channels that can be in a log -/

namespace Channel

variable {c c' : Channel} {t t' : FileTree} {others : List Channel} {p : Path} {d : Database}
  {n : Nat}

/-- Whether a channel to the file at a place can be in its log. -/
def canLog (c : Channel) (p : Path) : Bool := c.keepsLog && !(c.locksBeside && !p.lock.fits)

/-- A channel of one handle's own to the file at a place as it is now, which is in the log of the file
or can be. -/
structure Joins (p : Path) (n : Nat) (c : Channel) : Prop where
  number_eq : c.number = n
  members_eq : c.members = [n]
  place_eq : c.place = .file p
  thawed : c.frozen = none
  logs : c.logging = true ∨ c.canLog p = true

/-- A channel that joins goes on joining when it is in the log. -/
theorem Joins.logged (hc : c.Joins p n) (journal : Journal) :
    ({ c with logging := true, journal } : Channel).Joins p n :=
  ⟨hc.number_eq, hc.members_eq, hc.place_eq, hc.thawed, .inl rfl⟩

/-- A channel that can be in the log of a database with data comes to be in it when the file is looked
up, if it need not make an index. -/
theorem Joins.refresh (hc : c.Joins p n) (ht : t.Houses p d) (hlog : t.isFile p.log = true)
    (hindex : c.logging = false → c.indexes others = false) :
    ∃ journal t', c.refresh t others p = .ok ({ c with logging := true, journal }, t') ∧
      (c.logging = false → journal = .writeAhead) ∧ t'.Houses p d ∧ t'.isFile p.log = true ∧
        t.AddsNoFile t' := by
  cases hl : c.logging with
  | true =>
    refine ⟨c.journal, t, ?_, fun h => (nomatch h), ht, hlog, fun _ hq => hq⟩
    rw [refresh_of_logging ht hc.thawed hl, ← hl]
  | false =>
    have hcan : c.canLog p = true := by
      rcases hc.logs with hlogging | hcan
      · rw [hl] at hlogging
        cases hlogging
      · exact hcan
    simp only [canLog, Bool.and_eq_true, Bool.not_eq_true'] at hcan
    obtain ⟨t', hopen, hafter⟩ := ht.openLog hlog
    rw [← hindex hl] at hopen
    exact ⟨_, t', refresh_of_houses ht hc.thawed hl hcan.2 hcan.1 t' hopen, fun _ => rfl, hafter⟩

end Channel

/-! ## Storage in use -/

namespace Storage

variable {s s' : Storage} {p : Path} {d d' : Database} {n m : Nat} {c : Channel} {target : Target}
  {readOnly passes : Bool} {tree : FileTree}

/-- Storage in which the database at a place has some data by way of a log, and in which somebody is
in the log. -/
structure InUse (p : Path) (d : Database) (s : Storage) : Prop where
  data : s.tree.Houses p d
  log : s.tree.isFile p.log = true
  user : ∃ n c, s.channel? n = some c ∧ c.Joins p n ∧ c.logging = true

/-- Storage in which the handle of a number has a channel of its own to the file at a place, which is
in the log or can be, or would open such a channel for its target. -/
inductive Joins (s : Storage) (p : Path) (n : Nat) (target : Target) (readOnly : Bool) : Prop where
  | connected {c : Channel} (hc : s.channel? n = some c) (hjoins : c.Joins p n)
      (hread : c.readOnly = readOnly)
  | apart {names : List FileName} (hnone : s.channel? n = none)
      (hmedium : target.medium = .file names) (hlocate : s.tree.locate names = some p)
      (hshort : p.isTooLong = false) (hmode : target.modeOf = none)
      (hshared : target.shared = false) (himmutable : target.immutable = false)
      (hcan : (Channel.new n (.file p) target).canLog p = true)
      (hread : (Channel.new n (.file p) target).readOnly = readOnly)

/-! ## Entering -/

/-- A channel that is new in the log of a database in use makes no index, since somebody is there. -/
theorem InUse.indexes (hs : s.InUse p d) (hplace : c.place = .file p)
    (hc : ∀ e, s.channel? n = some e → e.logging = false) : c.indexes (s.others n) = false := by
  obtain ⟨m, e, he, hjoins, hlogging⟩ := hs.user
  have hne : m ≠ n := by
    rintro rfl
    rw [hc e he] at hlogging
    cases hlogging
  have hother : e ∈ s.others n :=
    List.mem_filter.2 ⟨List.mem_of_find?_eq_some he, by simpa [hjoins.number_eq] using hne⟩
  by_contra hindexes
  obtain ⟨-, hothers⟩ := Channel.indexes_eq_true_iff.1 (by simpa using hindexes)
  obtain ⟨-, hapart⟩ := hothers e hother (hjoins.place_eq.trans hplace.symm)
  rw [hlogging] at hapart
  cases hapart

/-- A handle that joins enters the database by way of its log, and nothing else has changed but that
it has its channel and that the files are looked after. -/
theorem InUse.enter (hs : s.InUse p d) (hn : s.Joins p n target readOnly) :
    ∃ c tree, s.enter n target passes = (.ok c, { s with tree }.noteTables c) ∧ c.Joins p n ∧
      c.logging = true ∧ c.readOnly = readOnly ∧ tree.Houses p d ∧ tree.isFile p.log = true ∧
      s.tree.AddsNoFile tree := by
  rw [enter_eq]
  cases hn with
  | @connected c hchannel hjoins hread =>
    obtain ⟨journal, tree, hrefresh, -, hafter⟩ := hjoins.refresh hs.data hs.log
      fun hl => hs.indexes hjoins.place_eq fun e he => Option.some.inj (hchannel.symm.trans he) ▸ hl
    rw [connect_of_channel hchannel]
    dsimp only
    rw [ready_file hjoins.place_eq, hjoins.number_eq, hrefresh]
    exact ⟨_, tree, rfl, hjoins.logged journal, rfl, hread, hafter⟩
  | @apart names hnone hmedium hlocate hshort hmode hshared himmutable hcan hread =>
    let new : Channel := Channel.new n (.file p) target
    have hjoins : new.Joins p n :=
      ⟨number_new .., members_new .., place_new .., frozen_new .., .inr hcan⟩
    obtain ⟨journal, tree, hrefresh, hjournal, hafter⟩ := hjoins.refresh hs.data hs.log
      fun _ => hs.indexes (n := n) hjoins.place_eq fun e he => by rw [hnone] at he; cases he
    obtain rfl := hjournal (logging_new ..)
    let logged : Channel := { new with logging := true, journal := .writeAhead }
    have hlogged : logged.Joins p n := hjoins.logged .writeAhead
    have hplace : s.placeOf n target = .ok (.file p) := by
      simp only [placeOf, hmedium, hlocate]
    have hsharing : s.sharing? target (.file p) = none := by
      simp only [sharing?, hshared, Bool.false_eq_true, if_false]
    have hopen : s.tree.openFile p target = .ok s.tree := by
      obtain ⟨content, hfile, -⟩ := hs.data.isSolid
      simp [FileTree.openFile, hshort, hmode, hfile]
    have hsettle : new.settle s.tree (s.others n) p target.immutable (!passes) =
        .ok (logged, tree) := by
      simp only [Channel.settle, himmutable, Bool.false_eq_true, if_false, hrefresh, bind,
        Except.bind, pure, Except.pure]
      cases passes <;> rfl
    have hconnect : s.connect n target passes = (.ok logged, { s with tree }.noteTables logged) := by
      simp only [connect, hnone, hplace, hsharing, openChannel, hopen]
      rw [hsettle]
    -- Looking the file up once more finds the channel in the log.
    rw [hconnect]
    dsimp only
    rw [ready_file hlogged.place_eq, noteTables_tree,
      Channel.refresh_of_logging hafter.1 hlogged.thawed rfl]
    refine ⟨logged, tree, ?_, hlogged, rfl, hread, hafter⟩
    exact congrArg (Prod.mk _) (noteTables_noteTables { s with tree } logged logged.known)

/-- The channel of another handle stays when a handle has come to be in the log. -/
theorem channel?_entered (hc : c.Joins p n) (hne : m ≠ n)
    (hm : ∀ e, s.channel? m = some e → e.number = m) :
    ({ s with tree }.noteTables c).channel? m = s.channel? m := by
  have hmember : c.members.contains m = false := by simpa [hc.members_eq] using hne
  simp only [channel?, noteTables, putChannel, others, List.find?_cons, hmember, List.find?_filter,
    hc.number_eq]
  cases hfound : s.channels.find? fun e => e.members.contains m with
  | none =>
    rw [List.find?_eq_none] at hfound ⊢
    intro e he
    have hfree : m ∉ e.members := by simpa using hfound e he
    simp [hfree]
  | some e =>
    -- Those before the channel do not have the handle, whatever their numbers.
    have hnumber : e.number = m := hm e hfound
    obtain ⟨he, before, after, heq, hbefore⟩ := List.find?_eq_some_iff_append.1 hfound
    refine List.find?_eq_some_iff_append.2 ⟨?_, before, after, heq, fun e' he' => ?_⟩
    · simpa [hnumber, hne] using he
    · have hfree : m ∉ e'.members := by simpa using hbefore e' he'
      simp [hfree]

/-- A channel that a handle has and joins by is its own. -/
theorem Joins.number_eq {readOnly : Bool} (hm : s.Joins p m target readOnly) :
    ∀ e, s.channel? m = some e → e.number = m := by
  intro e he
  cases hm with
  | connected hchannel hjoins =>
    obtain rfl := Option.some.inj (hchannel.symm.trans he)
    exact hjoins.number_eq
  | apart hnone =>
    rw [hnone] at he
    cases he

/-- Whether a handle that joins may only read does not depend on anything but its channel. -/
theorem Joins.readOnly_eq {readOnly' : Bool} (hm : s.Joins p m target readOnly)
    (hm' : s'.Joins p m target readOnly') (hsame : s'.channel? m = s.channel? m) :
    readOnly' = readOnly := by
  cases hm with
  | connected hchannel _ hread =>
    cases hm' with
    | connected hchannel' _ hread' =>
      obtain rfl := Option.some.inj (hchannel'.symm.trans (hsame.trans hchannel))
      exact hread'.symm.trans hread
    | apart hnone =>
      rw [hsame, hchannel] at hnone
      cases hnone
  | apart hnone _ _ _ _ _ _ _ hread =>
    cases hm' with
    | connected hchannel =>
      rw [hsame, hnone] at hchannel
      cases hchannel
    | apart _ hmedium' hlocate' _ _ _ _ _ hread' => exact hread'.symm.trans hread

/-- Whoever joins goes on joining when a handle has come to be in the log. -/
theorem Joins.entered {readOnly' : Bool} {target' : Target} (hm : s.Joins p m target' readOnly')
    (hc : c.Joins p n) (hlogging : c.logging = true) (hfiles : s.tree.AddsNoFile tree)
    (hread : m = n → c.readOnly = readOnly') :
    ({ s with tree }.noteTables c).Joins p m target' readOnly' := by
  by_cases hne : m = n
  · subst hne
    have hmember : c.members.contains m = true := by simp [hc.members_eq]
    exact .connected (channel?_noteTables hmember)
      ⟨hc.number_eq, hc.members_eq, hc.place_eq, hc.thawed, .inl hlogging⟩ (hread rfl)
  have hsame : ({ s with tree }.noteTables c).channel? m = s.channel? m :=
    channel?_entered hc hne hm.number_eq
  cases hm with
  | connected hchannel hjoins hread' => exact .connected (hsame.trans hchannel) hjoins hread'
  | apart hnone hmedium hlocate hshort hmode hshared himmutable hcan hread' =>
    exact .apart (hsame.trans hnone) hmedium (hfiles.locate hlocate) hshort hmode hshared himmutable
      hcan hread'

/-! ## Who joins -/

end Storage

end DeliveryStore
