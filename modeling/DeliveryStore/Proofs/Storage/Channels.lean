import DeliveryStore.Proofs.Storage.Files

/-!
# Laws of channels

What a channel does when it looks up its file. `refresh_eq` lays the steps of `Channel.refresh` out as
one case analysis, and everything else about it is derived from that:

* `refresh_cases` — the three ways in which a look-up succeeds;
* `refresh_known` — the tables that were seen before matter only if the database was lost;
* `refresh_again` — after a look-up that succeeded, looking up again changes nothing;
* `refresh_overwrite`, `refresh_log` — nor does it after data have been written.
-/

namespace DeliveryStore

namespace FileTree

variable {t t' : FileTree} {p q : Path}

/-- Whether the database at a place is written ahead of, as its log or the file itself tells. -/
def writesAhead (t : FileTree) (p : Path) : Except StorageFault Bool :=
  if (t.pending? p).isSome then .ok true else (t.database? p).map (·.1)

/-! ## Logs -/

/-- What opening a log comes to: a log is there or is put there, and perhaps an index beside it. -/
theorem openLog_cases {indexed : Bool} (h : t.openLog p indexed = .ok t') :
    ∃ u : FileTree,
      (u = t ∧ (∃ pending, t.get? p.log = some (.file (.log pending))) ∨
        u = t.put p.log (.file (.log none)) ∧ t.pending? p = none ∧
          t.get? p.log ≠ some .directory) ∧
      (t' = u ∨ t' = u.put p.index (.file .index)) := by
  have hindex : ∀ u : FileTree,
      (if indexed = true then
          if u.isDirectory p.index = true then (.error .cannotOpen : Except StorageFault FileTree)
          else .ok (u.put p.index (.file .index))
        else .ok u) = .ok t' → t' = u ∨ t' = u.put p.index (.file .index) := by
    intro u hu
    split at hu
    · split at hu
      · cases hu
      · exact .inr (Except.ok.inj hu).symm
    · exact .inl (Except.ok.inj hu).symm
  unfold openLog at h
  cases hlog : t.get? p.log with
  | none =>
    simp only [hlog] at h
    exact ⟨_, .inr ⟨rfl, by simp [pending?, hlog], by simp⟩, hindex _ h⟩
  | some n =>
    cases n with
    | directory =>
      simp only [hlog] at h
      cases h
    | file content =>
      cases content with
      | log pending =>
        simp only [hlog] at h
        exact ⟨t, .inl ⟨rfl, pending, rfl⟩, hindex _ h⟩
      | text _ | database _ _ | index =>
        simp only [hlog] at h
        exact ⟨_, .inr ⟨rfl, by simp [pending?, hlog], by simp⟩, hindex _ h⟩

/-- Opening a log touches nothing but the log and its index. -/
theorem get?_openLog {indexed : Bool} (h : t.openLog p indexed = .ok t') (hl : q ≠ p.log)
    (hi : q ≠ p.index) : t'.get? q = t.get? q := by
  obtain ⟨u, ⟨rfl, -⟩ | ⟨rfl, -⟩, rfl | rfl⟩ := openLog_cases h
  · rfl
  · exact get?_put_of_ne hi
  · exact get?_put_of_ne hl
  · rw [get?_put_of_ne hi, get?_put_of_ne hl]

/-- A log can be opened only where no directory stands in its place. -/
theorem get?_log_of_openLog {indexed : Bool} (h : t.openLog p indexed = .ok t') :
    t.get? p.log ≠ some .directory := by
  obtain ⟨-, ⟨-, pending, hlog⟩ | ⟨-, -, hlog⟩, -⟩ := openLog_cases h
  · simp [hlog]
  · exact hlog

/-- A log fails to open in one way only. -/
theorem openLog_error {indexed : Bool} {fault : StorageFault}
    (h : t.openLog p indexed = .error fault) : fault = .cannotOpen := by
  unfold openLog at h
  simp only [bind, Except.bind, pure, Except.pure, throw, throwThe, MonadExceptOf.throw] at h
  grind

/-! ## Opening a file -/

/-- A file that is opened is there, or is made with nothing in it. -/
theorem openFile_cases {target : Target} (h : t.openFile p target = .ok t') :
    t' = t ∨ (t.get? p = none ∧ target.access = .create ∧ t' = t.put p (.file (.text ""))) := by
  unfold openFile at h
  split at h
  · cases h
  split at h
  · cases h
  split at h
  · split at h
    · cases h
      exact .inl rfl
    · cases h
  · cases h
    exact .inl rfl
  · rename_i hnone
    split at h
    · rename_i hmade
      cases h
      exact .inr ⟨hnone, by simp_all, rfl⟩
    · cases h

/-- A file that was opened can be opened again. -/
theorem openFile_again {target : Target} (h : t.openFile p target = .ok t') :
    t'.openFile p target = .ok t' := by
  rcases openFile_cases h with rfl | ⟨hnone, -, rfl⟩
  · exact h
  have hp : p.isOuter = false := isOuter_of_get? (t := t) (by simp [hnone])
  unfold openFile at h ⊢
  split at h
  · cases h
  rename_i hshort
  split at h
  · cases h
  rename_i hmode
  rw [if_neg hshort, if_neg ?_, get?_put_self hp]
  cases hm : target.modeOf with
  | none => simp
  | some path =>
    rw [hm] at hmode
    have hfound : t.look path ≠ none := by simpa using hmode
    simpa using look_put hfound hnone

/-! ## Overwriting a database -/

variable {ahead : Bool} {data : Database}

theorem get?_overwrite_self (hp : p.isOuter = false) :
    (t.overwrite p ahead data).get? p = some (.file (.database ahead data)) := by
  have hne := (Path.journal_ne (Path.ne_nil_of_isOuter hp)).symm
  rw [overwrite, get?_remove_of_ne hne, get?_put_self hp]

theorem get?_overwrite_journal (hp : p.isOuter = false) :
    (t.overwrite p ahead data).get? p.journal = none := by
  rw [overwrite, get?_remove (Path.isOuter_journal (Path.ne_nil_of_isOuter hp)), if_pos rfl]

theorem get?_overwrite_of_ne (hq : q ≠ p) (hj : q ≠ p.journal) :
    (t.overwrite p ahead data).get? q = t.get? q := by
  rw [overwrite, get?_remove_of_ne hj, get?_put_of_ne hq]

/-- Beside a database that was written in one go there is nothing to tidy up. -/
theorem tidy_overwrite (hp : p.isOuter = false) :
    (t.overwrite p ahead data).tidy p = t.overwrite p ahead data := by
  have hblank : (t.overwrite p ahead data).isBlank p = false := by
    simp only [isBlank, get?_overwrite_self hp, Content.isBlank]
  have hjournal : (t.overwrite p ahead data).dropsJournal p = false := by
    simp only [dropsJournal, get?_overwrite_journal hp]
  rw [tidy_eq (Path.ne_nil_of_isOuter hp), hjournal, dropsLog_of_isBlank hblank]
  rfl

/-! ## Writing into a log -/

/-- What is written into a log is put there; if the log is outgrown, it is put into the database as
well, where there is a file. -/
theorem writeLog_cases (t : FileTree) (p : Path) (data : Database) :
    t.writeLog p data = t.put p.log (.file (.log (some data))) ∨
      t.isFile p = true ∧
        t.writeLog p data =
          (t.put p.log (.file (.log (some data)))).put p (.file (.database true data)) := by
  unfold writeLog
  cases houtgrown : t.outgrowsLog p data with
  | false => exact .inl rfl
  | true =>
    refine .inr ⟨?_, rfl⟩
    -- Only a database can be outgrown, and a database is in a file.
    unfold outgrowsLog database? at houtgrown
    cases hp : t.get? p with
    | none => simp [hp] at houtgrown
    | some node =>
      cases node with
      | directory => simp [hp] at houtgrown
      | file c => simp only [isFile, hp]

theorem get?_writeLog_of_ne (hlog : q ≠ p.log) (hq : q ≠ p) :
    (t.writeLog p data).get? q = t.get? q := by
  rcases t.writeLog_cases p data with h | ⟨-, h⟩
  · rw [h, get?_put_of_ne hlog]
  · rw [h, get?_put_of_ne hq, get?_put_of_ne hlog]

theorem get?_writeLog_log (hp : p ≠ []) :
    (t.writeLog p data).get? p.log = some (.file (.log (some data))) := by
  rcases t.writeLog_cases p data with h | ⟨-, h⟩
  · rw [h, get?_put_self (Path.isOuter_log hp)]
  · rw [h, get?_put_of_ne (Path.log_ne hp), get?_put_self (Path.isOuter_log hp)]

/-- Where a file says that nothing is written ahead, there is such a file. -/
theorem isOuter_of_writesAhead (h : t.writesAhead p = .ok false) :
    p.isOuter = false ∧ t.pending? p = none := by
  unfold writesAhead at h
  split at h
  · cases h
  rename_i hpending
  refine ⟨isOuter_of_get? (t := t) ?_, by simpa using hpending⟩
  intro hdir
  simp only [database?, hdir, Except.map] at h
  cases h

/-! ## Lost databases -/

/-- A database is lost if a text has come in its place and nothing is pending. -/
theorem isLost_eq_true_iff {known : List Store} :
    t.isLost p known = true ↔
      t.pending? p = none ∧ (∃ s, t.get? p = some (.file (.text s))) ∧
        (known ≠ [] ∨ t.isBlank p = true) := by
  unfold isLost
  split
  · rename_i s hpending htext
    simp [hpending, htext]
  · rename_i hother
    constructor
    · intro h
      cases h
    · rintro ⟨hpending, ⟨s, hs⟩, -⟩
      exact absurd hs (hother s hpending)

/-- Tables that are seen in a database as it stands do not make it a lost one. -/
theorem isLost_stores (t : FileTree) (p : Path) :
    t.isLost p (t.dataAt p).stores = t.isLost p [] := by
  rw [Bool.eq_iff_iff, isLost_eq_true_iff, isLost_eq_true_iff]
  constructor
  · rintro ⟨hpending, ⟨s, hs⟩, hknown⟩
    have hstores : (t.dataAt p).stores = [] := by
      rw [dataAt_of_text hs hpending]
      rfl
    exact ⟨hpending, ⟨s, hs⟩, hstores ▸ hknown⟩
  · rintro ⟨hpending, hs, hknown⟩
    exact ⟨hpending, hs, .inr (by simpa using hknown)⟩

theorem isLost_nil_of_isLost {known : List Store} (h : t.isLost p known = false) :
    t.isLost p [] = false := by
  by_contra hlost
  obtain ⟨hpending, hs, hknown⟩ := isLost_eq_true_iff.1 (by simpa using hlost)
  have : t.isLost p known = true :=
    isLost_eq_true_iff.2 ⟨hpending, hs, .inr (by simpa using hknown)⟩
  rw [h] at this
  cases this

/-! ## Logs and blank databases -/

theorem writesAhead_nil (t : FileTree) : t.writesAhead [] = .error .unreadable := by
  simp [writesAhead, pending?_nil, database?, get?, Path.isOuter, Except.map]

/-- What is blank says nothing of a log. -/
theorem database?_of_isBlank {ahead : Bool} {data : Database} (hb : t.isBlank p = true)
    (h : t.database? p = .ok (ahead, data)) : ahead = false := by
  simp only [isBlank, database?] at hb h
  split at hb
  · rename_i c hc
    simp only [hc] at h
    cases c with
    | text s =>
      simp only [Content.isBlank] at hb
      simp only [Content.database?] at h
      split at h
      · have := (Prod.mk.inj (Except.ok.inj h)).1
        rw [← this, Image.keepsLog_of_isBlank hb]
      · cases h
    | database _ _ | index => cases hb
    | log pending =>
      cases pending with
      | none => exact (Prod.mk.inj (Except.ok.inj h)).1.symm
      | some _ => cases hb
  · cases hb

/-- A log in which something is pending is there, and is not empty. -/
theorem hasLog_of_pending? {data : Database} (h : t.pending? p = some data) :
    t.hasLog p = true := by
  unfold pending? at h
  split at h
  · rename_i pending hlog
    subst h
    simp [hasLog, hlog, Content.isEmpty]
  · cases h

/-- Where a log is opened the database is more than blank: a blank one says nothing of a log, and
tidying up has taken away what was beside it. -/
theorem isBlank_of_openLog {ahead indexed : Bool} (ha : (t.tidy p).writesAhead p = .ok ahead)
    (hl : (ahead || (t.tidy p).hasLog p) = true) (h : (t.tidy p).openLog p indexed = .ok t') :
    (t.tidy p).isBlank p = false := by
  by_contra hb
  have hb' : (t.tidy p).isBlank p = true := by simpa using hb
  have hp : p ≠ [] := by
    rintro rfl
    simp only [writesAhead_nil] at ha
    cases ha
  have hlog : (t.tidy p).hasLog p = false := by
    have := hasLog_tidy_of_isBlank (t := t.tidy p) hp hb' (get?_log_of_openLog h)
    rwa [tidy_tidy] at this
  have hpending : (t.tidy p).pending? p = none := by
    cases hdata : (t.tidy p).pending? p with
    | none => rfl
    | some data => cases hlog.symm.trans (hasLog_of_pending? hdata)
  have hahead : ahead = false := by
    simp only [writesAhead, hpending, Option.isSome_none, Bool.false_eq_true, if_false] at ha
    cases hd : (t.tidy p).database? p with
    | error fault =>
      rw [hd] at ha
      cases ha
    | ok found =>
      rw [hd] at ha
      have : found.1 = false := database?_of_isBlank hb' hd
      rw [← this]
      exact (Except.ok.inj ha).symm
  simp [hahead, hlog] at hl

end FileTree

namespace Channel

variable {c c' : Channel} {t t' : FileTree} {others : List Channel} {p : Path}

/-- Whether a channel that enters a log makes the index of it. -/
def indexes (c : Channel) (others : List Channel) : Bool :=
  !(c :: others.filter (·.place == c.place)).any (·.system == .exclusive) &&
    !(others.filter (·.place == c.place)).any (·.logging)

/-- The steps of a look-up, one after another. -/
theorem refresh_eq (c : Channel) (t : FileTree) (others : List Channel) (p : Path) :
    c.refresh t others p =
      if c.frozen.isSome then .ok (c, t)
      else if c.logging then
        if t.isLost p c.known then .error .malformed else .ok (c, t)
      else if c.locksBeside && !p.lock.fits then .error .unreadable
      else if (t.tidy p).keepsLog p && !c.keepsLog then .error .cannotOpen
      else
        match (t.tidy p).writesAhead p with
        | .error fault => .error fault
        | .ok ahead =>
          if ahead || (t.tidy p).hasLog p then
            if c.keepsLog then
              match (t.tidy p).openLog p (c.indexes others) with
              | .error fault => .error fault
              | .ok t' => .ok ({ c with logging := true, journal := .writeAhead }, t')
            else .error .cannotOpen
          else .ok ({ c with journal := .rollback }, t.tidy p) := by
  unfold refresh FileTree.writesAhead indexes
  simp only [bind, Except.bind, pure, Except.pure, throw, throwThe, MonadExceptOf.throw]
  repeat' split
  all_goals simp_all

/-- The ways in which a look-up succeeds: nothing changes, the log is opened, or the file is found to
keep none. -/
theorem refresh_cases (h : c.refresh t others p = .ok (c', t')) :
    (c' = c ∧ t' = t ∧
      (c.frozen.isSome = true ∨ c.logging = true ∧ t.isLost p c.known = false)) ∨
    (c' = { c with logging := true, journal := .writeAhead } ∧ c.frozen = none ∧
      (t.tidy p).openLog p (c.indexes others) = .ok t' ∧ (t.tidy p).isBlank p = false) ∨
    (c' = { c with journal := .rollback } ∧ t' = t.tidy p ∧ c.frozen = none ∧ c.logging = false ∧
      (c.locksBeside && !p.lock.fits) = false ∧ (t'.keepsLog p && !c.keepsLog) = false ∧
      t'.writesAhead p = .ok false ∧ t'.hasLog p = false) := by
  rw [refresh_eq] at h
  split at h
  · rename_i hf
    cases h
    exact .inl ⟨rfl, rfl, .inl hf⟩
  rename_i hf
  have hfrozen : c.frozen = none := by simpa using hf
  split at h
  · rename_i hlog
    split at h
    · cases h
    rename_i hlost
    cases h
    exact .inl ⟨rfl, rfl, .inr ⟨hlog, by simpa using hlost⟩⟩
  rename_i hlog
  split at h
  · cases h
  rename_i hlock
  split at h
  · cases h
  rename_i hkeeps
  split at h
  · cases h
  rename_i ahead hahead
  split at h
  · rename_i hopen
    split at h
    · split at h
      · cases h
      rename_i t'' hlogged
      cases h
      exact .inr (.inl ⟨rfl, hfrozen, hlogged, FileTree.isBlank_of_openLog hahead hopen hlogged⟩)
    · cases h
  · rename_i hopen
    cases h
    rw [Bool.not_eq_true, Bool.or_eq_false_iff] at hopen
    refine .inr (.inr ⟨rfl, rfl, hfrozen, by simpa using hlog, by simpa using hlock,
      by simpa using hkeeps, ?_, hopen.2⟩)
    rw [hahead, hopen.1]

/-- A look-up leaves a channel what it is: it settles only how its changes are secured. -/
theorem refresh_frame (h : c.refresh t others p = .ok (c', t')) :
    c' = { c with logging := c'.logging, journal := c'.journal } := by
  obtain ⟨rfl, -⟩ | ⟨rfl, -⟩ | ⟨rfl, -⟩ := refresh_cases h <;> rfl

/-- After a look-up that succeeded, looking up again changes nothing, as long as the tables seen in
between do not make the database a lost one. -/
theorem refresh_again (h : c.refresh t others p = .ok (c', t')) {known : List Store}
    (hk : c'.frozen = none → t'.isLost p known = t'.isLost p []) (others' : List Channel) :
    { c' with known }.refresh t' others' p = .ok ({ c' with known }, t') := by
  obtain ⟨rfl, rfl, hf | ⟨hlog, hlost⟩⟩ | ⟨rfl, hf, hopen, hblank⟩ |
    ⟨rfl, rfl, hf, hlog, hlock, hkeeps, hahead, hno⟩ := refresh_cases h
  · rw [refresh_eq, if_pos hf]
  · by_cases hf : c'.frozen.isSome = true
    · rw [refresh_eq, if_pos hf]
    · have hlost' : t'.isLost p known = false := by
        rw [hk (by simpa using hf), FileTree.isLost_nil_of_isLost hlost]
      rw [refresh_eq, if_neg hf, if_pos hlog, if_neg (by simp [hlost'])]
  · -- The database is more than blank, so no text has come in its place.
    have hlost : t'.isLost p known = false := by
      rw [hk hf]
      by_contra hlost
      obtain ⟨-, ⟨s, hs⟩, hb⟩ := FileTree.isLost_eq_true_iff.1 (by simpa using hlost)
      have hp : p ≠ [] := FileTree.ne_nil_of_file hs
      have hblank' : t'.isBlank p = false :=
        (FileTree.isBlank_congr (FileTree.get?_openLog hopen (Path.log_ne hp).symm
          (Path.index_ne hp).symm)).trans hblank
      simp [hblank'] at hb
    rw [refresh_eq]
    simp [hf, hlost]
  · rw [refresh_eq]
    simp only [hf, hlog, hlock, FileTree.tidy_tidy, hkeeps, hahead, hno]
    rfl

/-- The tables that were seen before matter only if the database was lost. -/
theorem refresh_known (c : Channel) {known : List Store}
    (hk : c.frozen = none → c.logging = true → t.isLost p known = t.isLost p c.known) :
    { c with known }.refresh t others p =
      (c.refresh t others p).map fun r => ({ r.1 with known }, r.2) := by
  rw [refresh_eq, refresh_eq]
  -- Both sides take the same steps: only the test for a lost database looks at the tables.
  by_cases hf : c.frozen.isSome = true
  · rw [if_pos hf, if_pos hf]
    rfl
  rw [if_neg hf, if_neg hf]
  by_cases hlog : c.logging = true
  · rw [if_pos hlog, if_pos hlog, hk (by simpa using hf) hlog]
    dsimp only
    split <;> rfl
  rw [if_neg hlog, if_neg hlog]
  have hindexes : ({ c with known } : Channel).indexes others = c.indexes others := rfl
  rw [hindexes]
  dsimp only
  by_cases hlock : (c.locksBeside && !p.lock.fits) = true
  · rw [if_pos hlock, if_pos hlock]
    rfl
  rw [if_neg hlock, if_neg hlock]
  by_cases hkeeps : ((t.tidy p).keepsLog p && !c.keepsLog) = true
  · rw [if_pos hkeeps, if_pos hkeeps]
    rfl
  rw [if_neg hkeeps, if_neg hkeeps]
  cases (t.tidy p).writesAhead p with
  | error fault => rfl
  | ok ahead =>
    dsimp only
    by_cases hopen : (ahead || (t.tidy p).hasLog p) = true
    · rw [if_pos hopen, if_pos hopen]
      by_cases hkeep : c.keepsLog = true
      · rw [if_pos hkeep, if_pos hkeep]
        cases (t.tidy p).openLog p (c.indexes others) <;> rfl
      · rw [if_neg hkeep, if_neg hkeep]
        rfl
    · rw [if_neg hopen, if_neg hopen]
      rfl

/-- Data written by way of a journal leave a channel where it was. -/
theorem refresh_overwrite (h : c.refresh t others p = .ok (c, t)) (hf : c.frozen = none)
    (hl : c.logging = false) (data : Database) (known : List Store) (others' : List Channel) :
    p.isOuter = false ∧ t.pending? p = none ∧
      { c with known }.refresh (t.overwrite p false data) others' p =
        .ok ({ c with known }, t.overwrite p false data) := by
  -- A channel that is neither frozen nor logging has found that its file keeps no log.
  rcases refresh_cases h with ⟨-, -, hfrozen | ⟨hlog, -⟩⟩ | ⟨hc, -⟩ |
    ⟨hc, ht, -, -, hlock, -, hahead, hno⟩
  · simp [hf] at hfrozen
  · rw [hl] at hlog
    cases hlog
  · have hlog : c.logging = true := by rw [hc]
    rw [hl] at hlog
    cases hlog
  · obtain ⟨hp, hpending⟩ := FileTree.isOuter_of_writesAhead hahead
    have hne := Path.ne_nil_of_isOuter hp
    refine ⟨hp, hpending, ?_⟩
    have hget : (t.overwrite p false data).get? p.log = t.get? p.log :=
      FileTree.get?_overwrite_of_ne (Path.log_ne hne) (Path.log_ne_journal hne hne)
    have hkeeps : (t.overwrite p false data).keepsLog p = false := by
      simp only [FileTree.keepsLog, FileTree.get?_overwrite_self hp, Content.keepsLog]
    have hahead' : (t.overwrite p false data).writesAhead p = .ok false := by
      simp only [FileTree.writesAhead, FileTree.pending?_congr hget, hpending, FileTree.database?,
        FileTree.get?_overwrite_self hp, Content.database?]
      rfl
    have hno' : (t.overwrite p false data).hasLog p = false := by
      rw [FileTree.hasLog_congr hget, hno]
    have hjournal : c.journal = .rollback := by rw [hc]
    rw [refresh_eq, if_neg (by simp [hf]), if_neg (by simp [hl]), if_neg (by simp [hlock])]
    simp only [FileTree.tidy_overwrite hp, hkeeps, hahead', hno']
    simp [← hjournal]

/-- Data pending in the log leave a channel where it was. -/
theorem refresh_log (hf : c.frozen = none) (hl : c.logging = true) {data : Database}
    (hpending : t.pending? p = some data) (known : List Store) (others : List Channel) :
    { c with known }.refresh t others p = .ok ({ c with known }, t) := by
  have hlost : t.isLost p known = false := by
    simp only [FileTree.isLost, hpending]
  rw [refresh_eq, if_neg (by simp [hf]), if_pos hl]
  simp only [hlost]
  rfl

end Channel

end DeliveryStore
