import DeliveryStore.Proofs.Storage.Connections
import DeliveryStore.Proofs.Storage.Ways

/-!
# Databases and their logs

What is kept of a file tree while databases are opened, written and closed: directories stay, and
so do the ways that lead through them, and the data of a database stay, whether they are pending in
its log or in the file. Main statements:

* `openLog_eq` — when a log can be opened, and what is there then;
* `KeepsDirectories` — no directory goes or is covered;
* `Paved` — every place on the way of names is a directory, so that none of them has to be made;
* `Houses` — a database has some data by way of a log, and keeps them when the log is opened, closed
  or looked at.
-/

namespace DeliveryStore

namespace FileTree

variable {t t' u : FileTree} {p q : Path} {d : Database} {names : List FileName}

/-! ## Opening a log -/

/-- The tree with a log beside the database at a place, the one that was there or an empty one. -/
def withLog (t : FileTree) (p : Path) : FileTree :=
  match t.get? p.log with
  | some (.file (.log _)) => t
  | _ => t.put p.log (.file (.log none))

/-- A log is opened unless a directory is in its place or in that of the index. -/
theorem openLog_eq (t : FileTree) (p : Path) (indexed : Bool) :
    t.openLog p indexed =
      if t.isDirectory p.log then .error .cannotOpen
      else if indexed && (t.withLog p).isDirectory p.index then .error .cannotOpen
      else .ok (if indexed then (t.withLog p).put p.index (.file .index) else t.withLog p) := by
  unfold openLog withLog isDirectory
  simp only [bind, Except.bind, pure, Except.pure, throw, throwThe, MonadExceptOf.throw]
  cases t.get? p.log with
  | none => cases indexed <;> grind
  | some n =>
    cases n with
    | directory => rfl
    | file c => cases c <;> cases indexed <;> grind

theorem get?_withLog_of_ne (h : q ≠ p.log) : (t.withLog p).get? q = t.get? q := by
  unfold withLog
  split
  · rfl
  · exact get?_put_of_ne h

/-- The log that is there then has pending what was pending before. -/
theorem get?_withLog_log (hp : p ≠ []) :
    (t.withLog p).get? p.log = some (.file (.log (t.pending? p))) := by
  unfold withLog pending?
  cases hlog : t.get? p.log with
  | none => exact get?_put_self (Path.isOuter_log hp)
  | some node =>
    cases node with
    | directory => exact get?_put_self (Path.isOuter_log hp)
    | file content =>
      cases content with
      | log pending => exact hlog
      | _ => exact get?_put_self (Path.isOuter_log hp)

theorem openLog_ok {indexed : Bool} (h : t.openLog p indexed = .ok t') :
    (indexed = true → (t.withLog p).get? p.index ≠ some .directory) ∧
      t' = if indexed then (t.withLog p).put p.index (.file .index) else t.withLog p := by
  rw [openLog_eq] at h
  split at h
  · cases h
  split at h
  · cases h
  rename_i hindex
  cases h
  refine ⟨?_, rfl⟩
  rintro rfl
  simpa [isDirectory] using hindex

/-- The log that has been opened has pending what was pending before. -/
theorem log_of_openLog {indexed : Bool} (hp : p ≠ []) (h : t.openLog p indexed = .ok t') :
    t'.get? p.log = some (.file (.log (t.pending? p))) := by
  rw [(openLog_ok h).2]
  split
  · rw [get?_put_of_ne (Path.log_ne_index hp hp), get?_withLog_log hp]
  · exact get?_withLog_log hp

theorem index_of_openLog (hp : p ≠ []) (h : t.openLog p true = .ok t') :
    t'.get? p.index = some (.file .index) := by
  rw [(openLog_ok h).2, if_pos rfl]
  exact get?_put_self (Path.isOuter_index hp)

/-- Opening its log leaves a database as it is. -/
theorem IsSolid.openLog {indexed : Bool} (hs : t.IsSolid p) (h : t.openLog p indexed = .ok t') :
    t'.IsSolid p := by
  have hp := hs.ne_nil
  obtain ⟨content, hcontent, hblank⟩ := hs
  refine ⟨content, ?_, hblank⟩
  rw [get?_openLog h (Path.log_ne hp).symm (Path.index_ne hp).symm, hcontent]

/-! ## Directories that stay -/

/-- Trees of which the second has all the directories of the first. -/
def KeepsDirectories (t u : FileTree) : Prop :=
  ∀ q, t.get? q = some .directory → u.get? q = some .directory

theorem KeepsDirectories.refl (t : FileTree) : t.KeepsDirectories t := fun _ h => h

theorem KeepsDirectories.trans (h : t.KeepsDirectories t') (h' : t'.KeepsDirectories u) :
    t.KeepsDirectories u := fun q hq => h' q (h q hq)

theorem keepsDirectories_put {n : Node} (h : t.get? p ≠ some .directory) :
    t.KeepsDirectories (t.put p n) := by
  intro q hq
  have hne : q ≠ p := by
    rintro rfl
    exact h hq
  rw [get?_put_of_ne hne, hq]

theorem keepsDirectories_remove (h : t.get? p ≠ some .directory) :
    t.KeepsDirectories (t.remove p) := by
  intro q hq
  have hne : q ≠ p := by
    rintro rfl
    exact h hq
  rw [get?_remove_of_ne hne, hq]

theorem keepsDirectories_removeFile (t : FileTree) (p : Path) :
    t.KeepsDirectories (t.removeFile p) := by
  unfold removeFile
  split
  · exact .refl t
  · rename_i hfile
    exact keepsDirectories_remove (by simpa [isDirectory] using hfile)

theorem keepsDirectories_openFile {target : Target} (h : t.openFile p target = .ok t') :
    t.KeepsDirectories t' := by
  rcases openFile_cases h with rfl | ⟨hnone, -, rfl⟩
  · exact .refl _
  · exact keepsDirectories_put (by simp [hnone])

/-- Only files are tidied away. -/
theorem keepsDirectories_tidy (t : FileTree) (p : Path) : t.KeepsDirectories (t.tidy p) := by
  intro q hq
  by_cases hp : p = []
  · rw [hp, tidy_nil, hq]
  by_cases ho : q.isOuter = true
  · exact get?_of_isOuter ho
  rw [get?_tidy hp (by simpa using ho), if_neg, hq]
  rintro (⟨hdrops, rfl⟩ | ⟨hdrops, rfl⟩)
  · simp [dropsJournal, hq] at hdrops
  · simp [dropsLog, hq] at hdrops

theorem keepsDirectories_openLog {indexed : Bool} (h : t.openLog p indexed = .ok t') :
    t.KeepsDirectories t' := by
  have hlog := get?_log_of_openLog h
  have hwith : t.KeepsDirectories (t.withLog p) := by
    unfold withLog
    split
    · exact .refl _
    · exact keepsDirectories_put hlog
  obtain ⟨hindex, rfl⟩ := openLog_ok h
  cases indexed with
  | false => exact hwith
  | true => exact hwith.trans (keepsDirectories_put (hindex rfl))

theorem keepsDirectories_overwrite {ahead : Bool} (h : t.get? p ≠ some .directory)
    (hcan : t.canJournal p = true) : t.KeepsDirectories (t.overwrite p ahead d) := by
  have hput : t.KeepsDirectories (t.put p (.file (.database ahead d))) := keepsDirectories_put h
  refine hput.trans (keepsDirectories_remove ?_)
  have hjournal : t.get? p.journal ≠ some .directory := by
    simp only [canJournal, isDirectory, Bool.and_eq_true] at hcan
    simpa using hcan.2
  rcases get?_put_or t p (.file (.database ahead d)) p.journal with hsame | ⟨-, hfile⟩
  · rwa [hsame]
  · simp [hfile]

/-- Writing into a log puts files in the places of files. -/
theorem keepsDirectories_writeLog (hlog : t.get? p.log ≠ some .directory) (d : Database) :
    t.KeepsDirectories (t.writeLog p d) := by
  have hlogged : t.KeepsDirectories (t.put p.log (.file (.log (some d)))) :=
    keepsDirectories_put hlog
  rcases t.writeLog_cases p d with h | ⟨hfile, h⟩
  · rwa [h]
  · obtain ⟨c, hc⟩ := isFile_eq_true_iff.1 hfile
    rw [h]
    refine hlogged.trans (keepsDirectories_put ?_)
    rcases get?_put_or t p.log (.file (.log (some d))) p with hsame | ⟨-, hput⟩
    · simp [hsame, hc]
    · simp [hput]

/-- Closing a log takes away and overwrites files alone. -/
theorem keepsDirectories_closeLog (hp : t.get? p ≠ some .directory)
    (hlog : t.get? p.log ≠ some .directory) : t.KeepsDirectories (t.closeLog p) := by
  have hgone : ∀ {u : FileTree}, t.KeepsDirectories u → u.get? p.log ≠ some .directory →
      t.KeepsDirectories ((u.remove p.log).removeFile p.index) := fun hkept hfile =>
    (hkept.trans (keepsDirectories_remove hfile)).trans (keepsDirectories_removeFile _ _)
  unfold closeLog
  cases t.pending? p with
  | none => exact hgone (.refl t) hlog
  | some data =>
    refine hgone (keepsDirectories_put hp) ?_
    rcases get?_put_or t p (.file (.database true data)) p.log with hsame | ⟨-, hfile⟩
    · rwa [hsame]
    · simp [hfile]

/-- Closing a log brings no directory in the place of the index. -/
theorem get?_closeLog_index (hp : p ≠ []) (h : t.get? p.index ≠ some .directory) :
    (t.closeLog p).get? p.index ≠ some .directory := by
  have hgone : ∀ {u : FileTree}, u.get? p.index ≠ some .directory →
      ((u.remove p.log).removeFile p.index).get? p.index ≠ some .directory := by
    intro u hu
    rcases get?_removeFile_self (u.remove p.log) (Path.isOuter_index hp) with hget | hget
    · unfold removeFile at hget
      rw [isDirectory, get?_remove_of_ne (Path.log_ne_index hp hp).symm, if_neg (by simpa using hu),
        get?_remove (Path.isOuter_index hp), if_pos rfl] at hget
      cases hget
    · simp [hget]
  unfold closeLog
  cases t.pending? p with
  | none => exact hgone h
  | some data => exact hgone (by rwa [get?_put_of_ne (Path.index_ne hp)])

theorem keepsDirectories_makeDirectories (t : FileTree) (names : List FileName) :
    t.KeepsDirectories (t.makeDirectories names).2 := by
  intro q hq
  rcases get?_makeDirectories t names q with hsame | ⟨-, hmade, -⟩
  · rw [hsame, hq]
  · exact hmade

/-! ## Ways that are there -/

/-- Whether every place on the way of names is a directory. -/
def Paved (t : FileTree) (names : List FileName) : Prop :=
  ∀ q, Path.Along names q → t.get? q = some .directory

theorem Paved.mono (h : t.Paved names) (hkept : t.KeepsDirectories u) : u.Paved names :=
  fun q hq => hkept q (h q hq)

/-- What is a file is not on the way. -/
theorem Paved.not_along {c : Content} (h : t.Paved names) (hp : t.get? p = some (.file c)) :
    ¬Path.Along names p := by
  intro halong
  rw [h p halong] at hp
  cases hp

/-- Where all directories are there, none is missing. -/
theorem Paved.callsFor_eq (h : t.Paved names) : t.callsFor names = 0 := by
  have hnone : ∀ (done rest : List FileName),
      (∀ before after, rest = before ++ after →
        t.get? (Path.resolve (done ++ before)) = some .directory) →
      t.missingAlong done rest = 0 := by
    intro done rest hrest
    induction rest generalizing done with
    | nil => rfl
    | cons name rest ih =>
      unfold missingAlong
      dsimp only
      rw [hrest [name] rest rfl]
      split
      · rfl
      · refine ih (done ++ [name]) fun before after hsplit => ?_
        rw [List.append_assoc]
        exact hrest (name :: before) after (by rw [hsplit]; rfl)
  unfold callsFor
  split
  · rfl
  · exact hnone [] names fun before after hnames => h _ ⟨before, after, hnames, rfl⟩

/-! ## Data kept by way of a log -/

/-- The file at a place and the log beside it have some data between them: they are pending in the
log, or all of them are in the file. -/
inductive Houses (t : FileTree) (p : Path) (d : Database) : Prop where
  | pending (hp : t.IsSolid p) (hl : t.get? p.log = some (.file (.log (some d))))
  | whole (hp : t.get? p = some (.file (.database true d))) (hl : t.pending? p = none)
      (hd : t.get? p.log ≠ some .directory)

theorem Houses.isSolid (h : t.Houses p d) : t.IsSolid p := by
  cases h with
  | pending hp hl => exact hp
  | whole hp hl hd => exact ⟨_, hp, rfl⟩

theorem Houses.log_ne (h : t.Houses p d) : t.get? p.log ≠ some .directory := by
  cases h with
  | pending hp hl => simp [hl]
  | whole hp hl hd => exact hd

theorem Houses.congr (h : t.Houses p d) (hp : u.get? p = t.get? p)
    (hl : u.get? p.log = t.get? p.log) : u.Houses p d := by
  cases h with
  | pending hsolid hlog =>
    obtain ⟨c, hc, hblank⟩ := hsolid
    exact .pending ⟨c, hp.trans hc, hblank⟩ (hl.trans hlog)
  | whole hfile hpending hdirectory =>
    exact .whole (hp.trans hfile) ((pending?_congr hl).trans hpending) (by rwa [hl])

theorem Houses.dataAt (h : t.Houses p d) : t.dataAt p = d := by
  cases h with
  | pending hp hl => simp only [FileTree.dataAt, pending?, hl]
  | whole hp hl hd => simp only [FileTree.dataAt, hl, database?, hp, Content.database?]

theorem Houses.isLost (h : t.Houses p d) (known : List Store) : t.isLost p known = false := by
  by_contra hlost
  obtain ⟨hpending, ⟨s, hs⟩, -⟩ := isLost_eq_true_iff.1 (by simpa using hlost)
  cases h with
  | pending hp hl => simp [pending?, hl] at hpending
  | whole hp hl hd => simp [hp] at hs

theorem Houses.writesAhead (h : t.Houses p d) : t.writesAhead p = .ok true := by
  cases h with
  | pending hp hl => simp [FileTree.writesAhead, pending?, hl]
  | whole hp hl hd => simp [FileTree.writesAhead, hl, database?, hp, Content.database?, Except.map]

/-- Tidying up leaves the log of a database that is more than blank. -/
theorem IsSolid.get?_tidy_log (h : t.IsSolid p) : (t.tidy p).get? p.log = t.get? p.log := by
  have hp := h.ne_nil
  rw [get?_tidy hp (Path.isOuter_log hp), if_neg]
  rintro (⟨-, hjournal⟩ | ⟨hdrops, -⟩)
  · exact Path.log_ne_journal hp hp hjournal
  · rw [dropsLog_of_isBlank h.isBlank] at hdrops
    cases hdrops

/-- Tidying up leaves a database that has data as it is. -/
theorem Houses.tidy (h : t.Houses p d) : (t.tidy p).Houses p d :=
  h.congr (get?_tidy_self t p) h.isSolid.get?_tidy_log

theorem Houses.withLog (h : t.Houses p d) : (t.withLog p).Houses p d := by
  have hp := h.isSolid.ne_nil
  have hfile : (t.withLog p).get? p = t.get? p := get?_withLog_of_ne (Path.log_ne hp).symm
  cases h with
  | pending hsolid hlog =>
    refine (Houses.pending hsolid hlog).congr hfile ?_
    rw [get?_withLog_log hp, hlog, pending?, hlog]
  | whole hdata hpending hdirectory =>
    have hlog : (t.withLog p).get? p.log = some (.file (.log none)) := by
      rw [get?_withLog_log hp, hpending]
    exact .whole (hfile.trans hdata) (by rw [pending?, hlog]) (by simp [hlog])

/-- What is written into the log is what the database has then. -/
theorem houses_writeLog (h : t.IsSolid p) (d : Database) : (t.writeLog p d).Houses p d := by
  have hp := h.ne_nil
  obtain ⟨c, hc, hblank⟩ := h
  refine .pending ?_ (get?_writeLog_log hp)
  -- The file is as it was, or it has come to be a database.
  rcases t.writeLog_cases p d with hlogged | ⟨-, hmoved⟩
  · exact ⟨c, by rw [hlogged, get?_put_of_ne (Path.log_ne hp).symm, hc], hblank⟩
  · exact ⟨_, by rw [hmoved, get?_put_self (isOuter_of_file hc)], rfl⟩

/-- Closing the log moves the data into the file. -/
theorem Houses.closeLog (h : t.Houses p d) : (t.closeLog p).Houses p d := by
  have hp := h.isSolid.ne_nil
  obtain ⟨c, hc, -⟩ := h.isSolid
  have houter := isOuter_of_file hc
  have hindex : p ≠ p.index := (Path.index_ne hp).symm
  have hlog : p ≠ p.log := (Path.log_ne hp).symm
  -- The log is gone, and the index is not in its place.
  have hgone : (t.closeLog p).get? p.log = none := by
    unfold FileTree.closeLog
    dsimp only
    rw [get?_removeFile_of_ne (Path.log_ne_index hp hp), get?_remove (Path.isOuter_log hp),
      if_pos rfl]
  have hfile : (t.closeLog p).get? p = some (.file (.database true d)) := by
    unfold FileTree.closeLog
    dsimp only
    rw [get?_removeFile_of_ne hindex, get?_remove_of_ne hlog]
    cases h with
    | pending hsolid hpending =>
      simp only [pending?, hpending]
      exact get?_put_self houter
    | whole hdata hpending hdirectory =>
      rw [hpending]
      exact hdata
  exact .whole hfile (by rw [pending?, hgone]) (by simp [hgone])

end FileTree

end DeliveryStore
