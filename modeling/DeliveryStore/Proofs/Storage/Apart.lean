import DeliveryStore.Proofs.Reachable

/-!
# Databases that lie apart

A database keeps files beside it: its log, the index of the log and its journal. As long as none of
these passes for a database itself, whatever is done to make a database ready touches no data, its
own or those of another. Main statements:

* `FileTree.Kept` — what stands where, if the databases that are used lie apart;
* `FileTree.keeps_tidy`, `FileTree.keeps_overwrite`, … — each change to the files keeps it;
* `FileTree.same_tidy`, `FileTree.same_overwrite`, … — what is done before an operation leaves all data;
* `Channel.refresh_keeps`, `Channel.settle_keeps` — looking at a file keeps it and leaves all data.
-/

namespace DeliveryStore

/-- Places none of which is beside another one. -/
def Path.Apart (P : Path → Prop) : Prop :=
  ∀ p q, P p → P q → p ≠ q.log ∧ p ≠ q.index ∧ p ≠ q.journal

/-- One place lies apart. -/
theorem Path.apart_singleton {p : Path} (hp : p ≠ []) : Path.Apart (· = p) := by
  rintro q r rfl rfl
  exact ⟨(log_ne hp).symm, (index_ne hp).symm, (journal_ne hp).symm⟩

namespace FileTree

variable {P : Path → Prop} {t t' u : FileTree} {p q : Path}

/-! ## The data of files -/

/-- What is pending in what stands at a place. -/
def pendingIn : Option Node → Option Database
  | some (.file (.log pending)) => pending
  | _ => none

/-- What stands at a place, read as the data of a database. -/
def dataIn : Option Node → Database
  | some (.file c) =>
    match c.database? with
    | .ok (_, data) => data
    | .error _ => {}
  | _ => {}

theorem dataAt_eq (t : FileTree) (p : Path) :
    t.dataAt p = (pendingIn (t.get? p.log)).getD (dataIn (t.get? p)) := by
  have hpending : t.pending? p = pendingIn (t.get? p.log) := rfl
  rw [dataAt, hpending]
  cases pendingIn (t.get? p.log) with
  | some data => rfl
  | none =>
    rw [database?]
    cases t.get? p with
    | none => rfl
    | some n =>
      cases n with
      | directory => rfl
      | file c =>
        simp only [dataIn, Option.getD_none]
        cases c.database? <;> rfl

/-- Nothing but a database has data, and nothing but a log has data pending. -/
theorem dataIn_of_ne {n : Option Node}
    (h : ∀ ahead data, n ≠ some (.file (.database ahead data))) : dataIn n = {} := by
  cases n with
  | none => rfl
  | some n =>
    cases n with
    | directory => rfl
    | file c =>
      cases c with
      | text s =>
        rw [dataIn, Content.database?]
        cases Image.fault? (Text.Utf8.encode s.toList) <;> rfl
      | database ahead data => exact absurd rfl (h ahead data)
      | log pending => cases pending <;> rfl
      | index => rfl

/-- Trees with the same data, in databases and pending in logs. -/
structure Same (t t' : FileTree) : Prop where
  pending : ∀ r, pendingIn (t'.get? r) = pendingIn (t.get? r)
  data : ∀ r, dataIn (t'.get? r) = dataIn (t.get? r)

theorem Same.refl (t : FileTree) : t.Same t := ⟨fun _ => rfl, fun _ => rfl⟩

theorem Same.trans (h : t.Same t') (h' : t'.Same u) : t.Same u :=
  ⟨fun r => (h'.pending r).trans (h.pending r), fun r => (h'.data r).trans (h.data r)⟩

theorem Same.dataAt_eq (h : t.Same t') (p : Path) : t'.dataAt p = t.dataAt p := by
  rw [FileTree.dataAt_eq, FileTree.dataAt_eq, h.pending, h.data]

/-- Something with the same data may be put in place of what is there. -/
theorem same_put {n : Node} (hp : pendingIn (some n) = pendingIn (t.get? q))
    (hd : dataIn (some n) = dataIn (t.get? q)) : t.Same (t.put q n) := by
  constructor
  · intro r
    rcases get?_put_or t q n r with h | ⟨rfl, h⟩
    · rw [h]
    · rw [h, hp]
  · intro r
    rcases get?_put_or t q n r with h | ⟨rfl, h⟩
    · rw [h]
    · rw [h, hd]

/-- What has no data may be taken away. -/
theorem same_remove (hp : pendingIn (t.get? q) = none) (hd : dataIn (t.get? q) = {}) :
    t.Same (t.remove q) := by
  constructor
  · intro r
    rcases get?_remove_or t q r with h | ⟨rfl, h⟩
    · rw [h]
    · rw [h, hp]
      rfl
  · intro r
    rcases get?_remove_or t q r with h | ⟨rfl, h⟩
    · rw [h]
    · rw [h, hd]
      rfl

/-! ## Files in order -/

/-- The files are in order if databases stand only at some places, and logs only beside these, and
if nothing is pending for a database but where there is one that is more than blank. -/
structure Kept (P : Path → Prop) (t : FileTree) : Prop where
  databases : ∀ {p ahead data}, t.get? p = some (.file (.database ahead data)) → P p
  logs : ∀ {r pending}, t.get? r = some (.file (.log pending)) →
    ∃ p, P p ∧ p ≠ [] ∧ r = p.log ∧ (pending.isSome = true → t.IsSolid p)

/-- A change that leaves files in order, and files where there were files at the places of
databases. -/
structure Keeps (P : Path → Prop) (t t' : FileTree) : Prop where
  kept : t'.Kept P
  files : ∀ {p}, P p → t.isFile p = true → t'.isFile p = true

theorem Kept.keeps (h : t.Kept P) : t.Keeps P t := ⟨h, fun _ hf => hf⟩

theorem Keeps.trans (h : t.Keeps P t') (h' : t'.Keeps P u) : t.Keeps P u :=
  ⟨h'.kept, fun hp hf => h'.files hp (h.files hp hf)⟩

/-- What is pending is pending for a database that is more than blank. -/
theorem Kept.isSolid_of_pending (h : t.Kept P) {data : Database}
    (hp : t.pending? p = some data) : P p ∧ t.IsSolid p := by
  unfold pending? at hp
  split at hp
  · rename_i pending hlog
    subst hp
    obtain ⟨q, hq, hne, hpq, hsolid⟩ := h.logs hlog
    have hp : p ≠ [] := by
      rintro rfl
      exact Path.ne_nil_of_isOuter (isOuter_of_file hlog) rfl
    rw [Path.beside_inj hp hne hpq]
    exact ⟨hq, hsolid rfl⟩
  · cases hp

/-- At the place of a database there is no log. -/
theorem Kept.not_log (hP : Path.Apart P) (h : t.Kept P) (hp : P p) {pending : Option Database} :
    t.get? p ≠ some (.file (.log pending)) := by
  intro hlog
  obtain ⟨q, hq, -, rfl, -⟩ := h.logs hlog
  exact (hP _ q hp hq).1 rfl

/-- What stands beside a database has no data, unless it is its log. -/
theorem Kept.dataIn_beside (h : t.Kept P) (hq : ¬P q) : dataIn (t.get? q) = {} :=
  dataIn_of_ne fun _ _ hdata => hq (h.databases hdata)

/-! ## Changes at one place -/

/-- Something may be put at a place if a database or a log may stand there. Where changes are pending
for what stands there it must be more than blank, and where a database has its file it must be one. -/
theorem Kept.keeps_put (h : t.Kept P) {n : Node}
    (hdatabase : ∀ ahead data, n = .file (.database ahead data) → P q)
    (hlog : ∀ pending, n = .file (.log pending) →
      ∃ p, P p ∧ p ≠ [] ∧ q = p.log ∧ (pending.isSome = true → t.IsSolid p))
    (hsolid : t.pending? q ≠ none → ∃ c, n = .file c ∧ c.isBlank = false)
    (hfile : P q → t.isFile q = true → n ≠ .directory) : t.Keeps P (t.put q n) := by
  refine ⟨⟨?databases, ?logs⟩, ?files⟩
  case databases =>
    intro p ahead data hdata
    rcases get?_put_or t q n p with hget | ⟨rfl, hget⟩
    · exact h.databases (hget ▸ hdata)
    · cases hget.symm.trans hdata
      exact hdatabase ahead data rfl
  case logs =>
    intro r pending hr
    rcases get?_put_or t q n r with hget | ⟨rfl, hget⟩
    · rw [hget] at hr
      obtain ⟨p, hp, hne, rfl, hs⟩ := h.logs hr
      refine ⟨p, hp, hne, rfl, fun hsome => ?_⟩
      obtain ⟨c, hc, hblank⟩ := hs hsome
      rcases get?_put_or t q n p with hget' | ⟨rfl, hget'⟩
      · exact ⟨c, hget'.trans hc, hblank⟩
      · -- The log belongs to what is put over.
        have hpending : t.pending? p = pending := by simp only [pending?, hr]
        obtain ⟨c', rfl, hblank'⟩ := hsolid (hpending ▸ Option.isSome_iff_ne_none.1 hsome)
        exact ⟨c', hget', hblank'⟩
    · cases hget.symm.trans hr
      obtain ⟨p, hp, hne, rfl, hs⟩ := hlog pending rfl
      refine ⟨p, hp, hne, rfl, fun hsome => ?_⟩
      obtain ⟨c, hc, hblank⟩ := hs hsome
      exact ⟨c, (get?_put_of_ne (Path.log_ne hne).symm).trans hc, hblank⟩
  case files =>
    intro p hp hf
    rcases get?_put_or t q n p with hget | ⟨rfl, hget⟩
    · simpa only [isFile, hget] using hf
    · cases n with
      | directory => exact absurd rfl (hfile hp hf)
      | file c => simp only [isFile, hget]

/-- What stands at a place and is neither a database nor a log. -/
def IsPlain : Node → Prop
  | .file (.database _ _) | .file (.log _) => False
  | _ => True

/-- Something plain may be put at a place where nothing is pending, in place of a file if it is
one. -/
theorem Kept.keeps_put_plain (h : t.Kept P) {n : Node} (hn : IsPlain n) (hq : t.pending? q = none)
    (hf : n = .directory → t.isFile q = false) : t.Keeps P (t.put q n) := by
  refine h.keeps_put ?_ ?_ (absurd hq) ?_
  · rintro ahead data rfl
    exact hn.elim
  · rintro pending rfl
    exact hn.elim
  · rintro - hfile hdir
    rw [hf hdir] at hfile
    cases hfile

/-- A log may be put beside a database, with something pending if the database is more than
blank. -/
theorem Kept.keeps_put_log (hP : Path.Apart P) (h : t.Kept P) (hp : P p) (hne : p ≠ [])
    {pending : Option Database} (hs : pending.isSome = true → t.IsSolid p) :
    t.Keeps P (t.put p.log (.file (.log pending))) := by
  have hbeside : ¬P p.log := fun hq => (hP _ p hq hp).1 rfl
  refine h.keeps_put nofun ?_ ?_ nofun
  · rintro _ ⟨⟩
    exact ⟨p, hp, hne, rfl, hs⟩
  · intro hsome
    obtain ⟨data, hdata⟩ := Option.ne_none_iff_exists'.1 hsome
    exact absurd (h.isSolid_of_pending hdata).1 hbeside

/-- A database may be put at the place of a database. -/
theorem Kept.keeps_put_database (h : t.Kept P) (hp : P p) (ahead : Bool) (data : Database) :
    t.Keeps P (t.put p (.file (.database ahead data))) :=
  h.keeps_put (fun _ _ _ => hp) nofun (fun _ => ⟨_, rfl, rfl⟩) nofun

/-- Data may be written into the log beside a database that is more than blank. -/
theorem Kept.keeps_writeLog (hP : Path.Apart P) (h : t.Kept P) (hp : P p) (hs : t.IsSolid p)
    (data : Database) : t.Keeps P (t.writeLog p data) := by
  have hlogged : t.Keeps P (t.put p.log (.file (.log (some data)))) :=
    h.keeps_put_log hP hp hs.ne_nil fun _ => hs
  rcases t.writeLog_cases p data with heq | ⟨-, heq⟩
  · rwa [heq]
  · rw [heq]
    exact hlogged.trans (hlogged.kept.keeps_put_database hp true data)

/-- What is not the place of a database may be cleared. -/
theorem Kept.keeps_remove (h : t.Kept P) (hq : ¬P q) : t.Keeps P (t.remove q) := by
  have hspared : ∀ p, P p → (t.remove q).get? p = t.get? p := by
    intro p hp
    refine get?_remove_of_ne ?_
    rintro rfl
    exact hq hp
  refine ⟨⟨?_, ?_⟩, ?_⟩
  · intro p ahead data hdata
    rcases get?_remove_or t q p with hget | ⟨-, hget⟩
    · exact h.databases (hget ▸ hdata)
    · rw [hget] at hdata
      cases hdata
  · intro r pending hlog
    rcases get?_remove_or t q r with hget | ⟨-, hget⟩
    · rw [hget] at hlog
      obtain ⟨p, hp, hne, rfl, hsolid⟩ := h.logs hlog
      refine ⟨p, hp, hne, rfl, fun hsome => ?_⟩
      obtain ⟨c, hc, hblank⟩ := hsolid hsome
      exact ⟨c, (hspared p hp).trans hc, hblank⟩
    · rw [hget] at hlog
      cases hlog
  · intro p hp hfile
    simpa only [isFile, hspared p hp] using hfile

/-! ## Changes beside a database -/

theorem Kept.pending?_eq_none (h : t.Kept P) (hq : ¬P q) : t.pending? q = none := by
  cases hp : t.pending? q with
  | none => rfl
  | some data => exact absurd (h.isSolid_of_pending hp).1 hq

/-- Where there is nothing, nothing is pending. -/
theorem Kept.pending?_eq_none_of_get? (h : t.Kept P) (hq : t.get? q = none) :
    t.pending? q = none := by
  cases hp : t.pending? q with
  | none => rfl
  | some data =>
    obtain ⟨-, c, hc, -⟩ := h.isSolid_of_pending hp
    rw [hq] at hc
    cases hc

theorem Kept.pendingIn_eq_none (h : t.Kept P) (hr : ∀ p : Path, p ≠ [] → q ≠ p.log) :
    pendingIn (t.get? q) = none := by
  unfold pendingIn
  split
  · rename_i pending hlog
    obtain ⟨p, -, hne, hq, -⟩ := h.logs hlog
    exact absurd hq (hr p hne)
  · rfl

theorem keeps_tidy (hP : Path.Apart P) (h : t.Kept P) (hp : P p) : t.Keeps P (t.tidy p) := by
  by_cases hne : p = []
  · rw [hne, tidy_nil]
    exact h.keeps
  have hjournal : t.Keeps P (if t.dropsJournal p then t.remove p.journal else t) := by
    split
    · exact h.keeps_remove fun hq => (hP _ p hq hp).2.2 rfl
    · exact h.keeps
  rw [tidy_eq hne]
  dsimp only
  split
  · exact hjournal.trans (hjournal.kept.keeps_remove fun hq => (hP _ p hq hp).1 rfl)
  · exact hjournal

/-- Tidying up takes no data away. -/
theorem same_tidy (hP : Path.Apart P) (h : t.Kept P) (hp : P p) : t.Same (t.tidy p) := by
  by_cases hne : p = []
  · rw [hne, tidy_nil]
    exact .refl t
  have hjournal : t.Keeps P (if t.dropsJournal p then t.remove p.journal else t) ∧
      t.Same (if t.dropsJournal p then t.remove p.journal else t) := by
    have hbeside : ¬P p.journal := fun hq => (hP _ p hq hp).2.2 rfl
    split
    · refine ⟨h.keeps_remove hbeside, same_remove ?_ (h.dataIn_beside hbeside)⟩
      exact h.pendingIn_eq_none fun q hq => (Path.log_ne_journal hq hne).symm
    · exact ⟨h.keeps, .refl t⟩
  have hbeside : ¬P p.log := fun hq => (hP _ p hq hp).1 rfl
  rw [tidy_eq hne]
  dsimp only
  split
  · rename_i hdrops
    refine hjournal.2.trans (same_remove ?_ (hjournal.1.kept.dataIn_beside hbeside))
    -- A log with something pending stands beside a database that is more than blank, and stays.
    rw [hjournal.2.pending]
    cases hpending : pendingIn (t.get? p.log) with
    | none => rfl
    | some data =>
      have hsolid := (h.isSolid_of_pending (p := p) hpending).2
      rw [dropsLog_of_isBlank hsolid.isBlank] at hdrops
      cases hdrops
  · exact hjournal.2

/-- Opening a log beside a database keeps the files in order, and leaves all data. -/
theorem openLog_keeps {indexed : Bool} (hP : Path.Apart P) (h : t.Kept P) (hp : P p)
    (ho : t.openLog p indexed = .ok t') : t.Keeps P t' ∧ t.Same t' := by
  have hne : p ≠ [] := by
    rintro rfl
    exact get?_log_of_openLog ho (get?_of_isOuter rfl)
  have hlog : ¬P p.log := fun hq => (hP _ p hq hp).1 rfl
  have hindex : ¬P p.index := fun hq => (hP _ p hq hp).2.1 rfl
  obtain ⟨u, hu, ht'⟩ := openLog_cases ho
  have hfirst : t.Keeps P u ∧ t.Same u := by
    rcases hu with ⟨rfl, -⟩ | ⟨rfl, hpending, -⟩
    · exact ⟨h.keeps, .refl u⟩
    · refine ⟨h.keeps_put_log hP hp hne nofun, same_put ?_ ?_⟩
      · exact hpending.symm
      · exact (h.dataIn_beside hlog).symm
  rcases ht' with rfl | rfl
  · exact hfirst
  · have hu := hfirst.1.kept
    refine ⟨hfirst.1.trans (hu.keeps_put_plain trivial (hu.pending?_eq_none hindex) nofun),
      hfirst.2.trans (same_put ?_ ?_)⟩
    · exact (hu.pendingIn_eq_none fun q hq => (Path.log_ne_index hq hne).symm).symm
    · exact (hu.dataIn_beside hindex).symm

theorem keeps_overwrite (hP : Path.Apart P) (h : t.Kept P) (hp : P p) (ahead : Bool)
    (data : Database) : t.Keeps P (t.overwrite p ahead data) := by
  have hput := h.keeps_put_database hp ahead data
  exact hput.trans (hput.kept.keeps_remove fun hq => (hP _ p hq hp).2.2 rfl)

/-- A database without anything pending may be written anew with the data that it has. -/
theorem same_overwrite (hP : Path.Apart P) (h : t.Kept P) (hp : P p) (hne : p ≠ [])
    (hpending : t.pending? p = none) (ahead : Bool) :
    t.Same (t.overwrite p ahead (t.dataAt p)) := by
  have hdata : t.dataAt p = dataIn (t.get? p) := by
    have hnone : pendingIn (t.get? p.log) = none := hpending
    rw [dataAt_eq, hnone]
    rfl
  have hplain : pendingIn (t.get? p) = none := by
    unfold pendingIn
    split
    · rename_i pending hlog
      exact absurd hlog (h.not_log hP hp)
    · rfl
  have hput := (h.keeps_put_database hp ahead (t.dataAt p)).kept
  have hbeside : ¬P p.journal := fun hq => (hP _ p hq hp).2.2 rfl
  have hsame : t.Same (t.put p (.file (.database ahead (t.dataAt p)))) :=
    same_put hplain.symm hdata
  refine hsame.trans (same_remove ?_ (hput.dataIn_beside hbeside))
  exact hput.pendingIn_eq_none fun q hq => (Path.log_ne_journal hq hne).symm

theorem keeps_closeLog (hP : Path.Apart P) (h : t.Kept P) (hp : P p) :
    t.Keeps P (t.closeLog p) := by
  have hgone : ∀ {u : FileTree}, t.Keeps P u →
      t.Keeps P ((u.remove p.log).removeFile p.index) := by
    intro u hmoved
    have hlog := hmoved.trans (hmoved.kept.keeps_remove fun hq => (hP _ p hq hp).1 rfl)
    unfold removeFile
    split
    · exact hlog
    · exact hlog.trans (hlog.kept.keeps_remove fun hq => (hP _ p hq hp).2.1 rfl)
  unfold closeLog
  cases t.pending? p with
  | none => exact hgone h.keeps
  | some data => exact hgone (h.keeps_put_database hp true _)

/-! ## Files and directories that are made -/

/-- Opening a file keeps the files in order, and leaves all data. -/
theorem openFile_keeps {target : Target} (h : t.Kept P) (ho : t.openFile p target = .ok t') :
    t.Keeps P t' ∧ t.Same t' := by
  rcases openFile_cases ho with rfl | ⟨hnone, -, rfl⟩
  · exact ⟨h.keeps, .refl t'⟩
  · have hpending := h.pending?_eq_none_of_get? hnone
    refine ⟨h.keeps_put_plain trivial hpending nofun, same_put ?_ ?_⟩
    · rw [hnone]
      rfl
    · have hempty : dataIn (some (.file (.text ""))) = {} := dataIn_of_ne fun _ _ => by simp
      rw [hnone, hempty]
      rfl

theorem keeps_makeAlong (h : t.Kept P) (done : List FileName) (made : Bool)
    (names : List FileName) : t.Keeps P (t.makeAlong done made names).2 := by
  induction names generalizing t done made with
  | nil => exact h.keeps
  | cons name rest ih =>
    unfold makeAlong
    dsimp only
    split
    · exact h.keeps
    split
    · exact ih h _ _
    · exact h.keeps
    · rename_i hnone
      have hput := h.keeps_put_plain (n := .directory) trivial (h.pending?_eq_none_of_get? hnone)
        fun _ => by simp only [isFile, hnone]
      exact hput.trans (ih hput.kept _ _)

theorem keeps_makeDirectories (h : t.Kept P) (names : List FileName) :
    t.Keeps P (t.makeDirectories names).2 := by
  unfold makeDirectories
  split
  · exact h.keeps
  · exact keeps_makeAlong h [] false names

/-- A text may be written over anything but a database for which something is pending. -/
theorem keeps_writeText (h : t.Kept P) {names : List FileName} {text : String}
    (hpending : ∀ place, t.walk names = .ok place → t.pending? place = none)
    (hw : t.writeText names text = .ok t') : t.Keeps P t' := by
  unfold writeText at hw
  cases hplace : t.walk names with
  | error fault =>
    rw [hplace] at hw
    cases hw
  | ok place =>
    have hput : t.Keeps P (t.put place (.file (.text text))) :=
      h.keeps_put_plain trivial (hpending place hplace) nofun
    rw [hplace] at hw
    simp only [bind, Except.bind, pure, Except.pure] at hw
    split at hw
    · cases hw
    · cases hw
      exact hput
    · split at hw
      · cases hw
        exact hput
      · cases hw

end FileTree

/-! ## Looks at a file -/

/-- Where a file says whether it keeps a log, there is a file. -/
theorem FileTree.isFile_of_writesAhead {P : Path → Prop} {t : FileTree} {p : Path} {ahead : Bool}
    (h : t.Kept P) (ha : t.writesAhead p = .ok ahead) : t.isFile p = true := by
  unfold writesAhead at ha
  split at ha
  · rename_i hsome
    obtain ⟨data, hdata⟩ := Option.isSome_iff_exists.1 hsome
    obtain ⟨-, c, hc, -⟩ := h.isSolid_of_pending hdata
    simp only [isFile, hc]
  · unfold database? at ha
    unfold isFile
    cases hget : t.get? p with
    | none =>
      rw [hget] at ha
      cases ha
    | some n =>
      cases n with
      | directory =>
        rw [hget] at ha
        cases ha
      | file c => rfl

namespace Channel

variable {P : Path → Prop} {c c' : Channel} {t t' : FileTree} {others : List Channel} {p : Path}

/-- A channel on the place of a database, where there is a file if the channel writes to a log. -/
structure Kept (P : Path → Prop) (t : FileTree) (c : Channel) : Prop where
  place : ∀ p, c.place = .file p → P p
  file : ∀ p, c.place = .file p → c.logging = true → t.isFile p = true

/-- A channel stays in order if the files do. -/
theorem Kept.mono (h : c.Kept P t) (ht : t.Keeps P t') : c.Kept P t' :=
  ⟨h.place, fun p hp hl => ht.files (h.place p hp) (h.file p hp hl)⟩

/-- A look at a file keeps the files in order, and leaves all data. -/
theorem refresh_keeps (hP : Path.Apart P) (h : t.Kept P) (hp : P p)
    (hr : c.refresh t others p = .ok (c', t')) : t.Keeps P t' ∧ t.Same t' := by
  have htidy := FileTree.keeps_tidy hP h hp
  have hsame := FileTree.same_tidy hP h hp
  rcases refresh_cases hr with ⟨-, rfl, -⟩ | ⟨-, -, hopen, -⟩ | ⟨-, rfl, -⟩
  · exact ⟨h.keeps, .refl t'⟩
  · obtain ⟨hkeeps, hdata⟩ := FileTree.openLog_keeps hP htidy.kept hp hopen
    exact ⟨htidy.trans hkeeps, hsame.trans hdata⟩
  · exact ⟨htidy, hsame⟩

/-- A channel that comes to write to a log has found a file. -/
theorem isFile_of_refresh (hP : Path.Apart P) (h : t.Kept P) (hp : P p)
    (hr : c.refresh t others p = .ok (c', t')) (hl : c'.logging = true) :
    c.logging = true ∨ t.isFile p = true := by
  rw [refresh_eq] at hr
  split at hr
  · cases hr
    exact .inl hl
  split at hr
  · exact .inl (by assumption)
  split at hr
  · cases hr
  split at hr
  · cases hr
  split at hr
  · cases hr
  rename_i ahead hahead
  right
  have hfile := FileTree.isFile_of_writesAhead (FileTree.keeps_tidy hP h hp).kept hahead
  simpa only [FileTree.isFile, FileTree.get?_tidy_self] using hfile

/-- A look at a file keeps the channel in order that looks. -/
theorem Kept.refresh (hP : Path.Apart P) (hc : c.Kept P t) (h : t.Kept P)
    (hplace : c.place = .file p) (hr : c.refresh t others p = .ok (c', t')) : c'.Kept P t' := by
  have hsame : c'.place = .file p := by
    rw [refresh_frame hr]
    exact hplace
  have hp := hc.place p hplace
  constructor
  · intro q hq
    cases hsame.symm.trans hq
    exact hp
  · intro q hq hl
    cases hsame.symm.trans hq
    refine (refresh_keeps hP h hp hr).1.files hp ?_
    rcases isFile_of_refresh hP h hp hr hl with hlog | hfile
    · exact hc.file p hplace hlog
    · exact hfile

/-- A channel that writes to a log and finds its file in order finds more than a blank one. -/
theorem Kept.isSolid (hP : Path.Apart P) (hc : c.Kept P t) (h : t.Kept P)
    (hplace : c.place = .file p) (hf : c.frozen = none) (hl : c.logging = true)
    (hr : c.refresh t others p = .ok (c', t')) : t.IsSolid p := by
  have hlost : t.isLost p c.known = false := by
    rw [refresh_eq, if_neg (by simp [hf]), if_pos hl] at hr
    split at hr
    · cases hr
    · rename_i hlost
      simpa using hlost
  cases hpending : t.pending? p with
  | some data => exact (h.isSolid_of_pending hpending).2
  | none =>
    have hfile := hc.file p hplace hl
    unfold FileTree.isFile at hfile
    split at hfile
    · rename_i content hget
      refine ⟨content, hget, ?_⟩
      cases content with
      | text s =>
        by_contra hblank
        have : t.isLost p c.known = true := by
          refine FileTree.isLost_eq_true_iff.2 ⟨hpending, ⟨s, hget⟩, .inr ?_⟩
          simpa only [FileTree.isBlank, hget, Bool.not_eq_false] using hblank
        rw [hlost] at this
        cases this
      | log pending => exact absurd hget (h.not_log hP (hc.place p hplace))
      | database ahead data => rfl
      | index => rfl
    · cases hfile

/-- The first look at a file keeps the files and the channel in order, and leaves all data. -/
theorem settle_keeps {immutable log : Bool} (hP : Path.Apart P) (h : t.Kept P) (hc : c.Kept P t)
    (hplace : c.place = .file p) (hf : c.frozen = none) (hl : c.logging = false)
    (hs : c.settle t others p immutable log = .ok (c', t')) :
    t.Keeps P t' ∧ t.Same t' ∧ c'.Kept P t' := by
  have hp := hc.place p hplace
  rcases settle_cases hs with ⟨-, rfl, ahead, data, -, rfl⟩ | ⟨-, hr⟩ |
    ⟨-, c₁, t₁, hr, hjournal, -, -, rfl, rfl⟩
  · exact ⟨h.keeps, .refl t', hc.place, hc.file⟩
  · obtain ⟨hkeeps, hsame⟩ := refresh_keeps hP h hp hr
    exact ⟨hkeeps, hsame, hc.refresh hP h hplace hr⟩
  · obtain ⟨hkeeps, hsame⟩ := refresh_keeps hP h hp hr
    have hover := FileTree.keeps_overwrite hP hkeeps.kept hp true (t₁.dataAt p)
    have hc₁ := (hc.refresh hP h hplace hr).mono hover
    refine ⟨hkeeps.trans hover, hsame.trans ?_, hc₁.place, hc₁.file⟩
    -- A log is started only for a file that was found to keep none, so nothing is pending.
    rcases refresh_cases hr with ⟨rfl, -, hor⟩ | ⟨rfl, -⟩ | ⟨-, rfl, -, -, -, -, hahead, -⟩
    · simp [hf, hl] at hor
    · exact absurd rfl hjournal
    · obtain ⟨houter, hpending⟩ := FileTree.isOuter_of_writesAhead hahead
      exact FileTree.same_overwrite hP hkeeps.kept hp (Path.ne_nil_of_isOuter houter) hpending true

end Channel

end DeliveryStore
