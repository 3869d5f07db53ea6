import DeliveryStore.Proofs.Errands

/-!
# Offices

The note of an operation depends on the data that the handle serves. An `Office` is a desk together
with what its errands print on: the name of the database in the log, and the thread. Main statements:

* `Handle.Serves.call_note`, `Handle.Serves.initialise_note` — the notes of operations on data;
* `Office.serve` — what an errand comes to and prints;
* `Office.Ready.serve_initialise` — making tables that have been made leaves an office as it was.
-/

namespace DeliveryStore

/-! ## Notes -/

namespace Database

variable {d : Database} {stores : List Store}

/-- The note of a checked request on data. -/
def noteOf (d : Database) (readOnly : Bool) (operation : String) (r : Request) :
    Option (String × Note) :=
  match d.carryOut readOnly r with
  | .error (.storage fault) | .error (.refusal (.unusable (.storage fault))) =>
    some (r.store.group, Completion.unavailable operation fault.label)
  | .error (.refusal .taken) =>
    some (r.store.group, Completion.conflict operation r.conflictDetails)
  | .error (.refusal _) => none
  | .ok commit => commit.note.map fun n => (r.store.group, n)

/-- The note of a call to a handle of a role on data. -/
def callNote (d : Database) (role : Role) (readOnly : Bool) (now : Moment) (c : Call) :
    Option (String × Note) :=
  if role.stores.contains c.store then
    match c.check now with
    | .error _ => none
    | .ok r => d.noteOf readOnly c.operation r
  else none

/-- The note of making the tables of a role on data. -/
def furnishNote (d : Database) (role : Role) (readOnly : Bool) : Option (String × Note) :=
  if role.stores.isEmpty then none
  else
    match d.ensure readOnly role.stores with
    | .error fault => some (Completion.schemaGroup, Completion.unavailable "init" fault.label)
    | .ok _ => some (Completion.schemaGroup, Handle.initialised role.stores)

theorem create_of_has {store : Store} (h : d.has store = true) : d.create store = d := by
  cases store with
  | keyPackages =>
    obtain ⟨rows, hrows⟩ := Option.isSome_iff_exists.1 h
    rw [create, hrows, Option.getD_some, ← hrows]
  | mailbox =>
    obtain ⟨rows, hrows⟩ := Option.isSome_iff_exists.1 h
    rw [create, hrows, Option.getD_some, ← hrows]
  | identities =>
    obtain ⟨rows, hrows⟩ := Option.isSome_iff_exists.1 h
    rw [create, hrows, Option.getD_some, ← hrows]

/-- Making tables that are there changes nothing. -/
theorem foldl_create_of_has (h : ∀ store ∈ stores, d.has store = true) :
    stores.foldl create d = d := by
  induction stores with
  | nil => rfl
  | cons store rest ih =>
    rw [List.foldl_cons, create_of_has (h store List.mem_cons_self)]
    exact ih fun other hother => h other (List.mem_cons_of_mem _ hother)

end Database

namespace Handle

variable {h : Handle} {s : Storage} {d : Database} {readOnly : Bool}

/-- A handle that serves data logs of a request what is said of the data. -/
theorem Serves.perform_note (hs : h.Serves readOnly d s) (operation : String) (r : Request) :
    (h.perform operation r s).note = d.noteOf readOnly operation r := by
  obtain ⟨c, s', he, rfl, rfl, ha⟩ := hs
  unfold Handle.perform Database.noteOf
  rw [he]
  dsimp only
  rcases hc : (s'.read c).carryOut c.readOnly r with obstacle | commit
  · rcases obstacle with fault | refusal
    · rfl
    · cases refusal with
      | taken | absent | limitTooLarge => rfl
      | unusable why => cases why <;> rfl
  dsimp only
  cases hw : r.writes with
  | false => rfl
  | true =>
    -- What the request writes can be written.
    have hr := Database.readOnly_of_carryOut hc hw
    obtain ⟨s'', hwrite, -⟩ := serves_of_write he hr (ha hr) commit.database
    rw [if_pos rfl, hwrite]

/-- A handle that serves data logs of a call what is said of the data. -/
theorem Serves.call_note (hs : h.Serves readOnly d s) (now : Moment) (c : Call) :
    (h.call now c s).note = d.callNote h.role readOnly now c := by
  unfold Handle.call Database.callNote
  split
  · rcases c.check now with f | r
    · rfl
    · exact hs.perform_note _ _
  · rfl

/-- A handle that serves data logs of making tables what is said of the data. -/
theorem Serves.initialise_note (hs : h.Serves readOnly d s) :
    (h.initialise s).note = d.furnishNote h.role readOnly := by
  obtain ⟨c, s', he, rfl, rfl, ha⟩ := hs
  unfold Handle.initialise Database.furnishNote
  rw [he]
  dsimp only
  split
  · rfl
  rcases (s'.read c).ensure c.readOnly h.role.stores with fault | data
  · rfl
  dsimp only
  cases hr : c.readOnly with
  | true => rfl
  | false =>
    obtain ⟨s'', hwrite, -⟩ := serves_of_write he hr (ha hr) data
    rw [if_neg Bool.false_ne_true, hwrite]

/-- A handle that has made its tables belongs to a server or a client, and says so in the log. -/
theorem note_of_initialise (ho : (h.initialise s).outcome = .ok ()) :
    h.role ≠ .base ∧
      (h.initialise s).note = some (Completion.schemaGroup, initialised h.role.stores) := by
  unfold Handle.initialise at ho ⊢
  rcases he : h.enter s with ⟨refusal | c, s'⟩
  · rw [he] at ho
    cases refusal <;> cases ho
  rw [he] at ho
  dsimp only at ho ⊢
  split at ho
  · cases ho
  rename_i hstores
  rw [if_neg hstores]
  constructor
  · intro hbase
    rw [hbase] at hstores
    exact hstores rfl
  rcases hensure : (s'.read c).ensure c.readOnly h.role.stores with fault | data
  · rw [hensure] at ho
    cases ho
  rw [hensure] at ho
  dsimp only at ho ⊢
  rcases hwritten : if c.readOnly then .ok s' else s'.write c data with fault | s''
  · rw [hwritten] at ho
    cases ho
  · rw [hwritten]

end Handle

/-! ## Offices -/

/-- The note of an errand at a desk. -/
def Desk.note (k : Desk) : Errand → Option (String × Note)
  | .call c => k.data.callNote k.role k.readOnly k.now c
  | .initialise => k.data.furnishNote k.role k.readOnly
  | .clock _ => none

/-- An errand on a handle with a desk prints the note that it has at the desk. -/
theorem Session.ServesDesk.text_step {s : Session} {name : String} {k : Desk}
    (hs : s.ServesDesk name k) (e : Errand) :
    ∃ label, (s.step (e.step name)).1.text = (s.host.log.remark label (k.note e)).1 := by
  obtain ⟨h, hh, hrole, hnow, hserves⟩ := hs
  refine ⟨h.name, ?_⟩
  cases e with
  | call c =>
    rw [Errand.step, step_call hh, take_settle, hserves.call_note, hrole, hnow]
    rfl
  | initialise =>
    rw [Errand.step, step_initialise hh, take_settle, hserves.initialise_note, hrole]
    rfl
  | clock now => rfl

/-- A desk, the name of its database in the log, and the thread on which its errands print. -/
structure Office where
  desk : Desk
  name : Option String
  log : Log.Thread

namespace Office

/-- Runs one errand. -/
def serve (o : Office) (e : Errand) : Answer × Office :=
  ({ outcome := (o.desk.serve e).1, text := (o.log.remark o.name (o.desk.note e)).1 },
    { o with desk := (o.desk.serve e).2, log := (o.log.remark o.name (o.desk.note e)).2 })

/-- Runs errands in order. -/
def run (o : Office) : List Errand → List Answer
  | [] => []
  | first :: rest => (o.serve first).1 :: (o.serve first).2.run rest

/-- An office for what has been opened as a server or a client, and may be written: its tables have been
made, and the log has spoken of that. -/
structure Ready (k : Office) (o : Opening) : Prop where
  role_eq : k.desk.role = o.role
  role_ne : o.role ≠ .base
  name_eq : k.name = o.logName
  writable : k.desk.readOnly = false
  tables : ∀ store ∈ k.desk.role.stores, k.desk.data.has store = true
  knows : k.log.Knows Completion.schemaGroup

variable {k : Office} {o : Opening}

/-- Errands leave an office ready. -/
theorem Ready.serve (hk : k.Ready o) (e : Errand) : (k.serve e).2.Ready o := by
  have hrole : (k.serve e).2.desk.role = k.desk.role := Desk.serve_role _ e
  refine ⟨hrole.trans hk.role_eq, hk.role_ne, hk.name_eq,
    (Desk.serve_readOnly _ e).trans hk.writable, ?_, hk.knows.remark _ _⟩
  intro store hstore
  rw [hrole] at hstore
  exact Desk.has_of_serve (hk.tables store hstore) e

/-- In an office that is ready, making the tables again changes nothing. -/
theorem Ready.serve_initialise (hk : k.Ready o) : (k.serve .initialise).2 = k := by
  have hdata : (k.desk.data.furnish k.desk.role k.desk.readOnly).2 = k.desk.data := by
    rcases k.desk.data.furnish_cases k.desk.role k.desk.readOnly with ⟨f, heq⟩ | ⟨-, -, heq⟩ |
      ⟨-, heq⟩
    · rw [heq]
    · rw [heq]
    · rw [heq, Database.foldl_create_of_has hk.tables]
  have hdesk : (k.desk.serve .initialise).2 = k.desk := by
    simp only [Desk.serve, hdata]
  have hlog : (k.log.remark k.name (k.desk.note .initialise)).2 = k.log := by
    unfold Desk.note Database.furnishNote
    dsimp only
    split
    · rfl
    split
    · exact hk.knows.remark_eq _ _
    · exact hk.knows.remark_eq _ _
  rw [Office.serve, hdesk, hlog]

end Office

end DeliveryStore
