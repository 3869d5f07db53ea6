import DeliveryStore.Proofs.Reachable

/-!
# Errands

A run of steps on one handle, with the clock changed in between, depends on the data that the handle
serves and on nothing else in the session. A `Desk` is what such a run depends on, an `Errand` one
step of it. Main statements:

* `Session.ServesDesk.run` — what a session does with errands is what the desk does with them;
* `Session.servesDesk_of_initialise` — a handle that can make its tables has a desk;
* `Session.FurnishedAs.servesDesk` — so has a database that has its tables;
* `Session.initialised_of_made` — making tables initialises a server;
* `Session.Initialised.run` — an initialised server stays initialised, whatever errands are run;
* `Session.initialised_in_memory` — a new server in memory is initialised.
-/

namespace DeliveryStore

/-- Something that is done with one handle, or to the clock. -/
inductive Errand where
  | call (c : Call)
  | initialise
  | clock (now : Moment)

/-- The step that runs an errand on the handle of a name. -/
def Errand.step (name : String) : Errand → Step
  | call c => .call name c
  | initialise => .initialise name
  | clock now => .clock now

/-- The time after an errand. -/
def Errand.timeAfter (now : Moment) : Errand → Moment
  | clock now => now
  | _ => now

/-- What is behind a handle: its role, whether its data may only be read, the time, and the data. -/
structure Desk where
  role : Role
  readOnly : Bool
  now : Moment
  data : Database

/-- What a step comes to that does nothing but an operation. -/
def Outcome.of {α : Type} (result : α → Result) : Except Failure α → Outcome
  | .ok a => .done (result a)
  | .error f => .failed f

namespace Desk

/-- Runs one errand. -/
def serve (k : Desk) : Errand → Outcome × Desk
  | .call c =>
    let (outcome, data) := k.data.answer k.role k.readOnly k.now c
    (Outcome.of .reply outcome, { k with data })
  | .initialise =>
    let (outcome, data) := k.data.furnish k.role k.readOnly
    (Outcome.of (fun _ => .nothing) outcome, { k with data })
  | .clock now => (.done .nothing, { k with now })

/-- Runs errands in order. -/
def run (k : Desk) : List Errand → List Outcome × Desk
  | [] => ([], k)
  | first :: rest => ((k.serve first).1 :: ((k.serve first).2.run rest).1,
      ((k.serve first).2.run rest).2)

theorem serve_now (k : Desk) (e : Errand) : (k.serve e).2.now = e.timeAfter k.now := by
  cases e <;> rfl

theorem serve_role (k : Desk) (e : Errand) : (k.serve e).2.role = k.role := by
  cases e <;> rfl

theorem serve_readOnly (k : Desk) (e : Errand) : (k.serve e).2.readOnly = k.readOnly := by
  cases e <;> rfl

theorem run_role (k : Desk) (errands : List Errand) : (k.run errands).2.role = k.role := by
  induction errands generalizing k with
  | nil => rfl
  | cons e rest ih => exact (ih _).trans (serve_role k e)

end Desk

namespace Session

variable {s : Session} {name : String} {k : Desk}

/-- What the steps of a list come to. -/
def outcomes (s : Session) (steps : List Step) : List Outcome := (s.run steps).1.map (·.outcome)

/-- A session in which the handle of a name serves what is on a desk. -/
def ServesDesk (s : Session) (name : String) (k : Desk) : Prop :=
  ∃ h, s.handles.lookup name = some h ∧ h.role = k.role ∧ s.host.now = k.now ∧
    h.Serves k.readOnly k.data s.host.storage

/-- A step that does one operation through a handle: its outcome is the operation's, storage is as the
operation leaves it, and the handles and the clock are left alone. -/
structure Does {α : Type} (s : Session) (result : α → Result) (c : Completion α)
    (after : Answer × Session) : Prop where
  outcome : after.1.outcome = Outcome.of result c.outcome
  storage : after.2.host.storage = c.storage
  handles : after.2.handles = s.handles
  now_eq : after.2.host.now = s.host.now

/-- What is settled and taken in gives the outcome of what was completed and prints its note. -/
theorem take_settle {α : Type} (s : Session) (name : Option String) (c : Completion α)
    (result : α → Result) :
    s.take (s.host.settle name c) result =
      ({ outcome := Outcome.of result c.outcome, text := (s.host.log.remark name c.note).1 },
        { s with host := { s.host with
            storage := c.storage, log := (s.host.log.remark name c.note).2 } }) := by
  rw [Host.settle_eq]
  unfold take Outcome.of
  cases c.outcome <;> rfl

/-- What is settled and taken in does what was completed. -/
theorem does_take {α : Type} (s : Session) (name : Option String) (c : Completion α)
    (result : α → Result) : s.Does result c (s.take (s.host.settle name c) result) := by
  rw [take_settle]
  exact ⟨rfl, rfl, rfl, rfl⟩

theorem step_call {h : Handle} (hh : s.handles.lookup name = some h) (c : Call) :
    s.step (.call name c) =
      s.take (s.host.settle h.name (h.call s.host.now c s.host.storage)) .reply := by
  simp only [step, onHandle, hh]
  rfl

theorem step_initialise {h : Handle} (hh : s.handles.lookup name = some h) :
    s.step (.initialise name) =
      s.take (s.host.settle h.name (h.initialise s.host.storage)) fun _ => .nothing := by
  simp only [step, onHandle, hh]
  rfl

theorem does_call {h : Handle} (hh : s.handles.lookup name = some h) (c : Call) :
    s.Does .reply (h.call s.host.now c s.host.storage) (s.step (.call name c)) := by
  rw [step_call hh]
  exact s.does_take _ _ _

theorem does_initialise {h : Handle} (hh : s.handles.lookup name = some h) :
    s.Does (fun _ => .nothing) (h.initialise s.host.storage) (s.step (.initialise name)) := by
  rw [step_initialise hh]
  exact s.does_take _ _ _

/-- Errands leave the handles as they are. -/
theorem handles_errands (s : Session) (name : String) (errands : List Errand) :
    (s.run (errands.map (·.step name))).2.handles = s.handles := by
  induction errands generalizing s with
  | nil => rfl
  | cons e rest ih =>
    rw [List.map_cons, run_cons]
    refine (ih _).trans ?_
    cases e with
    | clock now => rfl
    | call c =>
      cases hh : s.handles.lookup name with
      | none => simp only [Errand.step, step, onHandle, hh]
      | some h => exact (does_call hh c).handles
    | initialise =>
      cases hh : s.handles.lookup name with
      | none => simp only [Errand.step, step, onHandle, hh]
      | some h => exact (does_initialise hh).handles

/-- A step that makes tables and does not fail has made those of the handle. -/
theorem initialise_of_done {h : Handle} (hh : s.handles.lookup name = some h)
    (ho : (s.step (.initialise name)).1.outcome = .done .nothing) :
    (h.initialise s.host.storage).outcome = .ok () := by
  rw [(does_initialise hh).outcome] at ho
  cases hi : (h.initialise s.host.storage).outcome with
  | ok _ => rfl
  | error f =>
    rw [hi] at ho
    cases ho

/-- An errand on a handle comes to what it comes to at its desk. -/
theorem ServesDesk.step (hs : s.ServesDesk name k) (e : Errand) :
    (s.step (e.step name)).1.outcome = (k.serve e).1 ∧
      (s.step (e.step name)).2.ServesDesk name (k.serve e).2 := by
  obtain ⟨h, hh, hrole, hnow, hserves⟩ := hs
  cases e with
  | call c =>
    have hdoes := does_call hh c
    obtain ⟨houtcome, hafter⟩ := hserves.call s.host.now c
    rw [← hdoes.storage, hrole, hnow] at hafter
    rw [hrole, hnow] at houtcome
    constructor
    · rw [Errand.step, hdoes.outcome, hnow, houtcome]
      rfl
    · exact ⟨h, hdoes.handles ▸ hh, hrole, hdoes.now_eq.trans hnow, hafter⟩
  | initialise =>
    have hdoes := does_initialise hh
    obtain ⟨houtcome, hafter⟩ := hserves.initialise
    rw [← hdoes.storage, hrole] at hafter
    rw [hrole] at houtcome
    constructor
    · rw [Errand.step, hdoes.outcome, houtcome]
      rfl
    · exact ⟨h, hdoes.handles ▸ hh, hrole, hdoes.now_eq.trans hnow, hafter⟩
  | clock now => exact ⟨rfl, h, hh, hrole, rfl, hserves⟩

/-- Errands on a handle come to what they come to at its desk. -/
theorem ServesDesk.run (hs : s.ServesDesk name k) (errands : List Errand) :
    s.outcomes (errands.map (·.step name)) = (k.run errands).1 ∧
      (s.run (errands.map (·.step name))).2.ServesDesk name (k.run errands).2 := by
  induction errands generalizing s k with
  | nil => exact ⟨rfl, hs⟩
  | cons e rest ih =>
    obtain ⟨hfirst, hafter⟩ := hs.step e
    obtain ⟨hrest, hend⟩ := ih hafter
    constructor
    · unfold outcomes at hrest ⊢
      rw [List.map_cons, run_cons, List.map_cons, hfirst, hrest]
      rfl
    · rw [List.map_cons, run_cons]
      exact hend

/-- In a reachable session a handle that can make its tables has a desk. -/
theorem servesDesk_of_initialise (hs : s.Reachable) {h : Handle}
    (hh : s.handles.lookup name = some h)
    (ho : (s.step (.initialise name)).1.outcome = .done .nothing) :
    ∃ readOnly d, s.ServesDesk name ⟨h.role, readOnly, s.host.now, d⟩ := by
  -- Only in sound storage does making tables once mean that the data can be written again.
  have hentered : (h.enter s.host.storage).2.Sound :=
    Storage.invariant_sound.enter ⟨Nat.lt_succ_self _, fun _ _ => trivial⟩ hs.sound
  obtain ⟨readOnly, d, hserves⟩ :=
    Handle.serves_of_initialise hentered (initialise_of_done hh ho)
  exact ⟨readOnly, d, h, hh, rfl, rfl, hserves⟩

/-- A handle with a desk sees the data on it. -/
theorem ServesDesk.view {α : Type} (hs : s.ServesDesk name k) {h : Handle}
    (hh : s.handles.lookup name = some h) (see : Database → α) :
    (s.host.view h see).outcome = .ok (see k.data) := by
  obtain ⟨h', hh', -, -, hserves⟩ := hs
  have hsame : h' = h := Option.some.inj (hh'.symm.trans hh)
  subst hsame
  rw [Host.view, Host.settle_outcome]
  exact hserves.view see

/-- In a reachable session a handle that can make its tables has a desk with the data that it
sees. -/
theorem servesDesk_of_view (hs : s.Reachable) {h : Handle} (hh : s.handles.lookup name = some h)
    {d : Database} (hview : (s.host.view h id).outcome = .ok d)
    (ho : (s.step (.initialise name)).1.outcome = .done .nothing) :
    ∃ readOnly, s.ServesDesk name ⟨h.role, readOnly, s.host.now, d⟩ := by
  obtain ⟨readOnly, d', hdesk⟩ := servesDesk_of_initialise hs hh ho
  have hsees := hdesk.view hh id
  rw [hview] at hsees
  obtain rfl : d = d' := Except.ok.inj hsees
  exact ⟨readOnly, hdesk⟩

/-! ## Initialised databases -/

/-- A database in a role that has been initialised, whether or not it can be written: its tables are
there, and making them again succeeds. -/
structure FurnishedAs (role : Role) (s : Session) (name : String) (d : Database) : Prop where
  reachable : s.Reachable
  made : (s.step (.initialise name)).1.outcome = .done .nothing
  handle : ∃ h, s.handles.lookup name = some h ∧ h.role = role ∧
    (s.host.view h id).outcome = .ok d
  tables : ∀ store ∈ role.stores, d.has store = true

/-- A database in a role that has been initialised and can be used: its tables can be written. -/
structure InitialisedAs (role : Role) (s : Session) (name : String) (d : Database) : Prop
    extends s.FurnishedAs role name d where
  writable : ∀ h c storage, s.handles.lookup name = some h →
    h.enter s.host.storage = (.ok c, storage) → c.readOnly = false

/-- A server that has been initialised, whether or not it can be written. -/
abbrev Furnished (s : Session) (name : String) (d : Database) : Prop := s.FurnishedAs .server name d

/-- A server that has been initialised and can be used. -/
abbrev Initialised (s : Session) (name : String) (d : Database) : Prop :=
  s.InitialisedAs .server name d

variable {d : Database} {role : Role}

/-- A database with its tables has a desk. -/
theorem FurnishedAs.servesDesk (hs : s.FurnishedAs role name d) :
    ∃ readOnly, s.ServesDesk name ⟨role, readOnly, s.host.now, d⟩ := by
  obtain ⟨h, hh, hrole, hview⟩ := hs.handle
  obtain ⟨readOnly, hdesk⟩ := servesDesk_of_view hs.reachable hh hview hs.made
  exact ⟨readOnly, hrole ▸ hdesk⟩

/-- An initialised database has a desk that can be written. -/
theorem InitialisedAs.servesDesk (hs : s.InitialisedAs role name d) :
    s.ServesDesk name ⟨role, false, s.host.now, d⟩ := by
  obtain ⟨readOnly, hdesk⟩ := hs.toFurnishedAs.servesDesk
  have hr : readOnly = false := by
    obtain ⟨h, hh, -, -, c, storage, he, -, hc, -⟩ := hdesk
    exact hc.symm.trans (hs.writable h c storage hh he)
  rwa [hr] at hdesk

/-- A server with a desk on which the tables are, and which can be written, is initialised. -/
theorem initialised_of_servesDesk (hs : s.Reachable) {now : Moment}
    (hdesk : s.ServesDesk name ⟨.server, false, now, d⟩)
    (ht : ∀ store ∈ Role.server.stores, d.has store = true) : s.Initialised name d := by
  have hview : ∀ h, s.handles.lookup name = some h → (s.host.view h id).outcome = .ok d :=
    fun h hh => hdesk.view hh id
  have hmade := (hdesk.step .initialise).1
  obtain ⟨h, hh, hrole, -, c, storage, he, -, hr, -⟩ := hdesk
  refine ⟨⟨hs, hmade, ⟨h, hh, hrole, hview h hh⟩, ht⟩, ?_⟩
  intro h' c' storage' hh' he'
  obtain rfl : h = h' := Option.some.inj (hh.symm.trans hh')
  rw [he] at he'
  cases he'
  exact hr

/-- A server is initialised once it has made a table that was missing. -/
theorem initialised_of_made (hs : s.Reachable) {h : Handle} (hh : s.handles.lookup name = some h)
    (hr : h.role = .server) (hview : (s.host.view h id).outcome = .ok d) {store : Store}
    (hstore : store ∈ Role.server.stores) (hlacks : d.has store = false)
    (ho : (s.step (.initialise name)).1.outcome = .done .nothing) :
    (s.step (.initialise name)).2.Initialised name (Role.server.stores.foldl Database.create d) := by
  obtain ⟨readOnly, hdesk⟩ := servesDesk_of_view hs hh hview ho
  rw [hr] at hdesk
  obtain ⟨houtcome, hafter⟩ := hdesk.step .initialise
  rcases d.furnish_cases .server readOnly with ⟨f, heq⟩ | ⟨-, hhas, -⟩ | ⟨rfl, heq⟩
  · -- Making the tables would have failed.
    have hfails : (Desk.serve ⟨.server, readOnly, s.host.now, d⟩ .initialise).1 = .failed f := by
      simp only [Desk.serve, heq]
      rfl
    rw [Errand.step] at houtcome
    rw [houtcome, hfails] at ho
    cases ho
  · rw [hhas store hstore] at hlacks
    cases hlacks
  · have hmade : (Desk.serve ⟨.server, false, s.host.now, d⟩ .initialise).2 =
        ⟨.server, false, s.host.now, Role.server.stores.foldl Database.create d⟩ := by
      simp only [Desk.serve, heq]
    rw [hmade] at hafter
    exact initialised_of_servesDesk (hs.run [.initialise name]) hafter fun _ hmem =>
      Database.has_foldl_create d (.inl hmem)

end Session

/-- An errand leaves no table missing that was there. -/
theorem Desk.has_of_serve {k : Desk} {store : Store} (hk : k.data.has store = true) (e : Errand) :
    (k.serve e).2.data.has store = true := by
  cases e with
  | call c => exact Database.has_of_answer hk
  | initialise => exact Database.has_furnish hk
  | clock now => exact hk

namespace Session

variable {s : Session} {name : String} {d : Database}

/-- An initialised server stays initialised, whatever errands are run on it. -/
theorem Initialised.run (hs : s.Initialised name d) (errands : List Errand) :
    ∃ d', (s.run (errands.map (·.step name))).2.Initialised name d' := by
  induction errands generalizing s d with
  | nil => exact ⟨d, hs⟩
  | cons e rest ih =>
    -- After the first errand the server has the desk that the errand leaves.
    let k := ((⟨.server, false, s.host.now, d⟩ : Desk).serve e).2
    have hdesk : (s.step (e.step name)).2.ServesDesk name k := (hs.servesDesk.step e).2
    have hk : (⟨.server, false, k.now, k.data⟩ : Desk) = k := by
      have hrole : k.role = .server := Desk.serve_role _ e
      have hread : k.readOnly = false := Desk.serve_readOnly _ e
      rw [← hrole, ← hread]
    rw [← hk] at hdesk
    have hfirst : (s.step (e.step name)).2.Initialised name k.data := by
      refine initialised_of_servesDesk (hs.reachable.run [e.step name]) hdesk ?_
      exact fun store hstore => Desk.has_of_serve (hs.tables store hstore) e
    exact ih hfirst

/-- A server that a new session opens in memory is initialised once its tables are made. -/
theorem initialised_in_memory :
    ((start []).run [.opening "db"
        { role := .server, address := some (.text "sqlite+aiosqlite:///:memory:") },
      .initialise "db"]).2.Initialised "db" { keyPackages := some [], messages := some [] } := by
  let h : Handle :=
    { number := 0, role := .server, name := some "server", durability := .extra, inMemory := true
      target := .ok { medium := .memory (FileName.ofText Target.memoryName) } }
  refine ⟨⟨⟨_, _, rfl⟩, rfl, ⟨h, rfl, rfl, rfl⟩, by decide⟩, ?_⟩
  intro h' c storage hh he
  obtain rfl : h = h' := Option.some.inj hh
  exact congrArg (fun r => r.toOption.elim false Channel.readOnly) (congrArg Prod.fst he).symm

end Session

end DeliveryStore
