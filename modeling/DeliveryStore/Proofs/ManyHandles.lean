import DeliveryStore.Proofs.Offices
import DeliveryStore.Proofs.PlainFiles

/-!
# Many handles on one file

Once the database in an ordinary file has been opened and its tables have been made, it does not
matter through which handles errands are run on it, nor whether handles are closed, others opened and
tables made again in between: every errand comes to what it comes to through the first handle, and
prints what it prints there. Main statements:

* `Session.Staffed` — a session in which all handles of some names do the errands of one office;
* `Staffed.errand`, `Staffed.opening`, `Staffed.close`, `Staffed.initialise` — what a step through one
  of them does;
* `Staffed.run`, `Staffed.after_moves` — the answers to errands are those of the office, and there is
  an office still, whatever else is done;
* `Session.answers_over_handles` — so that they are the same over many handles as over one.
-/

namespace DeliveryStore

/-! ## Moves -/

/-- An opening of the same address in the same role, with a durability that there is. -/
structure Opening.Like (o : Opening) (settings : Settings) (o' : Opening) : Prop where
  role_eq : o'.role = o.role
  address_eq : o'.addressIn settings = o.addressIn settings
  durability : ∃ d, Durability.ofValue (o'.durabilityIn settings) = .ok d

/-- A server and a client are named in the log after their role. -/
theorem Opening.logName_of_like {settings : Settings} {o o' : Opening} (h : o.Like settings o')
    (hrole : o.role ≠ .base) : o'.logName = o.logName := by
  unfold logName
  rw [h.role_eq]
  cases ho : o.role with
  | server => rfl
  | client => rfl
  | base => exact absurd ho hrole

/-- One move of a run over several handles: an errand through one of them, or something that is done
to the handles beside the errands. -/
inductive Move where
  | errand (on : String) (e : Errand)
  | opening (on : String) (o : Opening)
  | initialise (on : String)
  | close (on : String)

namespace Move

/-- The step of a move. -/
def step : Move → Step
  | errand on e => e.step on
  | opening on o => .opening on o
  | initialise on => .initialise on
  | close on => .close on

/-- The errand of a move. -/
def errand? : Move → Option Errand
  | errand _ e => some e
  | _ => none

/-- Of the answers to moves those to errands. -/
def kept (moves : List Move) (answers : List Answer) : List Answer :=
  ((moves.zip answers).filter fun m => m.1.errand?.isSome).map (·.2)

theorem kept_cons (m : Move) (a : Answer) (moves : List Move) (answers : List Answer) :
    kept (m :: moves) (a :: answers) =
      if m.errand?.isSome then a :: kept moves answers else kept moves answers := by
  unfold kept
  rw [List.zip_cons_cons, List.filter_cons]
  split <;> rfl

/-- Moves that use the handles of some names, and of the names under which they have opened others in
the way of a first opening. -/
def Fit (o : Opening) (settings : Settings) : List String → List Move → Prop
  | _, [] => True
  | names, errand on _ :: rest => on ∈ names ∧ Fit o settings names rest
  | names, opening on o' :: rest => o.Like settings o' ∧ Fit o settings (on :: names) rest
  | names, initialise on :: rest => on ∈ names ∧ Fit o settings names rest
  | names, close on :: rest => on ∈ names ∧ Fit o settings names rest

end Move

/-! ## Opening an ordinary file -/

/-- Storage in which the directories of a site have been made. -/
def Storage.prepared (s : Storage) (w : Site) : Storage :=
  { s with tree := (s.tree.makeDirectories w.directories).2 }

/-- The host once its next handle has been opened at a site. -/
def Host.prepared (host : Host) (w : Site) : Host :=
  { host with asked := host.asked + 1, storage := host.storage.prepared w }

/-- What opening an ordinary file comes to: a handle at its site, later than all that have channels,
for which the directories of the address have been made. -/
structure Host.OpensAt (host : Host) (o : Opening) (h : Handle) (w : Site) : Prop where
  report : host.openAs o = { outcome := .ok h, host := host.prepared w }
  plain : w.IsPlain
  opening : o.IsAt host.settings w
  isAt : h.IsAt w
  role_eq : h.role = o.role
  name_eq : h.name = o.logName
  number_eq : h.number = host.asked
  made : (host.storage.tree.makeDirectories w.directories).1 = none
  earlier : ∀ c ∈ (host.storage.prepared w).channels, c.IsEarlier h.number

/-- Opening an ordinary file, if it succeeds and can be used, comes to a handle at a site. -/
theorem Host.opensAt {host : Host} {o : Opening} {h : Handle} {address : Value} {l : Locator}
    (hearlier : ∀ c ∈ host.storage.channels, c.IsEarlier host.asked)
    (haddress : o.addressIn host.settings = some address) (hl : Locator.ofValue address = .ok l)
    (hplain : l.IsPlainFile) (hh : (host.openAs o).outcome = .ok h) {target : Target}
    (ht : h.target = .ok target) : ∃ w, host.OpensAt o h w := by
  have hcompleted : (o.complete host.settings host.asked host.storage).outcome = .ok h := by
    rw [← hh, Host.openAs, Host.settle_outcome]
  obtain ⟨address', durability, l', haddress', -, hl', hmake, hnames, hmade, hcomplete⟩ :=
    Opening.complete_cases hcompleted
  cases haddress.symm.trans haddress'
  cases hl.symm.trans hl'
  obtain ⟨w, hw, hdirectories, hopening, hat, hnumber, hrole, hname⟩ :=
    Opening.isAt_of_make haddress hl hplain hnames hmake ht
  rw [← hdirectories] at hmade hcomplete
  refine ⟨w, ?report, hw, hopening, hat, hrole, hname, hnumber, hmade, ?earlier⟩
  case report =>
    unfold Host.openAs
    rw [Host.settle_eq, hcomplete]
    rfl
  case earlier =>
    rw [hnumber]
    exact hearlier

namespace Session

variable {s : Session} {w : Site} {first : Nat} {o : Opening} {settings : Settings}
  {names : List String} {k : Office} {name : String}

/-! ## Opening -/

/-- An opening that does not fail comes to a handle, which has the name then. -/
theorem handle_of_opening {opened : Result}
    (h : (s.step (.opening name o)).1.outcome = .done opened) :
    ∃ h, (s.host.openAs o).outcome = .ok h ∧
      (s.step (.opening name o)).2 =
        ({ s with host := (s.host.openAs o).host } : Session).bind name h := by
  cases hh : (s.host.openAs o).outcome with
  | ok h =>
    refine ⟨h, rfl, ?_⟩
    simp only [Session.step, hh]
    rfl
  | error f =>
    simp only [Session.step, take, hh] at h
    cases h

/-- What opening a database comes to once its directories are there. -/
theorem step_opening {tree : FileTree} {h : Handle}
    (hc : o.complete s.host.settings s.host.asked s.host.storage =
      { outcome := .ok h, storage := { s.host.storage with tree } }) :
    s.step (.opening name o) =
      ({ outcome := .done (.opened h.name h.inMemory h.durability) },
        { s with host := { s.host with
            asked := s.host.asked + 1
            storage := { s.host.storage with tree } } }.bind name h) := by
  have hopen : s.host.openAs o =
      { outcome := .ok h
        host := { s.host with
          asked := s.host.asked + 1, storage := { s.host.storage with tree } } } := by
    unfold Host.openAs
    rw [Host.settle_eq, hc]
    rfl
  simp only [Session.step, hopen]
  rfl

/-! ## Sessions with an office -/

/-- A session in which the handles of some names are all at one site, under the settings of a first
opening there, and in which the errands of an office can be run through any of them. -/
structure Staffed (s : Session) (w : Site) (first : Nat) (o : Opening) (settings : Settings)
    (names : List String) (k : Office) : Prop where
  handles : ∀ name ∈ names, ∃ h, s.handles.lookup name = some h ∧ h.IsAt w ∧ h.role = o.role ∧
    h.name = k.name ∧ first ≤ h.number
  storage : s.host.storage.Carries w first k.desk.data
  asked_le : first ≤ s.host.asked
  settings_eq : s.host.settings = settings
  now_eq : s.host.now = k.desk.now
  log_eq : s.host.log = k.log
  ready : k.Ready o

/-- An operation that comes to what an errand comes to in the office, with the note that it has there
and the data that it leaves there, is that errand. -/
theorem Staffed.take {α : Type} (hs : s.Staffed w first o settings names k) {e : Errand}
    {c : Completion α} {result : α → Result} {label : Option String} (hlabel : label = k.name)
    (houtcome : Outcome.of result c.outcome = (k.desk.serve e).1) (hnote : c.note = k.desk.note e)
    (hstorage : c.storage.Carries w first (k.desk.serve e).2.data)
    (hnow : e.timeAfter k.desk.now = k.desk.now) :
    (s.take (s.host.settle label c) result).1 = (k.serve e).1 ∧
      (s.take (s.host.settle label c) result).2.Staffed w first o settings names (k.serve e).2 := by
  rw [take_settle, hlabel, hnote, hs.log_eq]
  constructor
  · rw [houtcome]
    rfl
  · refine ⟨hs.handles, hstorage, hs.asked_le, hs.settings_eq, ?_, rfl, hs.ready.serve e⟩
    show s.host.now = (k.desk.serve e).2.now
    rw [Desk.serve_now, hnow, hs.now_eq]

/-- Any of the handles serves what is on the desk of the office. -/
theorem Staffed.servesDesk (hw : w.Tried) (hs : s.Staffed w first o settings names k)
    (hn : name ∈ names) : s.ServesDesk name k.desk := by
  obtain ⟨h, hh, hat, hrole, -, hnumber⟩ := hs.handles name hn
  have hserves := (Storage.Carries.upholds hw hat hnumber).serves hs.storage
  rw [← hs.ready.writable] at hserves
  exact ⟨h, hh, hrole.trans hs.ready.role_eq.symm, hs.now_eq, hserves⟩

/-- An errand through any of the handles comes to what it comes to in the office, prints what it
prints there, and leaves the office as it is left there. -/
theorem Staffed.errand (hw : w.Tried) (hs : s.Staffed w first o settings names k)
    (hn : name ∈ names) (e : Errand) :
    (s.step (e.step name)).1 = (k.serve e).1 ∧
      (s.step (e.step name)).2.Staffed w first o settings names (k.serve e).2 := by
  obtain ⟨h, hh, hat, hrole, hname, hnumber⟩ := hs.handles name hn
  have hupholds : h.Upholds k.desk.readOnly (fun d s => s.Carries w first d) := by
    rw [hs.ready.writable]
    exact Storage.Carries.upholds hw hat hnumber
  have hserves := hupholds.serves hs.storage
  have hrole' : h.role = k.desk.role := hrole.trans hs.ready.role_eq.symm
  cases e with
  | call c =>
    rw [Errand.step, step_call hh]
    refine hs.take hname ?_ ?_ ?_ rfl
    · rw [(hserves.call _ c).1, hrole', hs.now_eq]
      rfl
    · rw [hserves.call_note, hrole', hs.now_eq]
      rfl
    · have hcarries := (hupholds.call hs.storage k.desk.now c).2
      rw [hrole'] at hcarries
      rw [hs.now_eq]
      exact hcarries
  | initialise =>
    rw [Errand.step, step_initialise hh]
    refine hs.take hname ?_ ?_ ?_ rfl
    · rw [hserves.initialise.1, hrole']
      rfl
    · rw [hserves.initialise_note, hrole']
      rfl
    · have hcarries := (hupholds.initialise hs.storage).2
      rw [hrole'] at hcarries
      exact hcarries
  | clock now =>
    exact ⟨rfl, hs.handles, hs.storage, hs.asked_le, hs.settings_eq, rfl, hs.log_eq,
      hs.ready.serve (.clock now)⟩

/-- Making the tables again leaves the office as it is. -/
theorem Staffed.initialise (hw : w.Tried) (hs : s.Staffed w first o settings names k)
    (hn : name ∈ names) : (s.step (.initialise name)).2.Staffed w first o settings names k := by
  have hafter := (hs.errand hw hn .initialise).2
  rwa [hs.ready.serve_initialise] at hafter

/-- A handle that is given a name is found under it, and the others are found as before. -/
theorem lookup_bind (s : Session) (name : String) (h : Handle) (other : String) :
    (s.bind name h).handles.lookup other =
      if other = name then some h else s.handles.lookup other := by
  unfold bind
  split
  · rename_i heq
    subst heq
    simp
  · rename_i hne
    have hkey : (other == name) = false := beq_false_of_ne hne
    rw [List.lookup_cons, hkey]
    exact FileTree.lookup_filter_ne hne s.handles

/-- Opening the same address again succeeds and gives one more handle for the office. -/
theorem Staffed.opening (hw : w.Tried) (ho : o.IsAt settings w)
    (hs : s.Staffed w first o settings names k) {o' : Opening} (hlike : o.Like settings o') :
    (∃ result, (s.step (.opening name o')).1.outcome = .done result) ∧
      (s.step (.opening name o')).2.Staffed w first o settings (name :: names) k := by
  obtain ⟨durability, hdurability⟩ := hlike.durability
  have ho' : o'.IsAt settings w := by
    obtain ⟨address, l, haddress, hrest⟩ := ho
    exact ⟨address, l, hlike.address_eq.trans haddress, hrest⟩
  obtain ⟨h, tree, hcomplete, hat, hnumber, hrole, hname, hcarries⟩ :=
    hs.storage.complete hw ho' hdurability s.host.asked
  have hcompleted : o'.complete s.host.settings s.host.asked s.host.storage =
      { outcome := .ok h, storage := { s.host.storage with tree } } := by
    rw [hs.settings_eq]
    exact hcomplete
  rw [step_opening hcompleted]
  refine ⟨⟨_, rfl⟩, ?_, hcarries, Nat.le_succ_of_le hs.asked_le, hs.settings_eq, hs.now_eq,
    hs.log_eq, hs.ready⟩
  intro other hother
  rw [lookup_bind]
  by_cases heq : other = name
  · refine ⟨h, if_pos heq, hat, hrole.trans hlike.role_eq, ?_, hnumber ▸ hs.asked_le⟩
    rw [hname, hs.ready.name_eq, o.logName_of_like hlike hs.ready.role_ne]
  · rw [if_neg heq]
    exact hs.handles other ((List.mem_cons.1 hother).resolve_left heq)

/-- Closing a handle leaves the office as it is. -/
theorem Staffed.close (hs : s.Staffed w first o settings names k) (hn : name ∈ names) :
    (s.step (.close name)).2.Staffed w first o settings names k := by
  obtain ⟨h, hh, -, -, -, hnumber⟩ := hs.handles name hn
  have hstep : (s.step (.close name)).2 = { s with host := s.host.close h } := by
    simp only [Session.step, onHandle, hh]
  rw [hstep]
  exact ⟨hs.handles, hs.storage.disconnect hnumber, hs.asked_le, hs.settings_eq, hs.now_eq, hs.log_eq,
    hs.ready⟩

/-- Whatever moves are made, the answers to errands are those of the office. -/
theorem Staffed.run (hw : w.Tried) (ho : o.IsAt settings w)
    (hs : s.Staffed w first o settings names k) (moves : List Move)
    (hmoves : Move.Fit o settings names moves) :
    Move.kept moves (s.run (moves.map Move.step)).1 = k.run (moves.filterMap Move.errand?) := by
  induction moves generalizing s names k with
  | nil => rfl
  | cons m rest ih =>
    rw [List.map_cons, run_cons, Move.kept_cons]
    cases m with
    | errand on e =>
      obtain ⟨hanswer, hafter⟩ := hs.errand hw hmoves.1 e
      have hrest := ih hafter hmoves.2
      rw [Move.step, hrest, hanswer]
      rfl
    | opening on o' => exact ih (hs.opening hw ho hmoves.1).2 hmoves.2
    | initialise on => exact ih (hs.initialise hw hmoves.1) hmoves.2
    | close on => exact ih (hs.close hmoves.1) hmoves.2

/-- Whatever moves are made, there is an office after them. -/
theorem Staffed.after_moves (hw : w.Tried) (ho : o.IsAt settings w)
    (hs : s.Staffed w first o settings names k) (moves : List Move)
    (hmoves : Move.Fit o settings names moves) :
    ∃ names k, (s.run (moves.map Move.step)).2.Staffed w first o settings names k := by
  induction moves generalizing s names k with
  | nil => exact ⟨names, k, hs⟩
  | cons m rest ih =>
    rw [List.map_cons, run_cons]
    cases m with
    | errand on e => exact ih (hs.errand hw hmoves.1 e).2 hmoves.2
    | opening on o' => exact ih (hs.opening hw ho hmoves.1).2 hmoves.2
    | initialise on => exact ih (hs.initialise hw hmoves.1) hmoves.2
    | close on => exact ih (hs.close hmoves.1) hmoves.2

/-- Once the file of an address has been opened and its tables have been made, there is an office for
the handle. -/
theorem staffed_of_initialise (hs : s.Reachable) {address : Value} {l : Locator}
    (haddress : o.addressIn s.host.settings = some address) (hl : Locator.ofValue address = .ok l)
    (hplain : l.IsPlainFile) {opened : Result}
    (hopened : (s.step (.opening name o)).1.outcome = .done opened)
    (hmade : ((s.step (.opening name o)).2.step (.initialise name)).1.outcome = .done .nothing) :
    ∃ w first k, w.Tried ∧ o.IsAt s.host.settings w ∧
      (s.run [.opening name o, .initialise name]).2.Staffed w first o s.host.settings [name] k := by
  obtain ⟨h, hh, hstep⟩ := handle_of_opening hopened
  rw [hstep] at hmade
  have hlookup : ∀ host, (({ s with host } : Session).bind name h).handles.lookup name = some h := by
    intro host
    rw [lookup_bind, if_pos rfl]
  have hmade' : (h.initialise (s.host.openAs o).host.storage).outcome = .ok () :=
    initialise_of_done (hlookup _) hmade
  obtain ⟨target, htarget⟩ := Handle.target_of_initialise hmade'
  obtain ⟨w, hat⟩ := Host.opensAt hs.earlier haddress hl hplain hh htarget
  rw [hat.report] at hmade' hstep
  let begun := ({ s with host := s.host.prepared w } : Session).bind name h
  have hready : (h.initialise begun.host.storage).outcome = .ok () := hmade'
  obtain ⟨hne, hnote⟩ := Handle.note_of_initialise hready
  obtain ⟨htried, d, hcarries, htables⟩ :=
    Storage.carries_of_initialise hat.plain hat.made rfl hat.earlier hat.isAt hready
  rw [hat.role_eq] at hne htables
  let k : Office :=
    { desk := { role := o.role, readOnly := false, now := s.host.now, data := d }
      name := o.logName
      log := (s.host.log.remark h.name (h.initialise begun.host.storage).note).2 }
  refine ⟨w, h.number, k, htried, hat.opening, ?_⟩
  rw [run_cons, hstep]
  show (begun.step (.initialise name)).2.Staffed w h.number o s.host.settings [name] k
  rw [step_initialise (hlookup _), take_settle]
  constructor
  case handles =>
    intro other hother
    rw [List.mem_singleton.1 hother]
    exact ⟨h, hlookup _, hat.isAt, hat.role_eq, hat.name_eq, Nat.le_refl _⟩
  case storage => exact hcarries
  case asked_le => exact hat.number_eq ▸ Nat.le_succ _
  case settings_eq => rfl
  case now_eq => rfl
  case log_eq => rfl
  case ready =>
    refine ⟨rfl, hne, rfl, rfl, htables, ?_⟩
    show (s.host.log.remark h.name (h.initialise begun.host.storage).note).2.Knows _
    rw [hnote]
    exact Log.Thread.knows_remark _ _ _ _

end Session

end DeliveryStore
