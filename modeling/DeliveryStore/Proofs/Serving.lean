import DeliveryStore.Handle.Completion
import DeliveryStore.Proofs.Storage.Connections

/-!
# Handles that serve data

A handle that has its channel and may use it serves the data that it sees: what a call comes to, and
the data after it, then depend on those data alone. `Database.answer` says what a call comes to on
data, `Database.furnish` the same of making tables. Main statements:

* `call_storage`, `initialise_storage` — what an operation can do to storage, and `Database.Becomes`
  what it can write there;
* `call_enter`, `initialise_enter` — an operation after entering is the operation without it;
* `Serves.call`, `Serves.initialise` — a handle that serves data does what is said of the data, and
  serves the data after it;
* `Upholds.call`, `Upholds.initialise` — what it keeps of storage and data it keeps with the data
  after it.
-/

namespace DeliveryStore

/-! ## Requests on data -/

/-- The failure of an operation that meets an obstacle. -/
def Obstacle.failure (operation : String) : Obstacle → Failure
  | .storage fault => .unavailable operation fault
  | .refusal .taken => .conflict operation
  | .refusal (.absent what) => .absent what
  | .refusal .limitTooLarge => .limitTooLarge
  | .refusal (.unusable (.unfit what)) => .unfit what
  | .refusal (.unusable (.storage fault)) => .unavailable operation fault

namespace Database

/-- What a checked request comes to on data, and the data after it. -/
def respond (d : Database) (readOnly : Bool) (operation : String) (r : Request) :
    Except Failure (Reply Row) × Database :=
  match d.carryOut readOnly r with
  | .error obstacle => (.error (obstacle.failure operation), d)
  | .ok commit => (.ok commit.reply, commit.database)

/-- What a call to a handle of a role comes to on data, and the data after it. -/
def answer (d : Database) (role : Role) (readOnly : Bool) (now : Moment) (c : Call) :
    Except Failure (Reply Row) × Database :=
  if role.stores.contains c.store then
    match c.check now with
    | .error f => (.error f, d)
    | .ok r => d.respond readOnly c.operation r
  else (.error (.notOffered role.handleName c.operation), d)

/-- What making the tables of a role comes to on data, and the data after it. -/
def furnish (d : Database) (role : Role) (readOnly : Bool) : Except Failure Unit × Database :=
  if role.stores.isEmpty then (.error (.notOffered role.handleName "metadata"), d)
  else
    match d.ensure readOnly role.stores with
    | .error fault => (.error (.unavailable "init" fault), d)
    | .ok data => (.ok (), if readOnly then d else data)

/-- Making tables fails and leaves the data as they were, finds all tables there, or makes them. -/
theorem furnish_cases (d : Database) (role : Role) (readOnly : Bool) :
    (∃ f, d.furnish role readOnly = (.error f, d)) ∨
      (readOnly = true ∧ (∀ store ∈ role.stores, d.has store = true) ∧
        d.furnish role readOnly = (.ok (), d)) ∨
      (readOnly = false ∧ d.furnish role readOnly = (.ok (), role.stores.foldl create d)) := by
  unfold furnish ensure
  split
  · exact .inl ⟨_, rfl⟩
  cases readOnly with
  | false => exact .inr (.inr ⟨rfl, rfl⟩)
  | true =>
    by_cases hlacks : (role.stores.any fun s => !d.has s) = true
    · rw [hlacks]
      exact .inl ⟨_, rfl⟩
    · have hhas : ∀ store ∈ role.stores, d.has store = true := by
        simpa using hlacks
      rw [Bool.not_eq_true] at hlacks
      rw [hlacks]
      exact .inr (.inl ⟨rfl, hhas, rfl⟩)

/-- A request that was carried out on a table found the table, and was allowed to write if it
writes. -/
theorem onTable_map_ok {ρ κ : Type} {store : Store} {table : Option (List ρ)}
    {writes readOnly : Bool} {apply : List ρ → Except Refusal (Effect ρ)} {commit : Effect ρ → κ}
    {k : κ} (h : (onTable store table writes readOnly apply).map commit = .ok k) :
    ∃ rows e, table = some rows ∧ (writes = true → readOnly = false) ∧ apply rows = .ok e ∧
      commit e = k := by
  unfold onTable at h
  split at h
  · cases h
  rename_i rows
  split at h
  · cases h
  rename_i hallowed
  split at h
  · rename_i e hok
    refine ⟨rows, e, rfl, ?_, hok, Except.ok.inj h⟩
    intro hwrites
    simpa [hwrites] using hallowed
  · cases h

/-- A request on a table that there is fails unless it may write, or comes to what it comes to on the
rows. -/
theorem respond_onTable {ρ : Type} {d : Database} {readOnly : Bool} {r : Request} {store : Store}
    {rows : List ρ} {writes : Bool} {apply : List ρ → Except Refusal (Effect ρ)}
    {commit : Effect ρ → Commit}
    (hr : d.carryOut readOnly r = (onTable store (some rows) writes readOnly apply).map commit)
    (operation : String) :
    d.respond readOnly operation r =
      if writes && readOnly then (.error (.unavailable operation .readOnly), d)
      else
        match apply rows with
        | .error refusal => (.error ((Obstacle.refusal refusal).failure operation), d)
        | .ok e => (.ok (commit e).reply, (commit e).database) := by
  unfold respond
  rw [hr]
  by_cases hw : (writes && readOnly) = true
  · simp only [onTable, if_pos hw]
    rfl
  · simp only [onTable, if_neg hw]
    cases apply rows <;> rfl

/-- A request that was carried out and writes was allowed to. -/
theorem readOnly_of_carryOut {d : Database} {readOnly : Bool} {r : Request} {commit : Commit}
    (h : d.carryOut readOnly r = .ok commit) (hw : r.writes = true) : readOnly = false := by
  cases r with
  | keyPackages r | mailbox r | identities r =>
    obtain ⟨-, -, -, hallowed, -, -⟩ := onTable_map_ok h
    exact hallowed hw

/-- A request that does not write leaves the data as they were. -/
theorem database_of_carryOut {d : Database} {readOnly : Bool} {r : Request} {commit : Commit}
    (h : d.carryOut readOnly r = .ok commit) (hw : r.writes = false) : commit.database = d := by
  cases r with
  | keyPackages r =>
    obtain ⟨rows, e, htable, -, happly, rfl⟩ := onTable_map_ok h
    dsimp only
    rw [KeyPackages.Request.apply_rows hw happly, ← htable]
  | mailbox r =>
    obtain ⟨rows, e, htable, -, happly, rfl⟩ := onTable_map_ok h
    dsimp only
    rw [Mailbox.Request.apply_rows hw happly, ← htable]
  | identities r =>
    obtain ⟨rows, e, htable, -, happly, rfl⟩ := onTable_map_ok h
    dsimp only
    rw [Identities.Request.apply_rows hw happly, ← htable]

/-- What data that may be written become when a call that passes its checks is carried out, or tables
are made. -/
inductive Becomes (d : Database) : Database → Prop where
  | called {now : Moment} {c : Call} {r : Request} {commit : Commit} (hc : c.check now = .ok r)
      (hr : d.carryOut false r = .ok commit) : Becomes d commit.database
  | furnished (stores : List Store) : Becomes d (stores.foldl create d)

end Database

namespace Handle

variable {h : Handle} {s s' : Storage} {c : Channel} {d : Database} {readOnly : Bool}

/-! ## Entering -/

/-- A handle whose file is found in the same way whether it is there or not. -/
def Retraceable (h : Handle) : Prop := ∀ target, h.target = .ok target → target.Retraceable

/-- Entering a second time gives what it gave the first time. -/
theorem enter_enter (hr : h.Retraceable) (s : Storage) :
    ∃ known, h.enter (h.enter s).2 =
      ((h.enter s).1.map fun c => { c with known }, (h.enter s).2) := by
  unfold enter
  cases ht : h.target with
  | error refusal => exact ⟨[], rfl⟩
  | ok target =>
    obtain ⟨known, hagain⟩ := Storage.enter_again (hr target ht) s h.number h.inMemory
    refine ⟨known, ?_⟩
    dsimp only
    rw [hagain]
    cases (s.enter h.number target h.inMemory).1 <;> rfl

/-- Entering leaves a channel that stands. -/
theorem stands_of_enter (he : h.enter s = (.ok c, s')) :
    (∃ target, h.target = .ok target) ∧ ∃ known, s'.Stands h.number { c with known } := by
  unfold enter at he
  cases ht : h.target with
  | error refusal =>
    rw [ht] at he
    cases he
  | ok target =>
    rw [ht] at he
    dsimp only at he
    refine ⟨⟨target, rfl⟩, ?_⟩
    rcases hs : s.enter h.number target h.inMemory with ⟨fault | c', s''⟩
    · rw [hs] at he
      cases he
    · rw [hs] at he
      cases he
      exact Storage.stands_of_enter hs

/-- Where a channel stands, entering gives it. -/
theorem enter_of_stands {target : Target} (ht : h.target = .ok target)
    (hs : s.Stands h.number c) : h.enter s = (.ok c, s) := by
  unfold enter
  rw [ht]
  dsimp only
  rw [hs.enter target h.inMemory]
  rfl

/-! ## What operations do to storage -/

/-- What can have become of storage when an operation on a handle has ended: it is as it was, or as
entering left it, or something has been written after that. -/
inductive Leaves (h : Handle) (s : Storage) : Storage → Prop where
  | untouched : Leaves h s s
  | entered : Leaves h s (h.enter s).2
  | written {c : Channel} {s₁ s₂ : Storage} {data : Database} (he : h.enter s = (.ok c, s₁))
      (hr : c.readOnly = false) (hd : (s₁.read c).Becomes data) (hw : s₁.write c data = .ok s₂) :
      Leaves h s s₂

/-- A request leaves storage as entering left it, and has failed if it was to write; or what it comes
to is written. -/
theorem perform_cases (h : Handle) (operation : String) (r : Request) (s : Storage) :
    ((h.perform operation r s).storage = (h.enter s).2 ∧
      (r.writes = true → ∃ f, (h.perform operation r s).outcome = .error f)) ∨
    ∃ c s₁ commit, h.enter s = (.ok c, s₁) ∧ r.writes = true ∧ c.readOnly = false ∧
      (s₁.read c).carryOut false r = .ok commit ∧
      s₁.write c commit.database = .ok (h.perform operation r s).storage ∧
      (h.perform operation r s).outcome = .ok commit.reply := by
  unfold perform
  dsimp only
  rcases he : h.enter s with ⟨refusal | c, s₁⟩
  · cases refusal <;> exact .inl ⟨rfl, fun _ => ⟨_, rfl⟩⟩
  dsimp only
  rcases hc : (s₁.read c).carryOut c.readOnly r with obstacle | commit
  · rcases obstacle with fault | refusal
    · exact .inl ⟨rfl, fun _ => ⟨_, rfl⟩⟩
    · rcases refusal with _ | _ | _ | why
      case unusable => cases why <;> exact .inl ⟨rfl, fun _ => ⟨_, rfl⟩⟩
      all_goals exact .inl ⟨rfl, fun _ => ⟨_, rfl⟩⟩
  dsimp only
  cases hw : r.writes with
  | false => exact .inl ⟨rfl, fun hwrites => by cases hwrites⟩
  | true =>
    rw [if_pos rfl]
    have hr := Database.readOnly_of_carryOut hc hw
    cases hwrite : s₁.write c commit.database with
    | error fault => exact .inl ⟨rfl, fun _ => ⟨_, rfl⟩⟩
    | ok s₂ => exact .inr ⟨c, s₁, commit, rfl, rfl, hr, hr ▸ hc, hwrite, rfl⟩

/-- A request that no database carries out fails. -/
theorem perform_error {r : Request} (operation : String)
    (hr : ∀ (d : Database) readOnly, ∃ obstacle, d.carryOut readOnly r = .error obstacle) :
    ∃ f, (h.perform operation r s).outcome = .error f := by
  unfold perform
  dsimp only
  rcases h.enter s with ⟨refusal | ch, s'⟩
  · cases refusal <;> exact ⟨_, rfl⟩
  dsimp only
  obtain ⟨obstacle, ho⟩ := hr (s'.read ch) ch.readOnly
  rw [ho]
  rcases obstacle with fault | refusal
  · exact ⟨_, rfl⟩
  · rcases refusal with _ | _ | _ | why
    case unusable => cases why <;> exact ⟨_, rfl⟩
    all_goals exact ⟨_, rfl⟩

/-- A request that fails leaves storage as entering left it; one that succeeds may write. -/
theorem perform_storage (h : Handle) (operation : String) {now : Moment} {call : Call} {r : Request}
    (hcheck : call.check now = .ok r) (s : Storage) :
    h.Leaves s (h.perform operation r s).storage ∧
      ∀ f, (h.perform operation r s).outcome = .error f →
        (h.perform operation r s).storage = (h.enter s).2 := by
  rcases h.perform_cases operation r s with
    ⟨hstorage, -⟩ | ⟨c, s₁, commit, he, -, hr, hc, hwrite, hdone⟩
  · rw [hstorage]
    exact ⟨.entered, fun _ _ => rfl⟩
  · refine ⟨.written he hr (.called hcheck hc) hwrite, fun f hf => ?_⟩
    cases hdone.symm.trans hf

/-- A call that fails leaves storage as it was, or as entering left it. -/
theorem call_storage (h : Handle) (now : Moment) (c : Call) (s : Storage) :
    h.Leaves s (h.call now c s).storage ∧
      ∀ f, (h.call now c s).outcome = .error f →
        (h.call now c s).storage = s ∨ (h.call now c s).storage = (h.enter s).2 := by
  unfold call
  split
  · split
    · exact ⟨.untouched, fun _ _ => .inl rfl⟩
    · rename_i r hcheck
      obtain ⟨hleaves, hfails⟩ := perform_storage h c.operation hcheck s
      exact ⟨hleaves, fun f hf => .inr (hfails f hf)⟩
  · exact ⟨.untouched, fun _ _ => .inl rfl⟩

/-- Making tables leaves storage as entering left it, or the tables are written. -/
theorem initialise_cases (h : Handle) (s : Storage) :
    (h.initialise s).storage = (h.enter s).2 ∨
    ∃ c s₁, h.enter s = (.ok c, s₁) ∧ c.readOnly = false ∧
      s₁.write c (h.role.stores.foldl Database.create (s₁.read c)) =
        .ok (h.initialise s).storage ∧
      (h.initialise s).outcome = .ok () := by
  unfold initialise
  dsimp only
  rcases he : h.enter s with ⟨refusal | c, s₁⟩
  · cases refusal <;> exact .inl rfl
  dsimp only
  split
  · exact .inl rfl
  rcases hensure : (s₁.read c).ensure c.readOnly h.role.stores with fault | data
  · exact .inl rfl
  dsimp only
  cases hr : c.readOnly with
  | true => exact .inl rfl
  | false =>
    rw [if_neg Bool.false_ne_true]
    rw [hr] at hensure
    obtain rfl : h.role.stores.foldl Database.create (s₁.read c) = data := Except.ok.inj hensure
    cases hwrite : s₁.write c (h.role.stores.foldl Database.create (s₁.read c)) with
    | error fault => exact .inl rfl
    | ok s₂ => exact .inr ⟨c, s₁, rfl, hr, hwrite, rfl⟩

/-- Making tables leaves storage as entering left it if it fails; otherwise it may write. -/
theorem initialise_storage (h : Handle) (s : Storage) :
    h.Leaves s (h.initialise s).storage ∧
      ∀ f, (h.initialise s).outcome = .error f → (h.initialise s).storage = (h.enter s).2 := by
  rcases h.initialise_cases s with hstorage | ⟨c, s₁, he, hr, hwrite, hdone⟩
  · rw [hstorage]
    exact ⟨.entered, fun _ _ => rfl⟩
  · refine ⟨.written he hr (.furnished _) hwrite, fun f hf => ?_⟩
    cases hdone.symm.trans hf

/-! ## Operations after entering -/

/-- A request comes to the same whether or not the handle has entered before. -/
theorem perform_enter (hr : h.Retraceable) (operation : String) (r : Request) (s : Storage) :
    h.perform operation r (h.enter s).2 = h.perform operation r s := by
  -- The tables that the channel knows do not matter once it has been entered.
  obtain ⟨known, hagain⟩ := h.enter_enter hr s
  unfold perform
  rw [hagain]
  rcases h.enter s with ⟨refusal | c, s₁⟩
  · cases refusal <;> rfl
  · rfl

/-- Making tables comes to the same whether or not the handle has entered before. -/
theorem initialise_enter (hr : h.Retraceable) (s : Storage) :
    h.initialise (h.enter s).2 = h.initialise s := by
  obtain ⟨known, hagain⟩ := h.enter_enter hr s
  unfold initialise
  rw [hagain]
  rcases h.enter s with ⟨refusal | c, s₁⟩
  · cases refusal <;> rfl
  · rfl

/-! ## Serving data -/

/-- A handle serves data if entering gives it a channel that sees them, and that can be written
through unless it may only be read. -/
def Serves (h : Handle) (readOnly : Bool) (d : Database) (s : Storage) : Prop :=
  ∃ c s', h.enter s = (.ok c, s') ∧ s'.read c = d ∧ c.readOnly = readOnly ∧
    (readOnly = false → s'.Accepts c)

/-- A handle whose channel stands serves what the channel sees. -/
theorem serves_of_stands {target : Target} (ht : h.target = .ok target)
    (hs : s.Stands h.number c) (hd : s.read c = d) (hr : c.readOnly = readOnly)
    (ha : readOnly = false → s.Accepts c) : h.Serves readOnly d s :=
  ⟨c, s, enter_of_stands ht hs, hd, hr, ha⟩

/-- A handle goes on serving after it has entered. -/
theorem serves_of_enter (he : h.enter s = (.ok c, s'))
    (ha : c.readOnly = false → s'.Accepts c) : h.Serves c.readOnly (s'.read c) s' := by
  obtain ⟨⟨target, ht⟩, known, hs⟩ := stands_of_enter he
  exact serves_of_stands ht hs rfl rfl fun hr => ⟨(ha hr).thawed, (ha hr).file⟩

/-- A handle serves what it has written. -/
theorem serves_of_write (he : h.enter s = (.ok c, s')) (hr : c.readOnly = false)
    (ha : s'.Accepts c) (data : Database) :
    ∃ s'', s'.write c data = .ok s'' ∧ h.Serves false data s'' := by
  obtain ⟨⟨target, ht⟩, known, hs⟩ := stands_of_enter he
  obtain ⟨s'', hwrite, hread, hstands, haccepts⟩ := hs.write ⟨ha.thawed, ha.file⟩ data
  exact ⟨s'', hwrite, serves_of_stands ht hstands hread hr fun _ => haccepts⟩

/-- A handle that serves data does with a request what is said of the data. -/
theorem Serves.perform (hs : h.Serves readOnly d s) (operation : String) (r : Request) :
    (h.perform operation r s).outcome = (d.respond readOnly operation r).1 ∧
      h.Serves readOnly (d.respond readOnly operation r).2 (h.perform operation r s).storage := by
  obtain ⟨c, s', he, rfl, rfl, ha⟩ := hs
  have hentered := serves_of_enter he ha
  unfold Handle.perform Database.respond
  rw [he]
  dsimp only
  rcases hc : (s'.read c).carryOut c.readOnly r with obstacle | commit
  · rcases obstacle with fault | refusal
    · exact ⟨rfl, hentered⟩
    · rcases refusal with _ | _ | _ | why
      case unusable => cases why <;> exact ⟨rfl, hentered⟩
      all_goals exact ⟨rfl, hentered⟩
  dsimp only
  cases hw : r.writes with
  | false =>
    -- Nothing is written, and the data after the request are those before it.
    rw [Database.database_of_carryOut hc hw]
    exact ⟨rfl, hentered⟩
  | true =>
    have hr := Database.readOnly_of_carryOut hc hw
    obtain ⟨s'', hwrite, hserves⟩ := serves_of_write he hr (ha hr) commit.database
    rw [if_pos rfl, hwrite, hr]
    exact ⟨rfl, hserves⟩

/-- A handle that serves data does with a call what is said of the data. -/
theorem Serves.call (hs : h.Serves readOnly d s) (now : Moment) (c : Call) :
    (h.call now c s).outcome = (d.answer h.role readOnly now c).1 ∧
      h.Serves readOnly (d.answer h.role readOnly now c).2 (h.call now c s).storage := by
  unfold Handle.call Database.answer
  split
  · rcases c.check now with f | r
    · exact ⟨rfl, hs⟩
    · exact hs.perform _ _
  · exact ⟨rfl, hs⟩

/-- A handle that serves data makes tables as is said of the data. -/
theorem Serves.initialise (hs : h.Serves readOnly d s) :
    (h.initialise s).outcome = (d.furnish h.role readOnly).1 ∧
      h.Serves readOnly (d.furnish h.role readOnly).2 (h.initialise s).storage := by
  obtain ⟨c, s', he, rfl, rfl, ha⟩ := hs
  have hentered := serves_of_enter he ha
  unfold Handle.initialise Database.furnish
  rw [he]
  dsimp only
  split
  · exact ⟨rfl, hentered⟩
  rcases (s'.read c).ensure c.readOnly h.role.stores with fault | data
  · exact ⟨rfl, hentered⟩
  dsimp only
  cases hr : c.readOnly with
  | true =>
    rw [hr] at hentered
    exact ⟨rfl, hentered⟩
  | false =>
    obtain ⟨s'', hwrite, hserves⟩ := serves_of_write he hr (ha hr) data
    rw [if_neg Bool.false_ne_true, hwrite]
    exact ⟨rfl, hserves⟩

/-- A handle that serves data sees them. -/
theorem Serves.view {α : Type} (hs : h.Serves readOnly d s) (see : Database → α) :
    (h.view see s).outcome = .ok (see d) := by
  obtain ⟨c, s', he, rfl, -, -⟩ := hs
  unfold Handle.view
  rw [he]

/-- A handle serves no other data than those that it serves. -/
theorem Serves.unique {readOnly' : Bool} {d' : Database} (hs : h.Serves readOnly d s)
    (hs' : h.Serves readOnly' d' s) : d = d' := by
  obtain ⟨c, s₁, he, hd, -, -⟩ := hs
  obtain ⟨c', s₁', he', hd', -, -⟩ := hs'
  rw [he] at he'
  cases he'
  exact hd.symm.trans hd'

/-! ## Upholding a relation to data -/

/-- A handle upholds a relation between data and storage if, where it holds, entering keeps it and gives
the handle a channel that serves the data, and writing through that makes it hold of what is written. -/
def Upholds (h : Handle) (readOnly : Bool) (I : Database → Storage → Prop) : Prop :=
  ∀ d s, I d s → ∃ c s', h.enter s = (.ok c, s') ∧ I d s' ∧ s'.read c = d ∧ c.readOnly = readOnly ∧
    s'.Accepts c ∧ ∀ d' s'', s'.write c d' = .ok s'' → I d' s''

variable {I : Database → Storage → Prop}

theorem Upholds.serves (hI : h.Upholds readOnly I) (hs : I d s) : h.Serves readOnly d s := by
  obtain ⟨c, s', henter, -, hread, hmode, haccepts, -⟩ := hI d s hs
  exact ⟨c, s', henter, hread, hmode, fun _ => haccepts⟩

/-- Whatever an operation leaves, the relation holds of it and some data. -/
theorem Upholds.leaves (hI : h.Upholds readOnly I) (hs : I d s) (hl : h.Leaves s s') :
    ∃ d', I d' s' := by
  obtain ⟨c, s₁, henter, hentered, -, -, -, hwritten⟩ := hI d s hs
  cases hl with
  | untouched => exact ⟨d, hs⟩
  | entered =>
    rw [henter]
    exact ⟨d, hentered⟩
  | written he _ _ hwrite =>
    rw [henter] at he
    cases he
    exact ⟨_, hwritten _ _ hwrite⟩

/-- A call comes to what is said of the data, and the relation holds of the data after it. -/
theorem Upholds.call (hI : h.Upholds readOnly I) (hs : I d s) (now : Moment) (c : Call) :
    (h.call now c s).outcome = (d.answer h.role readOnly now c).1 ∧
      I (d.answer h.role readOnly now c).2 (h.call now c s).storage := by
  obtain ⟨houtcome, hserves⟩ := (hI.serves hs).call now c
  obtain ⟨d', hafter⟩ := hI.leaves hs (h.call_storage now c s).1
  refine ⟨houtcome, ?_⟩
  rwa [← (hI.serves hafter).unique hserves]

/-- Tables are made as is said of the data, and the relation holds of the data after that. -/
theorem Upholds.initialise (hI : h.Upholds readOnly I) (hs : I d s) :
    (h.initialise s).outcome = (d.furnish h.role readOnly).1 ∧
      I (d.furnish h.role readOnly).2 (h.initialise s).storage := by
  obtain ⟨houtcome, hserves⟩ := (hI.serves hs).initialise
  obtain ⟨d', hafter⟩ := hI.leaves hs (h.initialise_storage s).1
  refine ⟨houtcome, ?_⟩
  rwa [← (hI.serves hafter).unique hserves]

end Handle

end DeliveryStore
