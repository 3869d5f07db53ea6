import DeliveryStore.Handle

/-!
# What handles do

What handles are for: opening, making tables, calls, looking at the data, and closing. All of it
happens to `Storage` alone and gives a `Completion`: the outcome, what is to be logged, and the
storage after it. A call checks its arguments before it touches storage.
-/

namespace DeliveryStore

/-- What an operation comes to: its outcome, the note to log and the group to log it in, and the
storage after it. -/
structure Completion (α : Type) where
  outcome : Except Failure α
  note : Option (String × Note) := none
  storage : Storage

namespace Completion

/-- The group of what concerns a database as a whole. -/
def schemaGroup : String := "Schema"

/-- The note of an operation for which storage could not be used. -/
def unavailable (operation label : String) : Note :=
  ⟨"UNAVAILABLE", [("operation", operation), ("error", label)]⟩

/-- The note of an insertion that found its key taken. -/
def conflict (operation : String) (details : List (String × String)) : Note :=
  ⟨"CONFLICT", ("operation", operation) :: details⟩

/-- The completion of an operation that could not use storage. -/
def refused {α : Type} (group operation : String) (fault : StorageFault) (storage : Storage) :
    Completion α where
  outcome := .error (.unavailable operation fault)
  note := some (group, unavailable operation fault.label)
  storage

end Completion

/-! ## Opening and closing -/

/-- Opens a database as handle `number`. -/
def Opening.complete (o : Opening) (settings : Settings) (number : Nat) (storage : Storage) :
    Completion Handle :=
  match o.addressIn settings, Durability.ofValue (o.durabilityIn settings) with
  | none, _ => { outcome := .error (.address .missing), storage }
  | some _, .error f => { outcome := .error f, storage }
  | some address, .ok durability =>
    match Locator.ofValue address with
    | .error fault => { outcome := .error (.address fault), storage }
    | .ok l =>
      let directories := Handle.directoriesOf l
      if directories.any (·.contains 0) then { outcome := .error (.unfit .path), storage }
      else if settings.nesting < storage.tree.callsFor directories then
        { outcome := .error .nestedTooDeep, storage }
      else
        -- Directories that were made on the way stay, even if the last could not be made.
        let (fault, tree) := storage.tree.makeDirectories directories
        let storage := { storage with tree }
        match fault with
        | some fault =>
          { outcome := .error (.noDirectory (l.database.getD "") fault)
            note := some (Completion.schemaGroup, Completion.unavailable "open" fault.label)
            storage }
        | none => { outcome := Handle.make number o durability l, storage }

namespace Handle

/-- Closes a database. The handle can be used again; what it kept in memory is gone. -/
def close (h : Handle) (storage : Storage) : Storage := storage.disconnect h.number

/-! ## Channels -/

/-- The channel of a handle, opened if need be. -/
def connect (h : Handle) (storage : Storage) : Except Unusable Channel × Storage :=
  match h.target with
  | .error refusal => (.error refusal, storage)
  | .ok target =>
    let (c, storage) := storage.connect h.number target h.inMemory
    (c.mapError .storage, storage)

/-- The channel of a handle, ready for an operation. -/
def enter (h : Handle) (storage : Storage) : Except Unusable Channel × Storage :=
  match h.target with
  | .error refusal => (.error refusal, storage)
  | .ok target =>
    let (c, storage) := storage.enter h.number target h.inMemory
    (c.mapError .storage, storage)

/-! ## Operations -/

/-- The note of tables that have been made. -/
def initialised (stores : List Store) : Note :=
  ⟨"INIT", [("tables", ",".intercalate ((stores.map Store.table).mergeSort fun a b => a ≤ b))]⟩

/-- Makes the tables of a handle's role, so far as they are missing. -/
def initialise (h : Handle) (storage : Storage) : Completion Unit :=
  let group := Completion.schemaGroup
  match h.enter storage with
  | (.error (.unfit what), storage) => { outcome := .error (.unfit what), storage }
  | (.error (.storage fault), storage) => Completion.refused group "init" fault storage
  | (.ok c, storage) =>
    if h.role.stores.isEmpty then
      { outcome := .error (.notOffered h.role.handleName "metadata"), storage }
    else
      match (storage.read c).ensure c.readOnly h.role.stores with
      | .error fault => Completion.refused group "init" fault storage
      | .ok data =>
        -- Where nothing may be written no table was missing, so that there is nothing to write.
        match if c.readOnly then .ok storage else storage.write c data with
        | .error fault => Completion.refused group "init" fault storage
        | .ok storage =>
          { outcome := .ok (), note := some (group, initialised h.role.stores), storage }

/-- Carries out a checked request. -/
def perform (h : Handle) (operation : String) (r : Request) (storage : Storage) :
    Completion (Reply Row) :=
  let group := r.store.group
  match h.enter storage with
  | (.error (.unfit what), storage) => { outcome := .error (.unfit what), storage }
  | (.error (.storage fault), storage) =>
    Completion.refused group operation (storage.faultFor h.number r.store fault) storage
  | (.ok c, storage) =>
    match (storage.read c).carryOut c.readOnly r with
    | .error (.storage fault) => Completion.refused group operation fault storage
    -- Of the refusals only a conflict and a failure of storage are logged.
    | .error (.refusal .taken) =>
      { outcome := .error (.conflict operation)
        note := some (group, Completion.conflict operation r.conflictDetails)
        storage }
    | .error (.refusal (.absent what)) => { outcome := .error (.absent what), storage }
    | .error (.refusal .limitTooLarge) => { outcome := .error .limitTooLarge, storage }
    | .error (.refusal (.unusable (.unfit what))) => { outcome := .error (.unfit what), storage }
    | .error (.refusal (.unusable (.storage fault))) =>
      Completion.refused group operation fault storage
    | .ok commit =>
      match if r.writes then storage.write c commit.database else .ok storage with
      | .error fault => Completion.refused group operation fault storage
      | .ok storage =>
        { outcome := .ok commit.reply, note := commit.note.map fun n => (group, n), storage }

/-- Checks a call and carries it out. -/
def call (h : Handle) (now : Moment) (c : Call) (storage : Storage) : Completion (Reply Row) :=
  if h.role.stores.contains c.store then
    match c.check now with
    | .error f => { outcome := .error f, storage }
    | .ok r => h.perform c.operation r storage
  else { outcome := .error (.notOffered h.role.handleName c.operation), storage }

/-- A call whose arguments fail their checks leaves the storage alone and logs nothing. -/
theorem call_of_check_error {h : Handle} {now : Moment} {c : Call} {f : Failure}
    (storage : Storage) (ho : h.role.stores.contains c.store = true)
    (hf : c.check now = .error f) :
    h.call now c storage = { outcome := .error f, storage } := by
  simp only [call, ho, if_true, hf]

/-- A call whose arguments pass their checks is carried out. -/
theorem call_of_check {h : Handle} {now : Moment} {c : Call} {r : Request} (storage : Storage)
    (ho : h.role.stores.contains c.store = true) (hr : c.check now = .ok r) :
    h.call now c storage = h.perform c.operation r storage := by
  simp only [call, ho, if_true, hr]

/-- Looks at the data of a handle's database. -/
def view {α : Type} (h : Handle) (see : Database → α) (storage : Storage) : Completion α :=
  match h.enter storage with
  | (.error refusal, storage) => { outcome := .error refusal.failure, storage }
  | (.ok c, storage) => { outcome := .ok (see (storage.read c)), storage }

/-- The journal that a handle's channel keeps, and how durably the handle writes. -/
def pragmas (h : Handle) (storage : Storage) : Completion (Journal × Durability) :=
  match h.connect storage with
  | (.error refusal, storage) => { outcome := .error refusal.failure, storage }
  | (.ok c, storage) => { outcome := .ok (c.journal, h.durability), storage }

end Handle

end DeliveryStore
