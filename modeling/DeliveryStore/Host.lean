import DeliveryStore.Handle.Completion
import DeliveryStore.Log.Tree

/-!
# The host of the stores

All that the stores depend on and change: the clock, the settings, the storage and the log. Each
operation gives a `Report`: its outcome, the text that it logged, and the host after it. What
happens to the storage is decided in `Handle.Completion`; the log follows it and is never asked.
-/

namespace DeliveryStore

/-- The present, unless the clock is set. -/
def standardNow : Moment where
  civil := { year := 2025, month := 1, day := 1 }
  offset := some 0
  civil_valid := by decide
  offset_small := by decide

/-- The clock, the settings, the storage, how often a database has been asked for, and the thread
of the log. -/
structure Host where
  now : Moment := standardNow
  settings : Settings := {}
  storage : Storage := {}
  asked : Nat := 0
  log : Log.Thread := {}

/-- What an operation comes to: its outcome, the text that it printed, and the host after it. -/
structure Report (α : Type) where
  outcome : Except Failure α
  text : String := ""
  host : Host

namespace Report

variable {α β : Type}

/-- Goes on with what an operation came to, or ends with its failure; what is printed adds up. -/
def andThen (r : Report α) (next : α → Host → Report β) : Report β :=
  match r.outcome with
  | .error f => { outcome := .error f, text := r.text, host := r.host }
  | .ok a =>
    let later := next a r.host
    { later with text := r.text ++ later.text }

end Report

namespace Host

/-- Prints a text. -/
def say (host : Host) (text : String) : Report Unit := { outcome := .ok (), text, host }

/-! ## Logging -/

/-- The column of a database in the log. One without a name has a dash there. -/
def column (name : Option String) : String :=
  let shown := name.getD ""
  Log.column Log.columnWidth (if shown = "" then "-" else shown)

/-- The entry of a note about a database. -/
def entry (group : String) (name : Option String) (n : Note) : Log.Entry :=
  { operation := n.operation, group := some group, column := column name, details := n.details }

/-- Takes in a completed operation on a database and logs its note. -/
def settle {α : Type} (host : Host) (name : Option String) (c : Completion α) : Report α :=
  let host := { host with storage := c.storage }
  match c.note with
  | none => { outcome := c.outcome, host }
  | some (group, n) =>
    let (text, log) := host.log.write (entry group name n)
    { outcome := c.outcome, text, host := { host with log } }

/-- What is settled has the outcome that it had. -/
@[simp] theorem settle_outcome {α : Type} (host : Host) (name : Option String)
    (c : Completion α) :
    (host.settle name c).outcome = c.outcome := by
  unfold settle; dsimp only; split <;> rfl

/-- What is settled leaves the storage that it left. -/
@[simp] theorem settle_storage {α : Type} (host : Host) (name : Option String)
    (c : Completion α) :
    (host.settle name c).host.storage = c.storage := by
  unfold settle; dsimp only; split <;> rfl

/-! ## Operations -/

/-- Opens a database, under a number that no other handle has. -/
def openAs (host : Host) (o : Opening) : Report Handle :=
  { host with asked := host.asked + 1 }.settle o.logName
    (o.complete host.settings host.asked host.storage)

/-- Closes a database. -/
def close (host : Host) (h : Handle) : Host := { host with storage := h.close host.storage }

/-- Makes the tables of a handle's role. -/
def initialise (host : Host) (h : Handle) : Report Unit :=
  host.settle h.name (h.initialise host.storage)

/-- Checks a call and carries it out. -/
def call (host : Host) (h : Handle) (c : Call) : Report (Reply Row) :=
  host.settle h.name (h.call host.now c host.storage)

/-- Looks at the data of a handle's database. -/
def view {α : Type} (host : Host) (h : Handle) (see : Database → α) : Report α :=
  host.settle h.name (h.view see host.storage)

/-- The journal that a handle's database keeps, and how durably the handle writes. -/
def pragmas (host : Host) (h : Handle) : Report (Journal × Durability) :=
  host.settle h.name (h.pragmas host.storage)

end Host

end DeliveryStore
