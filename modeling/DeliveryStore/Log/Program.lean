import DeliveryStore.Log.Logger

/-!
# Programs that log

A program is a list of steps that create loggers, log, enter branches, run in threads of their own
and raise errors. A raised error ends the list it is in and every branch around it, up to a branch
that catches it or to the thread it was raised in. Loggers are shared between threads; the branches
and the printed groups belong to one thread.
-/

namespace DeliveryStore.Log

/-- One step of a program. Loggers go by names of the program's own. -/
inductive Step where
  | create (on : String) (label : Value) (width : Int)
  | install (on : String) (label : Value)
  | obtain (on : String)
  | forget
  | log (on : String) (operation : String) (named : List (String × Value))
  | branch (on : String) (operation : String) (last : Value) (catches : Bool) (body : List Step)
  | thread (body : List Step)
  | raise (message : String)

instance : Inhabited Step := ⟨.forget⟩

/-- What one step comes to, its text and its thread apart. -/
inductive Outcome where
  | done
  | labelled (label : Value)
  | obtained (label : Value) (same : Bool)
  | fault (f : Fault)
  | raised (message : String)
  | noLogger (name : String)

/-- The answer to a step: what it came to, the text it printed itself, the thread after it, and the
answers to the steps inside it. -/
structure Answer where
  outcome : Outcome
  text : String := ""
  thread : Thread
  inner : List Answer := []

/-- All that steps share: the loggers by name, the standing logger of the package if there is one,
and the current thread. -/
structure State where
  loggers : List (String × Logger) := []
  standing : Option Logger := none
  thread : Thread := {}

namespace State

/-- Gives a logger a name, in place of the logger that had it. -/
def bind (s : State) (name : String) (l : Logger) : State :=
  { s with loggers := (name, l) :: s.loggers.filter (·.1 != name) }

/-- Makes a logger the standing one. -/
def stand (s : State) (l : Logger) : State := { s with standing := some l }

/-- The standing logger, which is an anonymous one if there was none. -/
def obtain (s : State) : Logger × State :=
  match s.standing with
  | some l => (l, s)
  | none =>
    let l := Logger.named .null columnWidth
    (l, s.stand l)

/-- Asking again for the standing logger changes nothing. -/
theorem obtain_obtain (s : State) : s.obtain.2.obtain = s.obtain := by
  cases h : s.standing <;> simp [obtain, h, stand]

/-- Enters a branch. -/
def enter (s : State) (b : Branch) : State :=
  { s with thread := { s.thread with stack := b :: s.thread.stack } }

/-- Leaves the innermost branch. -/
def leave (s : State) : State :=
  { s with thread := { s.thread with stack := s.thread.stack.tail } }

end State

/-- What running comes to: the answers, the state after, and the error that is on its way out. -/
structure Run (α : Type) where
  answer : α
  state : State
  escaping : Option String := none

mutual

/-- Runs one step. -/
def Step.run (s : State) : Step → Run Answer
  | .create on label width =>
    let l := Logger.named label width
    ⟨{ outcome := .labelled l.label, thread := s.thread }, s.bind on l, none⟩
  | .install on label =>
    let l := Logger.named label columnWidth
    ⟨{ outcome := .labelled l.label, thread := s.thread }, (s.stand l).bind on l, none⟩
  | .obtain on =>
    let (l, s) := s.obtain
    ⟨{ outcome := .obtained l.label s.standing.isSome, thread := s.thread }, s.bind on l, none⟩
  | .forget => ⟨{ outcome := .done, thread := s.thread }, { s with standing := none }, none⟩
  | .log on operation named =>
    match s.loggers.lookup on with
    | none => ⟨{ outcome := .noLogger on, thread := s.thread }, s, none⟩
    | some l =>
      let r := l.log s.thread operation named
      let outcome := match r.fault with
        | some f => .fault f
        | none => .done
      ⟨{ outcome, text := r.text, thread := r.thread }, { s with thread := r.thread }, none⟩
  | .branch on operation last catches body =>
    match s.loggers.lookup on with
    | none => ⟨{ outcome := .noLogger on, thread := s.thread }, s, none⟩
    | some _ =>
      let r := runAll (s.enter ⟨operation, last.isTruthy⟩) body
      let s := r.state.leave
      let outcome := match r.escaping with
        | some message => .raised message
        | none => .done
      ⟨{ outcome, thread := s.thread, inner := r.answer }, s,
        if catches then none else r.escaping⟩
  | .thread body =>
    let r := runAll { s with thread := {} } body
    let s := { r.state with thread := s.thread }
    ⟨{ outcome := .done, thread := s.thread, inner := r.answer }, s, none⟩
  | .raise message => ⟨{ outcome := .raised message, thread := s.thread }, s, some message⟩

/-- Runs steps in order, up to the first from which an error escapes. -/
def runAll (s : State) : List Step → Run (List Answer)
  | [] => ⟨[], s, none⟩
  | step :: rest =>
    let first := step.run s
    match first.escaping with
    | some message => ⟨[first.answer], first.state, some message⟩
    | none =>
      let others := runAll first.state rest
      ⟨first.answer :: others.answer, others.state, others.escaping⟩

end

/-- Entering a branch and leaving it gives the state back. -/
theorem State.leave_enter (s : State) (b : Branch) : (s.enter b).leave = s := rfl

end DeliveryStore.Log
