import DeliveryStore.Log.Program
import Mathlib.Logic.Function.Basic

/-!
# Threads in one memory

A thread keeps its branches and its printed groups in a cell of a memory that it shares with all other
threads, and so does every thread that it starts; the loggers have no cells, they are there for all.
`Step.exec` runs steps in such a memory: whoever runs looks up the cell of the current thread, and a
thread that has kept nothing yet begins with no branches and nothing printed. Main statements:

* `Step.exec_refines`, `execAll_refines` — a run in the memory is the run of its thread alone, and
  leaves the cells of all other threads as they were;
* `threads_apart` — what a new thread prints and answers does not depend on the thread that starts it,
  and nothing that it does can be seen in that thread.
-/

namespace DeliveryStore.Log

/-- The memory of all threads: the loggers, which they share, what each thread keeps, by its number, how
many threads have begun, and which one is running. -/
structure Memory where
  loggers : List (String × Logger) := []
  standing : Option Logger := none
  cells : Nat → Option Thread := fun _ => none
  begun : Nat := 1
  current : Nat := 0

namespace Memory

/-- What the current thread keeps: at first no branches and nothing printed. -/
def here (m : Memory) : Thread := (m.cells m.current).getD {}

/-- All that the current thread can see of the memory. -/
def view (m : Memory) : State := { loggers := m.loggers, standing := m.standing, thread := m.here }

/-- The memory after the current thread has brought about a state. -/
def keep (m : Memory) (s : State) : Memory :=
  { m with
    loggers := s.loggers, standing := s.standing
    cells := Function.update m.cells m.current (some s.thread) }

/-- A new thread begins and becomes the current one. -/
def fork (m : Memory) : Memory := { m with begun := m.begun + 1, current := m.begun }

/-- The current thread ends, and another one goes on. -/
def join (m : Memory) (number : Nat) : Memory := { m with current := number }

@[simp] theorem view_keep (m : Memory) (s : State) : (m.keep s).view = s := by
  simp [view, keep, here]

@[simp] theorem here_keep (m : Memory) (s : State) : (m.keep s).here = s.thread := by
  simp [keep, here]

@[simp] theorem loggers_view (m : Memory) : m.view.loggers = m.loggers := rfl

end Memory

/-- What running in a memory comes to: the answers, the memory after, and the error that is on its way
out. -/
structure Pass (α : Type) where
  answer : α
  memory : Memory
  escaping : Option String := none

/-- What a branch comes to by the error that is on its way out of its body. -/
def Outcome.ofBody : Option String → Outcome
  | none => .done
  | some message => .raised message

mutual

/-- Runs one step in the current thread of a memory. -/
def Step.exec (m : Memory) : Step → Pass Answer
  | .branch on operation last catches body =>
    match m.loggers.lookup on with
    | none => ⟨{ outcome := .noLogger on, thread := m.here }, m, none⟩
    | some _ =>
      let r := execAll (m.keep (m.view.enter ⟨operation, last.isTruthy⟩)) body
      let m := r.memory.keep r.memory.view.leave
      ⟨{ outcome := .ofBody r.escaping, thread := m.here, inner := r.answer }, m,
        if catches then none else r.escaping⟩
  | .thread body =>
    let r := execAll m.fork body
    let m := r.memory.join m.current
    ⟨{ outcome := .done, thread := m.here, inner := r.answer }, m, none⟩
  | step =>
    let r := step.run m.view
    ⟨r.answer, m.keep r.state, r.escaping⟩

/-- Runs steps in order in the current thread, up to the first from which an error escapes. -/
def execAll (m : Memory) : List Step → Pass (List Answer)
  | [] => ⟨[], m, none⟩
  | step :: rest =>
    let first := step.exec m
    match first.escaping with
    | some message => ⟨[first.answer], first.memory, some message⟩
    | none =>
      let others := execAll first.memory rest
      ⟨first.answer :: others.answer, others.memory, others.escaping⟩

end

/-! ## Whose cells a run touches -/

namespace Memory

variable {m m' m'' : Memory}

/-- The current thread is one of those that have begun, and threads that have not begun keep nothing. -/
structure Sound (m : Memory) : Prop where
  current : m.current < m.begun
  fresh : ∀ i, m.begun ≤ i → m.cells i = none

/-- A memory after a run of the current thread: the thread is current again, and of the threads that had
begun before no other one has had its cell changed. -/
structure Spares (m m' : Memory) : Prop where
  sound : m'.Sound
  current : m'.current = m.current
  begun : m.begun ≤ m'.begun
  others : ∀ i, i < m.begun → i ≠ m.current → m'.cells i = m.cells i

/-- At first one thread has begun, and keeps nothing. -/
theorem sound_initial : ({} : Memory).Sound := ⟨Nat.zero_lt_one, fun _ _ => rfl⟩

theorem Sound.spares (h : m.Sound) : m.Spares m where
  sound := h
  current := rfl
  begun := Nat.le_refl _
  others _ _ _ := rfl

theorem Spares.trans (h : m.Spares m') (h' : m'.Spares m'') : m.Spares m'' where
  sound := h'.sound
  current := h'.current.trans h.current
  begun := Nat.le_trans h.begun h'.begun
  others i hi hne := by
    have hlater : i < m'.begun := Nat.lt_of_lt_of_le hi h.begun
    have hother : i ≠ m'.current := h.current ▸ hne
    rw [h'.others i hlater hother, h.others i hi hne]

/-- What the current thread keeps goes to its own cell. -/
theorem Sound.keep (h : m.Sound) (s : State) : m.Spares (m.keep s) where
  sound := by
    constructor
    · exact h.current
    · intro i hi
      have hcurrent := h.current
      have hi' : m.begun ≤ i := hi
      have hne : i ≠ m.current := by omega
      show Function.update m.cells m.current (some s.thread) i = none
      rw [Function.update_of_ne hne, h.fresh i hi']
  current := rfl
  begun := Nat.le_refl _
  others i _ hne := Function.update_of_ne hne _ _

theorem Sound.fork (h : m.Sound) : m.fork.Sound where
  current := Nat.lt_succ_self _
  fresh i hi := h.fresh i (Nat.le_of_succ_le hi)

/-- A new thread begins with no branches and nothing printed. -/
theorem Sound.view_fork (h : m.Sound) :
    m.fork.view = { loggers := m.loggers, standing := m.standing } := by
  have hcell : m.fork.cells m.fork.current = none := h.fresh m.begun (Nat.le_refl _)
  simp only [view, here, hcell]
  rfl

/-- When a new thread has ended, every thread that had begun before keeps what it kept. -/
theorem Spares.cells_of_fork (h : m.fork.Spares m') {i : Nat} (hi : i < m.begun) :
    m'.cells i = m.cells i := by
  refine h.others i (Nat.lt_succ_of_lt hi) ?_
  have hcurrent : m.fork.current = m.begun := rfl
  omega

theorem Spares.join (hm : m.Sound) (h : m.fork.Spares m') : m.Spares (m'.join m.current) where
  sound := by
    have hbegun : m.begun + 1 ≤ m'.begun := h.begun
    have hcurrent := hm.current
    constructor
    · show m.current < m'.begun
      omega
    · exact h.sound.fresh
  current := rfl
  begun := Nat.le_of_succ_le h.begun
  others _ hi _ := h.cells_of_fork hi

/-- The thread that goes on finds what it kept, and the loggers as the new thread left them. -/
theorem Spares.view_join (hm : m.Sound) (h : m.fork.Spares m') :
    (m'.join m.current).view = { m'.view with thread := m.here } := by
  have hcell := h.cells_of_fork hm.current
  simp only [view, here, Memory.join, hcell]

end Memory

/-! ## Runs in the memory -/

/-- A run in a memory that comes to what the run of the current thread alone comes to, and spares the
cells of all other threads. -/
structure Refines {α : Type} (m : Memory) (p : Pass α) (r : Run α) : Prop where
  answer : p.answer = r.answer
  state : p.memory.view = r.state
  escaping : p.escaping = r.escaping
  spares : m.Spares p.memory

-- By induction on steps and on lists of steps at once: branches and threads run the list in them.
mutual

/-- A step in a memory comes to what the step of the current thread alone comes to. -/
theorem Step.exec_refines (m : Memory) (hm : m.Sound) (step : Step) :
    Refines m (step.exec m) (step.run m.view) := by
  cases step with
  | create on label width | install on label | obtain on | forget | log on operation named
  | raise message => exact ⟨rfl, m.view_keep _, rfl, hm.keep _⟩
  | branch on operation last catches body =>
    simp only [Step.exec, Step.run, m.loggers_view]
    cases m.loggers.lookup on with
    | none => exact ⟨rfl, rfl, rfl, hm.spares⟩
    | some l =>
      have hentered := hm.keep (m.view.enter ⟨operation, last.isTruthy⟩)
      have hbody := execAll_refines _ hentered.sound body
      rw [Memory.view_keep] at hbody
      constructor
      · simp only [Memory.here_keep, hbody.answer, hbody.state, hbody.escaping]
        cases (runAll (m.view.enter ⟨operation, last.isTruthy⟩) body).escaping <;> rfl
      · simp only [Memory.view_keep, hbody.state]
      · simp only [hbody.escaping]
      · -- The branch is entered and left in the cell of the thread, which the body leaves current.
        exact (hentered.trans hbody.spares).trans (hbody.spares.sound.keep _)
  | thread body =>
    have hbody := execAll_refines _ hm.fork body
    rw [hm.view_fork] at hbody
    have hview := hbody.spares.view_join hm
    have hhere : ((execAll m.fork body).memory.join m.current).here = m.here :=
      congrArg State.thread hview
    simp only [Step.exec, Step.run]
    constructor
    · simp only [hhere, hbody.answer]
      rfl
    · simp only [hview, hbody.state]
      rfl
    · rfl
    · exact hbody.spares.join hm

/-- Steps in a memory come to what the steps of the current thread alone come to. -/
theorem execAll_refines (m : Memory) (hm : m.Sound) (steps : List Step) :
    Refines m (execAll m steps) (runAll m.view steps) := by
  cases steps with
  | nil => exact ⟨rfl, rfl, rfl, hm.spares⟩
  | cons step rest =>
    have hfirst := Step.exec_refines m hm step
    simp only [execAll, runAll, ← hfirst.escaping]
    cases (step.exec m).escaping with
    | some message =>
      exact ⟨congrArg ([·]) hfirst.answer, hfirst.state, rfl, hfirst.spares⟩
    | none =>
      have hrest := execAll_refines _ hfirst.spares.sound rest
      rw [hfirst.state] at hrest
      refine ⟨?_, hrest.state, hrest.escaping, hfirst.spares.trans hrest.spares⟩
      simp only [hfirst.answer, hrest.answer]

end

/-! ## New threads -/

/-- A new thread that a thread of a memory has started and waited for: its answers are those of a run
that begins with no branches and nothing printed, the loggers are as that run leaves them, and every
thread that had begun, the one that started it among them, keeps what it kept. No error comes out. -/
structure Apart (m : Memory) (alone : Run (List Answer)) (p : Pass Answer) : Prop where
  answers : p.answer.inner = alone.answer
  loggers : p.memory.loggers = alone.state.loggers
  standing : p.memory.standing = alone.state.standing
  current : p.memory.current = m.current
  cells : ∀ i < m.begun, p.memory.cells i = m.cells i
  here : p.answer.thread = m.here ∧ p.memory.here = m.here
  ended : p.escaping = none

theorem Memory.Sound.apart {m : Memory} (hm : m.Sound) (body : List Step) :
    Apart m (runAll { loggers := m.loggers, standing := m.standing } body)
      ((Step.thread body).exec m) := by
  have hbody := execAll_refines _ hm.fork body
  rw [hm.view_fork] at hbody
  have hview := hbody.spares.view_join hm
  rw [hbody.state] at hview
  have hhere : ((execAll m.fork body).memory.join m.current).here = m.here :=
    congrArg State.thread hview
  constructor
  · exact hbody.answer
  · exact congrArg State.loggers hview
  · exact congrArg State.standing hview
  · rfl
  · intro i hi
    exact hbody.spares.cells_of_fork hi
  · exact ⟨hhere, hhere⟩
  · rfl

/-- Whatever two threads have been doing that have the same loggers, a new thread prints and answers the
same whether the one or the other starts it, namely what it does alone with no branches and nothing
printed; and the thread that started it finds its own branches and printed groups as they were, however
the new thread ended. That all threads have one memory cannot be seen: the step comes to what it comes
to for the thread alone that starts it. -/
theorem threads_apart {m₁ m₂ : Memory} (h₁ : m₁.Sound) (h₂ : m₂.Sound)
    (hloggers : m₁.loggers = m₂.loggers) (hstanding : m₁.standing = m₂.standing)
    (body : List Step) :
    let alone := runAll { loggers := m₁.loggers, standing := m₁.standing } body
    let p₁ := (Step.thread body).exec m₁
    let p₂ := (Step.thread body).exec m₂
    Apart m₁ alone p₁ ∧ Apart m₂ alone p₂ ∧
      Refines m₁ p₁ ((Step.thread body).run m₁.view) ∧
      Refines m₂ p₂ ((Step.thread body).run m₂.view) := by
  intro alone p₁ p₂
  refine ⟨h₁.apart body, ?_, Step.exec_refines m₁ h₁ _, Step.exec_refines m₂ h₂ _⟩
  have hsame : alone = runAll { loggers := m₂.loggers, standing := m₂.standing } body := by
    rw [← hloggers, ← hstanding]
  rw [hsame]
  exact h₂.apart body

/-- A thread that starts another one in a branch ends in an error, started once by a thread in a branch
that has printed a group and once by one that has done nothing. -/
theorem threads_apart_of_raise :
    let loggers := [("main", Logger.named (.text "db") columnWidth)]
    let busy := ({} : Memory).keep
      { loggers, thread := { stack := [⟨"OUTSIDE", true⟩], printed := ["a"] } }
    let idle := ({} : Memory).keep { loggers }
    let body : List Step :=
      [.log "main" "ADD" [("group", .text "a/b")],
        .branch "main" "INSIDE" .null false [.thread [.log "main" "APART" []], .raise "gone"],
        .log "main" "NEVER" []]
    let alone := runAll { loggers } body
    busy.Sound ∧ idle.Sound ∧ busy.loggers = idle.loggers ∧ busy.standing = idle.standing ∧
      busy.here ≠ idle.here ∧ alone.escaping = some "gone" ∧
      Apart busy alone ((Step.thread body).exec busy) ∧
      Apart idle alone ((Step.thread body).exec idle) ∧
      Refines busy ((Step.thread body).exec busy) ((Step.thread body).run busy.view) ∧
      Refines idle ((Step.thread body).exec idle) ((Step.thread body).run idle.view) := by
  intro loggers busy idle body alone
  have hbusy : busy.Sound := (Memory.sound_initial.keep _).sound
  have hidle : idle.Sound := (Memory.sound_initial.keep _).sound
  have hdiffer : busy.here ≠ idle.here := by decide
  have hraised : alone.escaping = some "gone" := rfl
  exact ⟨hbusy, hidle, rfl, rfl, hdiffer, hraised, threads_apart hbusy hidle rfl rfl body⟩

end DeliveryStore.Log
