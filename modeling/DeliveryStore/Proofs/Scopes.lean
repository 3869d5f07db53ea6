import DeliveryStore.Log.Program

/-!
# Scopes of the log

Whatever a program of the log does, each of its steps leaves the thread in the branches in which it
found it, and while the body of a branch runs the thread is in that branch and in those around it.
`starts` gives the states that the steps of a list are run from, `Visits` goes on into the bodies of
branches and threads. Main statements:

* `answer_runAll` — the steps of `starts` are those that a run has answers to;
* `Step.stack_run`, `stack_runAll` — a step and a list of steps leave the branches as they were;
* `scopes_balanced` — every step of a program, however deep, runs in the branches that are around it
  in the program, and leaves the thread in them.
-/

namespace DeliveryStore.Log

/-- The steps that are run when a list is run, each with the state that it is run from. -/
def starts (s : State) : List Step → List (State × Step)
  | [] => []
  | step :: rest =>
    (s, step) :: match (step.run s).escaping with
      | some _ => []
      | none => starts (step.run s).state rest

/-- The answers of a run are those to the steps that it starts. -/
theorem answer_runAll (s : State) (steps : List Step) :
    (runAll s steps).answer = (starts s steps).map fun u => (u.2.run u.1).answer := by
  induction steps generalizing s with
  | nil => rfl
  | cons step rest ih =>
    simp only [runAll, starts]
    cases (step.run s).escaping with
    | some message => rfl
    | none => exact congrArg _ (ih _)

/-- A step that is run somewhere in a program, with the branches that are around it in the program
and in which the thread is that runs it, innermost first, and the state that it is run from. -/
inductive Visits (s : State) (program : List Step) : List Branch → State → Step → Prop where
  | directly {t : State} {step : Step} (h : (t, step) ∈ starts s program) :
      Visits s program s.thread.stack t step
  | inBranch {around : List Branch} {t u : State} {on operation : String} {last : Value}
      {catches : Bool} {body : List Step} {l : Logger} {step : Step}
      (hb : Visits s program around t (.branch on operation last catches body))
      (hl : t.loggers.lookup on = some l)
      (h : (u, step) ∈ starts (t.enter ⟨operation, last.isTruthy⟩) body) :
      Visits s program (⟨operation, last.isTruthy⟩ :: around) u step
  | inThread {around : List Branch} {t u : State} {body : List Step} {step : Step}
      (hb : Visits s program around t (.thread body))
      (h : (u, step) ∈ starts { t with thread := {} } body) : Visits s program [] u step

/-! ## Steps leave the branches as they were -/

/-- The thread that a step shows is the one that it leaves. -/
theorem Step.thread_answer (s : State) (step : Step) :
    (step.run s).answer.thread = (step.run s).state.thread := by
  cases step with
  | log on operation named | branch on operation last catches body =>
    simp only [Step.run]
    split <;> rfl
  | create on label width | install on label | obtain on | forget | thread body | raise message => rfl

-- By induction on steps and on lists of steps at once: a branch runs the list that is its body.
mutual

/-- A step leaves the branches of the thread as they were, whatever it comes to. -/
theorem Step.stack_run (s : State) (step : Step) :
    (step.run s).state.thread.stack = s.thread.stack := by
  cases step with
  | create on label width | install on label | forget | thread body | raise message => rfl
  | obtain on =>
    simp only [Step.run, State.obtain]
    split <;> rfl
  | log on operation named =>
    simp only [Step.run]
    split
    · rfl
    · rename_i l _
      exact l.log_stack s.thread operation named
  | branch on operation last catches body =>
    simp only [Step.run]
    split
    · rfl
    · -- What the body leaves is the branch on top of what was there, and the branch is taken off.
      exact congrArg List.tail (stack_runAll (s.enter ⟨operation, last.isTruthy⟩) body)

/-- Steps leave the branches of the thread as they were, whether or not an error ends them. -/
theorem stack_runAll (s : State) (steps : List Step) :
    (runAll s steps).state.thread.stack = s.thread.stack := by
  cases steps with
  | nil => rfl
  | cons step rest =>
    have hfirst := Step.stack_run s step
    simp only [runAll]
    split
    · exact hfirst
    · exact (stack_runAll _ rest).trans hfirst

end

/-- Every step of a list is run from the branches that the list is run from. -/
theorem stack_of_starts {s t : State} {steps : List Step} {step : Step}
    (h : (t, step) ∈ starts s steps) : t.thread.stack = s.thread.stack := by
  induction steps generalizing s with
  | nil => cases h
  | cons first rest ih =>
    simp only [starts, List.mem_cons] at h
    rcases h with h | h
    · cases h
      rfl
    · split at h
      · cases h
      · exact (ih h).trans (first.stack_run s)

/-- Whatever branches are around a step in a program, in these the thread is when the step begins,
and in these it is after it, whether the step ends well, with a fault of its own or with an error on
its way out; a branch begins every step of its body one branch further in. Outside all branches of
the program the thread is in those in which the program began, in a thread of the program in none. -/
theorem scopes_balanced {s t : State} {program : List Step} {around : List Branch} {step : Step}
    (h : Visits s program around t step) :
    t.thread.stack = around ∧ (step.run t).state.thread.stack = around ∧
      (step.run t).answer.thread.stack = around ∧
      ∀ on operation last catches body, step = .branch on operation last catches body →
        ∀ u ∈ starts (t.enter ⟨operation, last.isTruthy⟩) body,
          u.1.thread.stack = ⟨operation, last.isTruthy⟩ :: around := by
  -- By induction on where the step is in the program, each step of a body being run from the
  -- branches that the body is run from.
  have hbegins : t.thread.stack = around := by
    induction h with
    | directly h => exact stack_of_starts h
    | inBranch hb hl h ih => exact (stack_of_starts h).trans (congrArg _ ih)
    | inThread hb h ih => exact stack_of_starts h
  refine ⟨hbegins, ?_, ?_, ?_⟩
  · exact (step.stack_run t).trans hbegins
  · rw [step.thread_answer t]
    exact (step.stack_run t).trans hbegins
  · rintro on operation last catches body rfl u hu
    exact (stack_of_starts hu).trans (congrArg _ hbegins)

/-- An error passes through a branch that is inside another one, in a thread that was in a branch
before the program began; before it a step had a fault of its own, and a thread ended in an error. -/
theorem scopes_balanced_of_raise :
    let s : State :=
      { loggers := [("main", Logger.named (.text "db") columnWidth)]
        thread := { stack := [⟨"OUTSIDE", false⟩] } }
    let body : List Step := [.thread [.branch "main" "APART" .null false [.raise "first"]],
      .raise "second", .log "main" "NEVER" []]
    let inner : Step := .branch "main" "INNER" (.text "yes") false body
    let outer : Step :=
      .branch "main" "OUTER" (.int 0) true [.log "main" "FAULTY" [("group", .int 3)], inner]
    let around : List Branch := [⟨"OUTER", false⟩, ⟨"OUTSIDE", false⟩]
    ∃ t, Visits s [outer] around t inner ∧ (inner.run t).escaping = some "second" ∧
      t.thread.stack = around ∧ (inner.run t).state.thread.stack = around ∧
      (inner.run t).answer.thread.stack = around ∧
      ∀ u ∈ starts (t.enter ⟨"INNER", true⟩) body, u.1.thread.stack = ⟨"INNER", true⟩ :: around := by
  intro s body inner outer around
  have houter : Visits s [outer] s.thread.stack s outer := .directly (.head _)
  have hvisits : Visits s [outer] around (s.enter ⟨"OUTER", false⟩) inner :=
    houter.inBranch rfl (.tail _ (.head _))
  obtain ⟨hbegins, hends, hshows, hbody⟩ := scopes_balanced hvisits
  exact ⟨_, hvisits, rfl, hbegins, hends, hshows, hbody _ _ _ _ _ rfl⟩

end DeliveryStore.Log
