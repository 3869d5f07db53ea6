import DeliveryStore.Proofs.HeaderTree

/-!
# Strokes of branches

An entry without a group hangs from the innermost branch, whose operation stands behind the stroke. The
stroke is that of the entry: it is the corner if the entry is announced as the last one, and says nothing
of whether the branch was. A program in which the branches are announced otherwise prints the same.
Main statements:

* `text_in_branch` — what an entry prints that hangs from a branch;
* `Step.run_unmarked`, `runAll_unmarked` — runs with and without the marks of the branches;
* `marks_unseen` — programs that differ in the marks of their branches print the same.
-/

namespace DeliveryStore.Log

/-! ## The stroke in front of a branch -/

/-- A line behind what stands in front of it. -/
def Entry.remainder (e : Entry) : String :=
  " | " ++ Colour.green.paint e.column ++ " | " ++ (colourOf e.operation).paint e.operation ++
    String.join (e.details.map detailText) ++ "\n"

theorem Thread.line_eq_lead (t : Thread) (e : Entry) :
    t.line e = t.lead e.group e.last ++ e.remainder := by
  simp only [line, Entry.remainder, String.append_assoc]

/-- An entry is announced as the last one by a value of its own. -/
theorem Logger.last_of_entry {l : Logger} {operation : String} {group : Option String}
    {named : List (String × Value)} {e : Entry} (h : l.entry operation group named = .ok e) :
    e.last = (((lastValues named).lookup "last").getD .null).isTruthy := by
  unfold Logger.entry at h
  dsimp only at h
  split at h
  · cases h
  · cases h
    rfl

/-- An entry without a group that is made in branches prints one line: a rail for each of the outer
branches, the stroke that its own values ask for, and the operation of the innermost branch. -/
theorem text_in_branch {s : State} {innermost : Branch} {outer : List Branch}
    {on operation : String} {named : List (String × Value)} {l : Logger} {e : Entry}
    (hstack : s.thread.stack = innermost :: outer) (hl : s.loggers.lookup on = some l)
    (hgroup : givenGroup named = .ok none) (he : l.entry operation none named = .ok e) :
    ((Step.log on operation named).run s).answer.text =
      repeated outer.length rail ++
        stroke (((lastValues named).lookup "last").getD .null).isTruthy ++
        innermost.operation ++ e.remainder := by
  have hline : (s.thread.announce none).1 ++ (s.thread.announce none).2.line e =
      repeated outer.length rail ++ stroke e.last ++ innermost.operation ++ e.remainder := by
    rw [Thread.line_eq_lead, Logger.group_of_entry he]
    simp [Thread.announce, Thread.lead, hstack]
  simp only [Step.run, hl, l.log_eq, hgroup, he, hline, Logger.last_of_entry he]

/-! ## Programs without marks -/

def Branch.unmarked (b : Branch) : Branch := { b with last := false }

/-- A thread whose branches are not announced as the last ones. -/
def Thread.unmarked (t : Thread) : Thread := { t with stack := t.stack.map Branch.unmarked }

def State.unmarked (s : State) : State := { s with thread := s.thread.unmarked }

theorem State.obtain_unmarked (s : State) : s.unmarked.obtain = (s.obtain.1, s.obtain.2.unmarked) := by
  obtain ⟨loggers, standing, thread⟩ := s
  cases standing <;> rfl

mutual

/-- A step that announces no branch as the last one. -/
def Step.unmarked : Step → Step
  | .branch on operation _ catches body =>
    .branch on operation (.bool false) catches (unmarkedAll body)
  | .thread body => .thread (unmarkedAll body)
  | step => step

def unmarkedAll : List Step → List Step
  | [] => []
  | step :: rest => step.unmarked :: unmarkedAll rest

end

mutual

/-- An answer but for the marks of the branches in the threads that it shows. -/
def Answer.unmarked : Answer → Answer
  | ⟨outcome, text, thread, inner⟩ => ⟨outcome, text, thread.unmarked, Answer.unmarkedAll inner⟩

def Answer.unmarkedAll : List Answer → List Answer
  | [] => []
  | answer :: rest => answer.unmarked :: Answer.unmarkedAll rest

end

/-- A call does the same in a thread without marks. -/
theorem Logger.log_unmarked (l : Logger) (t : Thread) (operation : String)
    (named : List (String × Value)) :
    l.log t.unmarked operation named =
      { l.log t operation named with thread := (l.log t operation named).thread.unmarked } := by
  have hline : ∀ (t : Thread) (e : Entry), t.unmarked.line e = t.line e := by
    intro t e
    have hlead : t.unmarked.lead e.group e.last = t.lead e.group e.last := by
      cases hgroup : e.group with
      | some group => rfl
      | none =>
        cases hstack : t.stack <;> simp [Thread.lead, Thread.unmarked, Branch.unmarked, hstack]
    rw [t.line_eq_lead, ← hlead, t.unmarked.line_eq_lead]
  have hannounce : ∀ group, t.unmarked.announce group =
      ((t.announce group).1, (t.announce group).2.unmarked) := by
    intro group
    cases group <;> rfl
  rw [l.log_eq, l.log_eq]
  cases givenGroup named with
  | error fault => rfl
  | ok group =>
    dsimp only
    rw [hannounce]
    cases l.entry operation group named with
    | error fault => rfl
    | ok e => simp only [hline]

-- By induction on steps and on lists of steps at once.
mutual

/-- A step without marks does what the step does, but for the marks. -/
theorem Step.run_unmarked (s : State) (step : Step) :
    step.unmarked.run s.unmarked =
      ⟨(step.run s).answer.unmarked, (step.run s).state.unmarked, (step.run s).escaping⟩ := by
  cases step with
  | create on label width | install on label | forget | raise message => rfl
  | obtain on =>
    simp only [Step.unmarked, Step.run, s.obtain_unmarked]
    rfl
  | log on operation named =>
    simp only [Step.unmarked, Step.run, State.unmarked]
    cases s.loggers.lookup on with
    | none => rfl
    | some l =>
      simp only [l.log_unmarked]
      rfl
  | branch on operation last catches body =>
    simp only [Step.unmarked, Step.run]
    have hloggers : s.unmarked.loggers = s.loggers := rfl
    rw [hloggers]
    cases s.loggers.lookup on with
    | none => rfl
    | some l =>
      have hbody := runAll_unmarked (s.enter ⟨operation, last.isTruthy⟩) body
      have henter : (s.enter ⟨operation, last.isTruthy⟩).unmarked =
          s.unmarked.enter ⟨operation, (Value.bool false).isTruthy⟩ := rfl
      have hleave : ∀ s : State, s.unmarked.leave = s.leave.unmarked := by
        intro s
        simp [State.unmarked, State.leave, Thread.unmarked]
      rw [henter] at hbody
      simp only [hbody, hleave]
      rfl
  | thread body =>
    have hbody := runAll_unmarked { s with thread := {} } body
    have hbegins : State.unmarked { s with thread := {} } = { s.unmarked with thread := {} } := rfl
    rw [hbegins] at hbody
    simp only [Step.unmarked, Step.run, hbody]
    rfl

/-- Steps without marks do what the steps do, but for the marks. -/
theorem runAll_unmarked (s : State) (steps : List Step) :
    runAll s.unmarked (unmarkedAll steps) =
      ⟨Answer.unmarkedAll (runAll s steps).answer, (runAll s steps).state.unmarked,
        (runAll s steps).escaping⟩ := by
  cases steps with
  | nil => rfl
  | cons step rest =>
    simp only [unmarkedAll, runAll, Step.run_unmarked s step]
    cases (step.run s).escaping with
    | some message => rfl
    | none =>
      simp only [runAll_unmarked _ rest]
      rfl

end

/-- Programs that differ in nothing but the marks of their branches, run from states that differ in
nothing else, come to the same answers with the same texts, but for the marks in the threads that these
show; and they print the same headers and raise the same errors. -/
theorem marks_unseen {s s' : State} {program program' : List Step}
    (hstate : s.unmarked = s'.unmarked) (hprogram : unmarkedAll program = unmarkedAll program') :
    let r := runAll s program
    let r' := runAll s' program'
    Answer.unmarkedAll r.answer = Answer.unmarkedAll r'.answer ∧
      r.state.unmarked = r'.state.unmarked ∧ r.escaping = r'.escaping := by
  have hrun := runAll_unmarked s program
  rw [hstate, hprogram, runAll_unmarked s' program'] at hrun
  obtain ⟨hanswer, hafter, hescaping⟩ := Run.mk.inj hrun
  exact ⟨hanswer.symm, hafter.symm, hescaping.symm⟩

/-- The entry in a branch that was entered as the last one has the stroke of one that is not the last. -/
theorem last_branch_has_no_corner :
    let s : State := { loggers := [("main", Logger.named (.text "client") columnWidth)] }
    let program (last : Bool) : List Step :=
      [.branch "main" "INIT" (.bool last) false [.log "main" "CREATE_ALL" []]]
    let text (last : Bool) := ownTexts (program last) (runAll s (program last)).answer
    text true = text false ∧ (stroke false ++ "INIT").toList <+: (text true).toList ∧
      ¬ (stroke true ++ "INIT").toList <+: (text true).toList := by
  decide +kernel

end DeliveryStore.Log
