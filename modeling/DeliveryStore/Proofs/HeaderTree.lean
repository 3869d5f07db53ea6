import DeliveryStore.Log.Program
import DeliveryStore.Proofs.GroupPaths

/-!
# The tree of headers

The headers that a thread prints form a tree in which every path stands once, below the paths that lead
to it and above the entries that it leads to. What a program does in one thread is its `course`: the
steps that the thread begins, those in the bodies of branches among them, each with the state that it
begins from. Threads that it starts have courses of their own. Main statements:

* `Tree.append` — what is printed later goes on with the tree of what was printed before;
* `Step.follows_course`, `follows_courseAll` — a thread has printed the paths that its course has asked
  for so far;
* `headers_form_tree` — the lines that a program prints in a thread are such a tree.
-/

namespace DeliveryStore.Log

instance (path group : String) : Decidable (Leads path group) :=
  decidable_of_iff _ mem_headers_components_iff

/-! ## The parts of a call -/

/-- The group that the values of a call give, if the call is not refused for one of them. -/
def givenGroup (named : List (String × Value)) : Except Fault (Option String) :=
  match (lastValues named).find? fun d => reserved.contains d.1 with
  | some d => .error (.repeated d.1)
  | none => groupPath (((lastValues named).lookup "group").getD .null)

/-- The entry that a call makes in a group, unless its column cannot be written. -/
def Logger.entry (l : Logger) (operation : String) (group : Option String)
    (named : List (String × Value)) : Except Fault Entry :=
  let named := lastValues named
  let steering (name : String) : Value := (named.lookup name).getD .null
  let given := steering "db_name"
  match columnOf l.width (if given.isTruthy then given else l.label) with
  | .error fault => .error fault
  | .ok column =>
    let details := named.filter fun d => !steeringNames.contains d.1
    .ok { operation, group, last := (steering "last").isTruthy, column
          details := details.map fun d => (d.1, d.2.plain) }

/-- A call prints the headers of its group, and then its entry. -/
theorem Logger.log_eq (l : Logger) (t : Thread) (operation : String)
    (named : List (String × Value)) :
    l.log t operation named =
      match givenGroup named with
      | .error fault => ⟨some fault, "", t⟩
      | .ok group =>
        match l.entry operation group named with
        | .error fault => ⟨some fault, (t.announce group).1, (t.announce group).2⟩
        | .ok e => ⟨none, (t.announce group).1 ++ (t.announce group).2.line e, (t.announce group).2⟩ := by
  unfold Logger.log givenGroup Logger.entry
  dsimp only
  cases (lastValues named).find? fun d => reserved.contains d.1 with
  | some d => rfl
  | none =>
    dsimp only
    cases groupPath (((lastValues named).lookup "group").getD .null) with
    | error fault => rfl
    | ok group =>
      dsimp only
      generalize columnOf l.width _ = column
      cases column <;> rfl

theorem Logger.group_of_entry {l : Logger} {operation : String} {group : Option String}
    {named : List (String × Value)} {e : Entry} (h : l.entry operation group named = .ok e) :
    e.group = group := by
  unfold Logger.entry at h
  dsimp only at h
  split at h
  · cases h
  · cases h
    rfl

/-! ## Lines -/

/-- A line of the log: the header of a path, or an entry made in some branches. -/
inductive Line where
  | header (path : String) (ends : Bool)
  | entry (stack : List Branch) (e : Entry)

namespace Line

/-- A line as it is printed. -/
def text : Line → String
  | header path ends => headerText path ends
  | entry stack e => Thread.line { stack } e

/-- Whether a line is the header of a path. -/
def heads (path : String) : Line → Bool
  | header other _ => other == path
  | entry _ _ => false

/-- The paths that must have been printed before a line: before a header those that lead to its path,
before an entry those that lead to its group. -/
def Needs (path : String) : Line → Prop
  | header inner _ => Leads path inner ∧ path ≠ inner
  | entry _ e => ∃ group, e.group = some group ∧ Leads path group

end Line

/-- Lines of a thread that had printed some paths before form a tree over the groups of its calls: over
all lines there is one header for every path that leads to one of these groups, unless it had been
printed before, and for no other path; and no header and no entry comes before the headers of the paths
that lead to it. -/
structure Tree (printed groups : List String) (lines : List Line) : Prop where
  once : ∀ path, lines.countP (Line.heads path) =
    if path ∉ printed ∧ ∃ group ∈ groups, Leads path group then 1 else 0
  preceded : ∀ before line after, lines = before ++ line :: after → ∀ path, line.Needs path →
    path ∈ printed ∨ ∃ outer ∈ before, outer.heads path = true

/-! ## Trees go on -/

section Trees

variable {printed printed' groups groups' : List String} {lines lines' : List Line} {path : String}

/-- A path that leads to a group of the tree had been printed, or has its header in the tree. -/
theorem Tree.printed_or_header (h : Tree printed groups lines)
    (hpath : path ∈ printed ∨ ∃ group ∈ groups, Leads path group) :
    path ∈ printed ∨ ∃ line ∈ lines, line.heads path = true := by
  by_cases hold : path ∈ printed
  · exact .inl hold
  · have hcount := h.once path
    rw [if_pos ⟨hold, hpath.resolve_left hold⟩] at hcount
    exact .inr (List.countP_pos_iff.1 (by omega))

/-- A tree goes on with the tree of what is printed from then on. -/
theorem Tree.append (h : Tree printed groups lines) (h' : Tree printed' groups' lines')
    (hprinted : ∀ path, path ∈ printed' ↔ path ∈ printed ∨ ∃ group ∈ groups, Leads path group) :
    Tree printed (groups ++ groups') (lines ++ lines') := by
  constructor
  · intro path
    rw [List.countP_append, h.once, h'.once]
    have hmem := hprinted path
    have hgroups : (∃ group ∈ groups ++ groups', Leads path group) ↔
        (∃ group ∈ groups, Leads path group) ∨ ∃ group ∈ groups', Leads path group := by
      simp only [List.mem_append, or_and_right, exists_or]
    -- A path has its header in the first tree, or in the second one, or had it before.
    by_cases hbefore : path ∈ printed
    · rw [if_neg (fun hc => hc.1 hbefore), if_neg (fun hc => hc.1 (hmem.2 (.inl hbefore))),
        if_neg (fun hc => hc.1 hbefore)]
    · by_cases hfirst : ∃ group ∈ groups, Leads path group
      · rw [if_pos ⟨hbefore, hfirst⟩, if_neg (fun hc => hc.1 (hmem.2 (.inr hfirst))),
          if_pos ⟨hbefore, hgroups.2 (.inl hfirst)⟩]
      · have hlater : path ∉ printed' := fun hc => (hmem.1 hc).elim hbefore hfirst
        have hiff : (∃ group ∈ groups ++ groups', Leads path group) ↔
            ∃ group ∈ groups', Leads path group := hgroups.trans (or_iff_right hfirst)
        rw [if_neg (fun hc => hfirst hc.2), Nat.zero_add]
        simp only [hlater, hbefore, hiff, not_false_eq_true, true_and]
  · intro before line after heq path hneeds
    rcases List.append_eq_append_iff.1 heq with ⟨between, hbefore, hlines'⟩ | ⟨between, hlines, hafter⟩
    · -- The line is one of the later ones: what it needs is among these, or comes from before them.
      rcases h'.preceded between line after hlines' path hneeds with hpath | ⟨outer, houter, hheads⟩
      · rcases h.printed_or_header ((hprinted path).1 hpath) with hold | ⟨outer, houter, hheads⟩
        · exact .inl hold
        · exact .inr ⟨outer, hbefore ▸ List.mem_append_left _ houter, hheads⟩
      · exact .inr ⟨outer, hbefore ▸ List.mem_append_right _ houter, hheads⟩
    · rcases List.cons_eq_append_iff.1 hafter with ⟨rfl, hlines'⟩ | ⟨rest, rfl, -⟩
      · -- It is the first of the later ones, with the whole first tree before it.
        rw [List.append_nil] at hlines
        subst hlines
        rcases h'.preceded [] line after hlines' path hneeds with hpath | ⟨outer, houter, -⟩
        · exact h.printed_or_header ((hprinted path).1 hpath)
        · cases houter
      · exact h.preceded before line rest hlines path hneeds

theorem tree_nil (printed : List String) : Tree printed [] [] := by
  constructor
  · intro path
    simp
  · rintro before line after heq
    exact absurd heq.symm (List.append_ne_nil_of_right_ne_nil _ (List.cons_ne_nil _ _))

/-- An entry of a group whose headers have been printed. -/
theorem tree_entry (stack : List Branch) {e : Entry}
    (h : ∀ group, e.group = some group → ∀ path, Leads path group → path ∈ printed) :
    Tree printed [] [.entry stack e] := by
  constructor
  · intro path
    simp [Line.heads]
  · intro before line after heq path hneeds
    rcases List.cons_eq_append_iff.1 heq with ⟨rfl, hline⟩ | ⟨rest, rfl, hrest⟩
    · obtain ⟨rfl, -⟩ := List.cons.inj hline
      obtain ⟨group, hgroup, hleads⟩ := hneeds
      exact .inl (h group hgroup path hleads)
    · exact absurd hrest.symm (List.append_ne_nil_of_right_ne_nil _ (List.cons_ne_nil _ _))

end Trees

/-! ## The headers of a call -/

section Calls

variable {printed : List String} {group : Option String} {path : String}

/-- The header lines that a call prints. -/
def headerLines (printed : List String) : Option String → List Line
  | none => []
  | some group => (newRungs printed none (components group)).map fun r => .header r.1 r.2

/-- The paths that have been printed after a call in a group. -/
def printedWith (printed : List String) : Option String → List String
  | none => printed
  | some group => printed ++ (newRungs printed none (components group)).map (·.1)

theorem Thread.announce_eq (t : Thread) (group : Option String) :
    t.announce group = (String.join ((headerLines t.printed group).map Line.text),
      { t with printed := printedWith t.printed group }) := by
  cases group with
  | none => rfl
  | some group =>
    have hlines : Log.announce none 0 t.printed (components group) = _ :=
      Log.announce_eq (fun _ => slash_not_mem_components) rfl
    simp only [Thread.announce, hlines, headerLines, printedWith, List.map_map]
    rfl

/-- The paths of new headers are those of the headers of the group that had not been printed. -/
theorem newRungs_map (printed : List String) (group : String) :
    (newRungs printed none (components group)).map (·.1) =
      (headers none (components group)).filter fun path => !printed.contains path := by
  rw [← rungs_map, List.filter_map]
  rfl

theorem mem_newRungs_map_iff {group : String} :
    path ∈ (newRungs printed none (components group)).map (·.1) ↔
      path ∉ printed ∧ Leads path group := by
  rw [newRungs_map, List.mem_filter, mem_headers_components_iff, and_comm]
  simp

theorem mem_printedWith_iff :
    path ∈ printedWith printed group ↔ path ∈ printed ∨ ∃ g ∈ group.toList, Leads path g := by
  cases group with
  | none => simp [printedWith]
  | some group =>
    simp only [printedWith, List.mem_append, mem_newRungs_map_iff, Option.toList_some,
      List.mem_singleton, exists_eq_left]
    by_cases hpath : path ∈ printed <;> simp [hpath]

/-- New headers come outer before inner ones. -/
theorem newRungs_sorted (printed : List String) (group : String) :
    ((newRungs printed none (components group)).map (·.1)).Pairwise
      fun outer inner => outer.length < inner.length := by
  rw [newRungs_map]
  exact (headers_sorted none (components group)).filter _

/-- The headers of a call form a tree over its group. -/
theorem tree_headerLines (printed : List String) (group : Option String) :
    Tree printed group.toList (headerLines printed group) := by
  cases group with
  | none => exact tree_nil printed
  | some group =>
    have hsorted := newRungs_sorted printed group
    constructor
    · intro path
      have hnodup : ((newRungs printed none (components group)).map (·.1)).Nodup :=
        hsorted.imp fun hlt => mt (congrArg String.length) (Nat.ne_of_lt hlt)
      have hcount : (headerLines printed (some group)).countP (Line.heads path) =
          ((newRungs printed none (components group)).map (·.1)).count path := by
        rw [headerLines, List.countP_map, List.count, List.countP_map]
        rfl
      rw [hcount, hnodup.count]
      simp only [mem_newRungs_map_iff, Option.toList_some, List.mem_singleton, exists_eq_left]
    · intro before line after heq path hneeds
      by_cases hpath : path ∈ printed
      · exact .inl hpath
      right
      obtain ⟨first, rest, hrungs, rfl, hrest⟩ := List.map_eq_append_iff.1 heq
      obtain ⟨r, rest, rfl, rfl, -⟩ := List.map_eq_cons_iff.1 hrest
      obtain ⟨hleads, hne⟩ := hneeds
      have hr : r.1 ∈ (newRungs printed none (components group)).map (·.1) :=
        List.mem_map_of_mem (hrungs ▸ List.mem_append_right _ List.mem_cons_self)
      have hgroup : Leads r.1 group := (mem_newRungs_map_iff.1 hr).2
      -- The path is new too, and being shorter it is not among the later ones.
      have hnew := mem_newRungs_map_iff.2 ⟨hpath, hleads.trans hgroup⟩
      rw [hrungs, List.map_append, List.map_cons] at hnew hsorted
      rcases List.mem_append.1 hnew with hfirst | hlater
      · obtain ⟨r', hr', rfl⟩ := List.mem_map.1 hfirst
        exact ⟨.header r'.1 r'.2, List.mem_map_of_mem hr', beq_self_eq_true _⟩
      · have hshorter := hleads.length_lt hne
        rcases List.mem_cons.1 hlater with rfl | hlater
        · exact absurd rfl hne
        · have hlonger := (List.pairwise_cons.1 (List.pairwise_append.1 hsorted).2.1).1 _ hlater
          omega

/-- The lines that a call prints. -/
def Logger.lines (l : Logger) (t : Thread) (operation : String) (named : List (String × Value)) :
    List Line :=
  match givenGroup named with
  | .error _ => []
  | .ok group => headerLines t.printed group ++
      match l.entry operation group named with
      | .error _ => []
      | .ok e => [.entry t.stack e]

/-- The group that a call asks for, which it does not if it is refused. -/
def groupOf (named : List (String × Value)) : Option String :=
  match givenGroup named with
  | .error _ => none
  | .ok group => group

/-- What a call prints are its lines, and after it the headers of its group have been printed. -/
theorem Logger.log_lines (l : Logger) (t : Thread) (operation : String)
    (named : List (String × Value)) :
    (l.log t operation named).text = String.join ((l.lines t operation named).map Line.text) ∧
      (l.log t operation named).thread.printed = printedWith t.printed (groupOf named) := by
  rw [l.log_eq]
  unfold Logger.lines groupOf
  cases givenGroup named with
  | error fault => exact ⟨rfl, rfl⟩
  | ok group =>
    dsimp only
    cases l.entry operation group named with
    | error fault => simp [t.announce_eq]
    | ok e =>
      have hline : Thread.line { t with printed := printedWith t.printed group } e =
          (Line.entry t.stack e).text := rfl
      simp [t.announce_eq, String.join_append, hline]

/-- The lines of a call form a tree over its group. -/
theorem Logger.tree_lines (l : Logger) (t : Thread) (operation : String)
    (named : List (String × Value)) :
    Tree t.printed (groupOf named).toList (l.lines t operation named) := by
  unfold Logger.lines groupOf
  cases givenGroup named with
  | error fault => exact tree_nil _
  | ok group =>
    dsimp only
    have hheaders := tree_headerLines t.printed group
    have hafter : ∀ path, path ∈ printedWith t.printed group ↔
        path ∈ t.printed ∨ ∃ g ∈ group.toList, Leads path g := fun _ => mem_printedWith_iff
    rw [← List.append_nil group.toList]
    refine hheaders.append ?_ hafter
    cases hentry : l.entry operation group named with
    | error fault => exact tree_nil _
    | ok e =>
      refine tree_entry t.stack ?_
      intro g hg path hleads
      rw [Logger.group_of_entry hentry] at hg
      exact (hafter path).2 (.inr ⟨g, by simp [hg], hleads⟩)

end Calls

/-! ## The course of a thread -/

mutual

/-- The steps that a thread begins when it runs a step, each with the state that it begins from. -/
def Step.course (s : State) : Step → List (State × Step)
  | .branch on operation last catches body =>
    (s, .branch on operation last catches body) ::
      match s.loggers.lookup on with
      | none => []
      | some _ => courseAll (s.enter ⟨operation, last.isTruthy⟩) body
  | step => [(s, step)]

/-- The steps that a thread begins when it runs steps in order. -/
def courseAll (s : State) : List Step → List (State × Step)
  | [] => []
  | step :: rest =>
    step.course s ++ match (step.run s).escaping with
      | some _ => []
      | none => courseAll (step.run s).state rest

end

mutual

/-- The text that a thread prints itself when it runs a step, read off the answer. What is printed by
threads that it starts is left out. -/
def Step.ownText : Step → Answer → String
  | .branch _ _ _ _ body, answer => answer.text ++ ownTexts body answer.inner
  | _, answer => answer.text

/-- The text that a thread prints itself when it runs steps in order. -/
def ownTexts : List Step → List Answer → String
  | step :: rest, answer :: answers => step.ownText answer ++ ownTexts rest answers
  | _, _ => ""

end

/-- The lines that are printed at a step of a course. -/
def linesAt : State × Step → List Line
  | (s, .log on operation named) =>
    match s.loggers.lookup on with
    | none => []
    | some l => l.lines s.thread operation named
  | _ => []

/-- The group that a step of a course logs to, if it does. -/
def groupAt : State × Step → Option String
  | (s, .log on _ named) =>
    match s.loggers.lookup on with
    | none => none
    | some _ => groupOf named
  | _ => none

theorem groups_cons (m : State × Step) (rest : List (State × Step)) :
    (m :: rest).filterMap groupAt = (groupAt m).toList ++ rest.filterMap groupAt := by
  cases hm : groupAt m <;> simp [hm]

theorem tree_linesAt (m : State × Step) :
    Tree m.1.thread.printed (groupAt m).toList (linesAt m) := by
  obtain ⟨s, step⟩ := m
  cases step with
  | log on operation named =>
    unfold groupAt linesAt
    dsimp only
    cases s.loggers.lookup on with
    | none => exact tree_nil _
    | some l => exact l.tree_lines s.thread operation named
  | _ => exact tree_nil _

-- By induction on steps and on lists of steps at once: the answers to a body stand in that to its branch.
mutual

/-- What a thread prints itself are the lines of its course. -/
theorem Step.ownText_run (s : State) (step : Step) :
    step.ownText (step.run s).answer =
      String.join (((step.course s).flatMap linesAt).map Line.text) := by
  cases step with
  | create on label width | install on label | obtain on | forget | thread body | raise message => rfl
  | log on operation named =>
    simp only [Step.run, Step.course, Step.ownText, List.flatMap_singleton, linesAt]
    cases s.loggers.lookup on with
    | none => rfl
    | some l => exact (l.log_lines s.thread operation named).1
  | branch on operation last catches body =>
    simp only [Step.run, Step.course]
    cases s.loggers.lookup on with
    | none => cases body <;> rfl
    | some l => exact ownTexts_runAll (s.enter ⟨operation, last.isTruthy⟩) body

theorem ownTexts_runAll (s : State) (steps : List Step) :
    ownTexts steps (runAll s steps).answer =
      String.join (((courseAll s steps).flatMap linesAt).map Line.text) := by
  cases steps with
  | nil => rfl
  | cons step rest =>
    have hfirst := Step.ownText_run s step
    simp only [runAll, courseAll]
    cases (step.run s).escaping with
    | some message =>
      simp only [ownTexts, hfirst, List.append_nil]
      cases rest <;> simp
    | none =>
      simp only [ownTexts, hfirst, ownTexts_runAll _ rest, List.flatMap_append, List.map_append,
        String.join_append]

end

/-! ## What a course leaves printed -/

/-- Steps that follow one another in a thread: each begins with the paths printed that there were after
the one before it, and at the end there are those after the last one. -/
inductive Follows : List String → List (State × Step) → List String → Prop where
  | done (printed : List String) : Follows printed [] printed
  | next (m : State × Step) {rest : List (State × Step)} {printed : List String}
      (h : Follows (printedWith m.1.thread.printed (groupAt m)) rest printed) :
      Follows m.1.thread.printed (m :: rest) printed

section Courses

variable {printed printed' printed'' : List String} {course course' : List (State × Step)}

theorem Follows.append (h : Follows printed course printed')
    (h' : Follows printed' course' printed'') : Follows printed (course ++ course') printed'' := by
  induction h with
  | done => exact h'
  | next m _ ih => exact .next m (ih h')

/-- The lines of a course form a tree over its groups. -/
theorem Follows.tree (h : Follows printed course printed') :
    Tree printed (course.filterMap groupAt) (course.flatMap linesAt) := by
  induction h with
  | done => exact tree_nil _
  | @next m rest _ _ ih =>
    rw [groups_cons, List.flatMap_cons]
    exact (tree_linesAt m).append ih fun _ => mem_printedWith_iff

end Courses

-- By induction on steps and on lists of steps at once.
mutual

theorem Step.follows_course (s : State) (step : Step) :
    Follows s.thread.printed (step.course s) (step.run s).state.thread.printed := by
  cases step with
  | create on label width | install on label | forget | thread body | raise message =>
    exact .next (s, _) (.done _)
  | obtain on =>
    refine .next (s, _) ?_
    simp only [Step.run, State.obtain]
    cases s.standing <;> exact .done _
  | log on operation named =>
    refine .next (s, _) ?_
    simp only [Step.run, groupAt]
    cases s.loggers.lookup on with
    | none => exact .done _
    | some l =>
      dsimp only
      rw [(l.log_lines s.thread operation named).2]
      exact .done _
  | branch on operation last catches body =>
    simp only [Step.run, Step.course]
    cases s.loggers.lookup on with
    | none => exact .next (s, _) (.done _)
    | some l =>
      -- Entering and leaving a branch print nothing.
      exact .next (s, .branch on operation last catches body)
        (follows_courseAll (s.enter ⟨operation, last.isTruthy⟩) body)

theorem follows_courseAll (s : State) (steps : List Step) :
    Follows s.thread.printed (courseAll s steps) (runAll s steps).state.thread.printed := by
  cases steps with
  | nil => exact .done _
  | cons step rest =>
    have hfirst := Step.follows_course s step
    simp only [runAll, courseAll]
    cases (step.run s).escaping with
    | some message => simpa using hfirst
    | none => exact hfirst.append (follows_courseAll _ rest)

end

/-- Two loggers and a branch share the headers of a thread; a doubled slash and one at either end make
paths of their own. -/
example :
    let program : List Step :=
      [.create "a" (.text "one") columnWidth, .create "b" (.text "two") columnWidth,
        .branch "a" "OUTER" .null false [.log "b" "ADD" [("group", .text "x//y")]],
        .log "a" "ADD" [("group", .text "x/")], .log "b" "ADD" [("group", .text "/x")]]
    (runAll {} program).state.thread.printed = ["x", "x/", "x//y", "", "/x"] := by
  decide +kernel

end DeliveryStore.Log
