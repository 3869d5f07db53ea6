import DeliveryStore.CommandLine

/-!
# Sessions

A session is a list of steps on one host: databases are opened under names, used and closed, the
clock is set, files are made and looked for, command lines are run. A step that fails does not keep
the next one from running. `Session.run` gives the answers and the session after them.
-/

namespace DeliveryStore

/-- A host, and the databases that are open in it by name. -/
structure Session where
  host : Host := {}
  handles : List (String × Handle) := []

/-- One step of a session. -/
inductive Step where
  | opening (on : String) (o : Opening)
  | initialise (on : String)
  | close (on : String)
  | call (on : String) (c : Call)
  | dump (on : String)
  | schema (on : String)
  | pragmas (on : String)
  | clock (now : Moment)
  | makeDirectory (path : String)
  | writeText (path text : String)
  | look (path : String)
  | command (words : List String)

/-- What a step gives when it succeeds. -/
inductive Result where
  | nothing
  | opened (name : Option String) (inMemory : Bool) (durability : Durability)
  | reply (r : Reply Row)
  | dumped (tables : List (String × List (List String)))
  | schema (tables : List (String × Layout))
  | pragmas (journal : Journal) (durability : Durability)
  | found (what : Option Node)

/-- What a step comes to. -/
inductive Outcome where
  | done (r : Result)
  | failed (f : Failure)
  | noHandle (name : String)
  | exited (e : CommandLine.Exit)

/-- The answer to a step: what it came to, and what it printed. -/
structure Answer where
  outcome : Outcome
  text : String := ""

namespace Answer

/-- The answer that has nothing to say. -/
def nothing : Answer := { outcome := .done .nothing }

/-- The answer of a step that failed and printed nothing. -/
def refused (f : Failure) : Answer := { outcome := .failed f }

end Answer

namespace Session

/-- A session that begins in an environment. -/
def start (environment : List (String × String)) : Session :=
  { host := { settings := Settings.ofEnvironment environment } }

/-- Takes in a report: its host, and its outcome and text as an answer. -/
def take {α : Type} (s : Session) (r : Report α) (result : α → Result) : Answer × Session :=
  let outcome := match r.outcome with
    | .ok a => .done (result a)
    | .error f => .failed f
  ({ outcome, text := r.text }, { s with host := r.host })

/-- Does something with the handle of a name. -/
def onHandle (s : Session) (name : String) (f : Handle → Answer × Session) : Answer × Session :=
  match s.handles.lookup name with
  | some h => f h
  | none => ({ outcome := .noHandle name }, s)

/-- Gives a handle a name, in place of the handle that had it, which stays open. -/
def bind (s : Session) (name : String) (h : Handle) : Session :=
  { s with handles := (name, h) :: s.handles.filter (·.1 != name) }

/-- Changes the files of a session. -/
def withTree (s : Session) (tree : FileTree) : Session :=
  { s with host := { s.host with storage := { s.host.storage with tree } } }

/-- Runs one step. -/
def step (s : Session) : Step → Answer × Session
  | .opening name o =>
    let r := s.host.openAs o
    let (answer, s) := s.take r fun h => .opened h.name h.inMemory h.durability
    match r.outcome with
    | .ok h => (answer, s.bind name h)
    | .error _ => (answer, s)
  | .initialise name =>
    s.onHandle name fun h => s.take (s.host.initialise h) fun _ => .nothing
  | .close name =>
    s.onHandle name fun h => (.nothing, { s with host := s.host.close h })
  | .call name c => s.onHandle name fun h => s.take (s.host.call h c) .reply
  | .dump name => s.onHandle name fun h => s.take (s.host.view h Database.dump) .dumped
  | .schema name => s.onHandle name fun h => s.take (s.host.view h Database.schema) .schema
  | .pragmas name => s.onHandle name fun h => s.take (s.host.pragmas h) fun p => .pragmas p.1 p.2
  | .clock now => (.nothing, { s with host := { s.host with now } })
  | .makeDirectory path =>
    if path.toList.contains '\x00' then (.refused (.unfit .path), s)
    else
      let (fault, tree) := s.host.storage.tree.makeDirectories (Path.namesOfText path)
      (match fault with
        | some fault => .refused (.path fault)
        | none => .nothing, s.withTree tree)
  | .writeText path text =>
    if path.toList.contains '\x00' then (.refused (.unfit .path), s)
    else
      match s.host.storage.tree.writeText (Path.namesOfText path) text with
      | .error fault => (.refused (.path fault), s)
      | .ok tree => (.nothing, s.withTree tree)
  | .look path => ({ outcome := .done (.found (s.host.storage.tree.look path)) }, s)
  | .command words =>
    let (e, host) := CommandLine.run s.host words
    ({ outcome := .exited e }, { s with host })

/-- Runs steps in order. -/
def run (s : Session) : List Step → List Answer × Session
  | [] => ([], s)
  | first :: rest =>
    let (answer, s) := s.step first
    let (answers, s) := s.run rest
    (answer :: answers, s)

/-- Running one list of steps and then another is running both as one list. -/
theorem run_append (s : Session) (first second : List Step) :
    s.run (first ++ second) =
      ((s.run first).1 ++ ((s.run first).2.run second).1, ((s.run first).2.run second).2) := by
  induction first generalizing s with
  | nil => rfl
  | cons step rest ih => simp [run, ih]

end Session

end DeliveryStore
