import DeliveryStore.Proofs.Commands
import DeliveryStore.Proofs.Endings

/-!
# Histories of the log

Every entry belongs to a group. A thread prints the header of a group in front of the first entry of
the group, and never again. The history of a session is made of the groups of all entries that its
steps have logged, those of its command lines among them. Main statements:

* `Log.Thread.write_of_plain` — an entry is its header, if that has not been printed, and its line;
* `CommandLine.log_execute`, `Session.log_step` — what a command and what a step logs;
* `Session.mem_printed_iff` — the headers that have been printed are those of the history;
* `Session.Reachable.opened` — every handle of a session has come about by an opening.
-/

namespace DeliveryStore

/-! ## Groups with one header -/

namespace Log

variable {t : Thread} {g group : String} {groups : List String}

/-- A group whose path is a single name. -/
def Plain (group : String) : Prop := components group = [group]

instance (group : String) : Decidable (Plain group) := inferInstanceAs (Decidable (_ = _))

theorem Thread.announce_of_plain (hg : Plain g) (t : Thread) :
    t.announce (some g) =
      if g ∈ t.printed then ("", t)
      else (headerLine 0 true g, { t with printed := t.printed ++ [g] }) := by
  have hparts : components g = [g] := hg
  by_cases hprinted : g ∈ t.printed <;>
    simp [Thread.announce, hparts, Log.announce, below, hprinted]

/-- An entry of a plain group is printed as the header of the group, unless that has been printed, and
a line that does not depend on the thread. -/
theorem Thread.write_of_plain (t : Thread) {e : Entry} (he : e.group = some g) (hg : Plain g) :
    (t.write e).1 = (if g ∈ t.printed then "" else headerLine 0 true g) ++ line {} e := by
  have hline : ∀ t : Thread, t.line e = line {} e := by
    intro t
    simp only [line, lead, he]
  simp only [write, he, announce_of_plain hg, hline]
  split <;> rfl

/-- The thread after entries of some groups. -/
def Thread.after (t : Thread) (groups : List String) : Thread :=
  groups.foldl (fun t g => (t.announce (some g)).2) t

theorem Thread.after_append (t : Thread) (first rest : List String) :
    t.after (first ++ rest) = (t.after first).after rest := List.foldl_append

theorem Thread.mem_printed_announce (hg : Plain g) (t : Thread) :
    group ∈ (t.announce (some g)).2.printed ↔ group ∈ t.printed ∨ group = g := by
  rw [announce_of_plain hg]
  split
  · rename_i hprinted
    constructor
    · exact .inl
    · rintro (hmem | rfl)
      · exact hmem
      · exact hprinted
  · simp

/-- After entries of plain groups, the headers of these groups have been printed, and no others. -/
theorem Thread.mem_printed_after (hgroups : ∀ g ∈ groups, Plain g) (t : Thread) :
    group ∈ (t.after groups).printed ↔ group ∈ t.printed ∨ group ∈ groups := by
  induction groups generalizing t with
  | nil => simp [after]
  | cons first rest ih =>
    have hrest := ih (fun g hg => hgroups g (List.mem_cons_of_mem _ hg)) (t.announce (some first)).2
    rw [mem_printed_announce (hgroups first List.mem_cons_self)] at hrest
    rw [List.mem_cons, ← or_assoc]
    exact hrest

end Log

/-! ## What operations log -/

/-- The group of the entry that an operation logs, if it logs one. -/
def Completion.groups {α : Type} (c : Completion α) : List String := (c.note.map (·.1)).toList

theorem Store.plain_group (s : Store) : Log.Plain s.group := by
  cases s <;> decide +kernel

theorem Completion.plain_schemaGroup : Log.Plain schemaGroup := by decide +kernel

/-- A completed operation leaves the thread that there is after its entry. -/
theorem Host.settle_log {α : Type} (host : Host) (name : Option String) (c : Completion α) :
    (host.settle name c).host.log = host.log.after c.groups := by
  rw [settle_eq]
  unfold Completion.groups
  cases c.note <;> rfl

namespace Handle

variable {h : Handle} {s : Storage} {g : String}

theorem group_of_perform {operation : String} {r : Request}
    (hg : g ∈ (h.perform operation r s).groups) : g = r.store.group := by
  unfold Completion.groups at hg
  rcases h.perform_ends operation r s with ⟨_, -, -, hnote⟩ | ⟨fault, -, hnote⟩ |
    ⟨_, _, refusal, -, -, -, hnote, -⟩ | ⟨_, _, commit, -, -, -, hnote, -⟩
  · simp [hnote] at hg
  · simpa [hnote] using hg
  · cases refusal with
    | unusable why => cases why <;> simp_all
    | _ => simp_all
  · rw [hnote] at hg
    cases hcommit : commit.note <;> simp_all

/-- The entry of a call is in the group of the store that the call goes to. -/
theorem group_of_call {now : Moment} {c : Call} (hg : g ∈ (h.call now c s).groups) :
    g = c.store.group := by
  unfold call at hg
  split at hg
  swap
  · cases hg
  rcases hr : c.check now with f | r
  · rw [hr] at hg
    cases hg
  · rw [hr] at hg
    rw [group_of_perform hg, Call.store_of_check hr]

/-- The entry of making tables is about the database as a whole. -/
theorem group_of_initialise (hg : g ∈ (h.initialise s).groups) : g = Completion.schemaGroup := by
  unfold Completion.groups at hg
  rcases h.initialise_ends s with ⟨-, hnote⟩ | ⟨fault, -, hnote⟩ | ⟨_, -, -, hnote⟩ | ⟨-, hnote⟩ <;>
    simp_all

end Handle

/-- Opening logs nothing but what is about the database as a whole. -/
theorem Opening.group_of_complete {o : Opening} {settings : Settings} {number : Nat} {s : Storage}
    {g : String} (hg : g ∈ (o.complete settings number s).groups) : g = Completion.schemaGroup := by
  unfold complete at hg
  split at hg
  · cases hg
  · cases hg
  split at hg
  · cases hg
  dsimp only at hg
  split at hg
  · cases hg
  split at hg
  · cases hg
  split at hg
  · simpa [Completion.groups] using hg
  · cases hg

/-! ## What commands log -/

/-- The groups of the entries of calls that are made on a handle one after the other, up to the first
that fails. -/
def Handle.groupsOf (h : Handle) (now : Moment) : List Call → Storage → List String
  | [], _ => []
  | c :: rest, s =>
    let done := h.call now c s
    done.groups ++
      match done.outcome with
      | .ok _ => h.groupsOf now rest done.storage
      | .error _ => []

namespace CommandLine

/-- The call for a name. None is made for an empty name. -/
def callsFor (name : Option String) (call : Value → Call) : List Call :=
  match name with
  | none => []
  | some name => if name = "" then [] else [call (.text name)]

/-- The calls that a command makes on the database that it opens. -/
def Command.calls : Command → List Call
  | .init _ => []
  | .stats recipient client =>
    callsFor recipient (.mailbox <| .pendingCount ·) ++
      callsFor client (.keyPackages <| .countByClient ·)
  | .purge recipient => [.mailbox (.purge (.text recipient))]

/-- The groups of the entries of a command once its database is open. -/
def Command.groups (h : Handle) (now : Moment) (s : Storage) : Command → List String
  | .init _ => (h.initialise s).groups
  | command => h.groupsOf now command.calls s

/-- The groups of the entries of a command. -/
def groups (host : Host) (i : Invocation) : List String :=
  let opened := i.opening.complete host.settings host.asked host.storage
  opened.groups ++
    match opened.outcome with
    | .ok h => i.command.groups h host.now opened.storage
    | .error _ => []

variable {host : Host} {h : Handle}

/-- Saying something at the end of a report logs nothing. -/
theorem log_andThen_say {α : Type} (r : Report α) (text : α → String) :
    (r.andThen fun a host => host.say (text a)).host.log = r.host.log :=
  congrArg Host.log (r.andThen_say text)

/-- A count logs what its call logs, if it makes one, and then what comes next logs its own. -/
theorem log_count (host : Host) (h : Handle) (name : Option String) (call : Value → Call)
    (sign unit : String) {next : Host → Report Unit} {calls : List Call}
    (hnext : ∀ host' : Host, host'.now = host.now →
      (next host').host.log = host'.log.after (h.groupsOf host'.now calls host'.storage)) :
    ((count host h name call sign unit).andThen fun _ host => next host).host.log =
      host.log.after (h.groupsOf host.now (callsFor name call ++ calls) host.storage) := by
  unfold count callsFor
  cases name with
  | none => exact hnext host rfl
  | some name =>
    by_cases hname : name = ""
    · simp only [hname, if_true]
      exact hnext host rfl
    simp only [hname, if_false, List.cons_append, List.nil_append, Handle.groupsOf]
    cases houtcome : (h.call host.now (call (.text name)) host.storage).outcome with
    | error f =>
      simp only [Host.call, Report.andThen, Host.settle_outcome, houtcome, Host.settle_log,
        List.append_nil]
    | ok reply =>
      have hnow : (host.call h (call (.text name))).host.now = host.now := by
        rw [Host.call, Host.settle_eq]
      have hlater := hnext (host.call h (call (.text name))).host hnow
      rw [hnow, Host.call, Host.settle_log, Host.settle_storage] at hlater
      simp only [Host.call, Report.andThen, Host.settle_outcome, houtcome, Host.say]
      rw [hlater, Log.Thread.after_append]

/-- A command logs the entries of its opening, and those of what is done with the handle. -/
theorem log_execute (host : Host) (i : Invocation) :
    (execute host i).host.log = host.log.after (groups host i) := by
  -- What is done with the handle comes after the opening.
  have hopened : ∀ {next : Handle → Host → Report Unit},
      (∀ (h : Handle) (host' : Host), host'.now = host.now →
        (next h host').host.log = host'.log.after (i.command.groups h host'.now host'.storage)) →
      ((host.openAs i.opening).andThen next).host.log = host.log.after (groups host i) := by
    intro next hnext
    unfold groups Host.openAs
    cases hr : (i.opening.complete host.settings host.asked host.storage).outcome with
    | error f =>
      simp only [Report.andThen, Host.settle_outcome, hr, Host.settle_log, List.append_nil]
    | ok h =>
      have hlater := hnext h (({ host with asked := host.asked + 1 } : Host).settle i.opening.logName
        (i.opening.complete host.settings host.asked host.storage)).host (by rw [Host.settle_eq])
      rw [Host.settle_log, Host.settle_storage] at hlater
      simp only [Report.andThen, Host.settle_outcome, hr]
      rw [hlater, Log.Thread.after_append, Host.settle_eq]
  unfold execute
  cases hc : i.command with
  | init name =>
    have hopening : i.opening =
        { role := if name = some "client" then .client else .server
          address := i.url.map .text } := by
      simp only [Invocation.opening, hc, Command.role]
    dsimp only [init]
    rw [← hopening]
    refine hopened fun h host' _ => ?_
    rw [log_andThen_say, hc]
    exact Host.settle_log _ _ _
  | stats recipient client =>
    have hopening : i.opening = { role := .server, address := i.url.map .text } := by
      simp only [Invocation.opening, hc, Command.role]
    dsimp only [stats]
    rw [← hopening]
    refine hopened fun h host' _ => ?_
    rw [hc]
    refine log_count host' h recipient _ _ _ fun host'' _ => ?_
    have hlast : ((count host'' h client (.keyPackages <| .countByClient ·) "🔑 "
        " key package(s)\n").andThen fun _ host => host.say "").host.log =
        host''.log.after (h.groupsOf host''.now
          (callsFor client (.keyPackages <| .countByClient ·) ++ []) host''.storage) :=
      log_count _ _ _ _ _ _ fun _ _ => rfl
    rw [log_andThen_say, List.append_nil] at hlast
    exact hlast
  | purge recipient =>
    have hopening : i.opening = { role := .server, address := i.url.map .text } := by
      simp only [Invocation.opening, hc, Command.role]
    dsimp only [purge]
    rw [← hopening]
    refine hopened fun h host' _ => ?_
    rw [log_andThen_say, hc]
    refine (Host.settle_log _ _ _).trans ?_
    simp only [Command.groups, Command.calls, Handle.groupsOf]
    cases (h.call host'.now (.mailbox (.purge (.text recipient))) host'.storage).outcome <;> simp

theorem log_run (host : Host) (words : List String) :
    (run host words).2.log =
      host.log.after (match Invocation.read words with
        | .ok i => groups host i
        | .error _ => []) := by
  unfold run
  cases Invocation.read words with
  | error stop => rfl
  | ok i => exact log_execute host i

theorem plain_of_groupsOf {now : Moment} {calls : List Call} {s : Storage} {g : String}
    (hg : g ∈ h.groupsOf now calls s) : Log.Plain g := by
  induction calls generalizing s with
  | nil => cases hg
  | cons c rest ih =>
    unfold Handle.groupsOf at hg
    rcases List.mem_append.1 hg with hcall | hrest
    · rw [Handle.group_of_call hcall]
      exact Store.plain_group _
    · split at hrest
      · exact ih hrest
      · cases hrest

/-- All entries of commands are in groups with one header. -/
theorem plain_of_groups {i : Invocation} {g : String} (hg : g ∈ groups host i) : Log.Plain g := by
  rcases List.mem_append.1 hg with hopened | hlater
  · rw [Opening.group_of_complete hopened]
    exact Completion.plain_schemaGroup
  split at hlater
  swap
  · cases hlater
  unfold Command.groups at hlater
  split at hlater
  · rw [Handle.group_of_initialise hlater]
    exact Completion.plain_schemaGroup
  · exact plain_of_groupsOf hlater

end CommandLine

/-! ## What sessions log -/

/-- A handle that an opening has come to. -/
def Handle.Opened (h : Handle) : Prop :=
  ∃ (o : Opening) (settings : Settings) (number : Nat) (s : Storage),
    (o.complete settings number s).outcome = .ok h

/-- A handle that has been opened as a server or a client has the name of its role in the log. -/
theorem Handle.Opened.name_eq {h : Handle} (hh : h.Opened) (hrole : h.role ≠ .base) :
    h.name = ({ role := h.role } : Opening).logName := by
  obtain ⟨o, settings, number, s, ho⟩ := hh
  obtain ⟨address, durability, l, -, -, -, hmake, -⟩ := Opening.complete_cases ho
  unfold Handle.make at hmake
  split at hmake
  · cases hmake
  · cases hmake
    dsimp only at hrole ⊢
    cases hr : o.role with
    | base => exact absurd hr hrole
    | server | client => simp only [Opening.logName, hr]

namespace Session

variable {s : Session}

/-- The groups of the entries that a step logs, in order. -/
def groups (s : Session) : Step → List String
  | .opening _ o => (o.complete s.host.settings s.host.asked s.host.storage).groups
  | .initialise name =>
    match s.handles.lookup name with
    | some h => (h.initialise s.host.storage).groups
    | none => []
  | .call name c =>
    match s.handles.lookup name with
    | some h => (h.call s.host.now c s.host.storage).groups
    | none => []
  | .command words =>
    match CommandLine.Invocation.read words with
    | .ok i => CommandLine.groups s.host i
    | .error _ => []
  | _ => []

/-- The groups of the entries that steps log one after the other. -/
def history (s : Session) : List Step → List String
  | [] => []
  | first :: rest => s.groups first ++ (s.step first).2.history rest

/-- A step logs its entries, and nothing else is logged. -/
theorem log_step (s : Session) (step : Step) :
    (s.step step).2.host.log = s.host.log.after (s.groups step) := by
  have hview : ∀ {α : Type} (name : String) (see : Database → α) (result : α → Result),
      (s.onHandle name fun h => s.take (s.host.view h see) result).2.host.log = s.host.log := by
    intro α name see result
    unfold onHandle
    split
    · rename_i h _
      have hnone : (h.view see s.host.storage).groups = [] := by
        unfold Handle.view
        split <;> rfl
      refine (Host.settle_log _ _ _).trans ?_
      rw [hnone]
      rfl
    · rfl
  cases step with
  | opening name o =>
    have hopen : (s.host.openAs o).host.log = s.host.log.after (s.groups (.opening name o)) :=
      Host.settle_log _ _ _
    rw [← hopen]
    simp only [Session.step]
    split <;> rfl
  | initialise name | call name c =>
    cases hh : s.handles.lookup name with
    | none =>
      simp only [Session.step, onHandle, groups, hh]
      rfl
    | some h =>
      simp only [Session.step, onHandle, groups, hh]
      exact Host.settle_log _ _ _
  | dump name | schema name => exact hview name _ _
  | pragmas name =>
    simp only [Session.step, onHandle]
    split
    · rename_i h _
      have hnone : (h.pragmas s.host.storage).groups = [] := by
        unfold Handle.pragmas
        split <;> rfl
      refine (Host.settle_log _ _ _).trans ?_
      rw [hnone]
      rfl
    · rfl
  | close name =>
    simp only [Session.step, onHandle]
    split <;> rfl
  | clock now | look path => rfl
  | makeDirectory path =>
    simp only [Session.step]
    rcases s.host.storage.tree.makeDirectories (Path.namesOfText path) with ⟨fault, tree⟩
    split <;> rfl
  | writeText path text =>
    simp only [Session.step]
    split
    · rfl
    · split <;> rfl
  | command words => exact CommandLine.log_run s.host words

/-- All entries of steps are in groups with one header. -/
theorem plain_of_groups {step : Step} {g : String} (hg : g ∈ s.groups step) : Log.Plain g := by
  cases step with
  | opening name o =>
    rw [Opening.group_of_complete hg]
    exact Completion.plain_schemaGroup
  | initialise name =>
    cases hh : s.handles.lookup name with
    | none => simp [groups, hh] at hg
    | some h =>
      simp only [groups, hh] at hg
      rw [Handle.group_of_initialise hg]
      exact Completion.plain_schemaGroup
  | call name c =>
    cases hh : s.handles.lookup name with
    | none => simp [groups, hh] at hg
    | some h =>
      simp only [groups, hh] at hg
      rw [Handle.group_of_call hg]
      exact Store.plain_group _
  | command words =>
    cases hi : CommandLine.Invocation.read words with
    | error stop => simp [groups, hi] at hg
    | ok i =>
      simp only [groups, hi] at hg
      exact CommandLine.plain_of_groups hg
  | _ => cases hg

/-- After steps the headers have been printed that had been before, and those of the history. -/
theorem mem_printed_iff (s : Session) (steps : List Step) (g : String) :
    g ∈ (s.run steps).2.host.log.printed ↔ g ∈ s.host.log.printed ∨ g ∈ s.history steps := by
  induction steps generalizing s with
  | nil => simp [run, history]
  | cons first rest ih =>
    have hplain : ∀ g ∈ s.groups first, Log.Plain g := fun g hg => plain_of_groups hg
    rw [run_cons, ih, log_step, Log.Thread.mem_printed_after hplain, history, List.mem_append,
      or_assoc]

/-- Every handle of a reachable session has been opened. -/
theorem Reachable.opened (hs : s.Reachable) : ∀ e ∈ s.handles, e.2.Opened := by
  obtain ⟨environment, steps, rfl⟩ := hs
  have hrun : ∀ (steps : List Step) (s : Session),
      (∀ e ∈ s.handles, e.2.Opened) → ∀ e ∈ (s.run steps).2.handles, e.2.Opened := by
    intro steps
    induction steps with
    | nil => exact fun s hs => hs
    | cons step rest ih =>
      intro s hs
      rw [run_cons]
      refine ih _ ?_
      rcases handles_step s step with heq | ⟨name, o, h, hopened, heq⟩
      · rwa [heq]
      rw [heq]
      intro e he
      rcases List.mem_cons.1 he with rfl | hold
      · exact ⟨o, _, _, _, hopened⟩
      · exact hs e (List.mem_filter.1 hold).1
  refine hrun steps _ fun e he => ?_
  cases he

end Session

end DeliveryStore
