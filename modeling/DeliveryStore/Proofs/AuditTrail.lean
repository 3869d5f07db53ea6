import DeliveryStore.Proofs.Histories

/-!
# The log as an audit trail

What an operation prints follows from how it ends: one entry for what was carried out, for a taken key
and for a fault of storage, under the header of its group if the history has no entry of the group yet,
and nothing in all other cases. One of these is a database that is never looked for, because its address
is not fit for that: it cannot be reached, and yet nothing says so. Main statements:

* `Session.call_is_audited`, `Session.initialise_is_audited` — what operations print;
* `Host.silent_of_unfit` — nothing is printed where the address is not fit for use.
-/

namespace DeliveryStore

/-- What is printed of a note where a history has been logged: the header of the group, unless the
history has an entry of the group, and the line of the note. -/
def Log.shown (history : List String) (group : String) (name : Option String) : Option Note → String
  | none => ""
  | some n =>
    (if group ∈ history then "" else headerLine 0 true group) ++
      Thread.line {} (Host.entry group name n)

/-- In a thread that has printed the headers of a history, a note is shown after that history. -/
theorem Log.Thread.remark_eq_shown {t : Thread} {history : List String} {group : String}
    (hg : Plain group) (hprinted : group ∈ t.printed ↔ group ∈ history) (name : Option String)
    (note : Option Note) :
    (t.remark name (note.map (group, ·))).1 = shown history group name note := by
  cases note with
  | none => rfl
  | some n =>
    refine (t.write_of_plain (e := Host.entry group name n) rfl hg).trans ?_
    simp only [shown, hprinted]

namespace Session

variable {environment : List (String × String)} {steps : List Step} {name : String} {h : Handle}

/-- The headers that a session has printed are those of its history. -/
theorem printed_iff_history (environment : List (String × String)) (steps : List Step) (g : String) :
    g ∈ ((start environment).run steps).2.host.log.printed ↔ g ∈ (start environment).history steps := by
  rw [mem_printed_iff]
  constructor
  · rintro (hmem | hmem)
    · cases hmem
    · exact hmem
  · exact .inr

/-- A call prints nothing if its checks refuse it. Otherwise it prints the note of its ending, under the
header of the group of its store if no entry of that group has been logged before. The arguments may be of
any size, and texts need not be Unicode: what cannot be handed over is one of the endings without a note.
Addresses are Unicode texts. -/
theorem call_is_audited
    (hh : ((start environment).run steps).2.handles.lookup name = some h) {c : Call}
    (hoffers : h.role.stores.contains c.store = true) :
    let s := ((start environment).run steps).2
    let history := (start environment).history steps
    let after := s.step (.call name c)
    h.name = ({ role := h.role } : Opening).logName ∧
      ((∃ f, c.check s.host.now = .error f ∧ after = (.refused f, s)) ∨
        ∃ r outcome note, c.check s.host.now = .ok r ∧
          h.Ends s.host.storage after.2.host.storage c.operation r outcome note ∧
          after.1 = { outcome := Outcome.of .reply outcome
                      text := Log.shown history c.store.group h.name note }) := by
  intro s history after
  have hs : s.Reachable := ⟨environment, steps, rfl⟩
  have hafter : after = s.take (s.host.settle h.name (h.call s.host.now c s.host.storage)) .reply :=
    step_call hh c
  rw [take_settle] at hafter
  constructor
  · -- A handle without a role offers no store.
    refine (hs.opened _ (mem_of_lookup hh)).name_eq fun hbase => ?_
    have hrole : h.role = .base := hbase
    rw [hrole] at hoffers
    cases hoffers
  rcases Handle.ends_of_call hs.sound hoffers s.host.now with ⟨f, hf, hcall⟩ | ⟨r, note, hr, hnote, hends⟩
  · refine .inl ⟨f, hf, ?_⟩
    rw [hafter, hcall]
    rfl
  · rw [hafter, hnote, Log.Thread.remark_eq_shown (Store.plain_group _)
      (printed_iff_history environment steps _)]
    exact .inr ⟨r, _, note, hr, hends, rfl⟩

/-- Making tables prints what has been made, or that storage failed. It prints nothing only if the handle
opens nothing fit for use. -/
theorem initialise_is_audited
    (hh : ((start environment).run steps).2.handles.lookup name = some h) (hrole : h.role ≠ .base) :
    let s := ((start environment).run steps).2
    let shown := Log.shown ((start environment).history steps) Completion.schemaGroup h.name
    let answer := (s.step (.initialise name)).1
    h.name = ({ role := h.role } : Opening).logName ∧
      (answer = { outcome := .done .nothing
                  text := shown (some (Handle.initialised h.role.stores)) } ∨
        (∃ fault, answer =
          { outcome := .failed (.unavailable "init" fault)
            text := shown (some (Completion.unavailable "init" fault.label)) }) ∨
        ∃ what, h.target = .error (.unfit what) ∧ answer = .refused (.unfit what)) := by
  intro s shown answer
  have hs : s.Reachable := ⟨environment, steps, rfl⟩
  have hanswer : answer =
      (s.take (s.host.settle h.name (h.initialise s.host.storage)) fun _ => .nothing).1 :=
    congrArg Prod.fst (step_initialise hh)
  rw [take_settle] at hanswer
  have hshown : ∀ n, (s.host.log.remark h.name (some (Completion.schemaGroup, n))).1 =
      shown (some n) :=
    fun n => Log.Thread.remark_eq_shown Completion.plain_schemaGroup
      (printed_iff_history environment steps _) h.name (some n)
  refine ⟨(hs.opened _ (mem_of_lookup hh)).name_eq hrole, ?_⟩
  rcases h.initialise_ends s.host.storage with ⟨houtcome, hnote⟩ | ⟨fault, houtcome, hnote⟩ |
    ⟨what, htarget, houtcome, hnote⟩ | ⟨hbase, -⟩
  · rw [hanswer, houtcome, hnote, hshown]
    exact .inl rfl
  · rw [hanswer, houtcome, hnote, hshown]
    exact .inr (.inl ⟨fault, rfl⟩)
  · rw [hanswer, houtcome, hnote]
    exact .inr (.inr ⟨what, htarget, rfl⟩)
  · exact absurd hbase hrole

end Session

/-! ## Databases that are not looked for -/

/-- On a handle that opens nothing fit for use every operation that is not refused before fails for that
reason, which is no failure of storage to the stores, and no operation prints anything. -/
theorem Host.silent_of_unfit (host : Host) {h : Handle} {what : Unfit}
    (ht : h.target = .error (.unfit what)) :
    (Failure.unfit what).class? = none ∧
      host.initialise h = { outcome := .error (.unfit what), host } ∧
      ∀ c, (host.call h c).text = "" ∧
        ∀ r, h.role.stores.contains c.store = true → c.check host.now = .ok r →
          host.call h c = { outcome := .error (.unfit what), host } := by
  have he : h.enter host.storage = (.error (.unfit what), host.storage) := by
    simp only [Handle.enter, ht]
  have hperform : ∀ operation r, h.perform operation r host.storage =
      { outcome := .error (.unfit what), storage := host.storage } := by
    intro operation r
    simp only [Handle.perform, he]
  refine ⟨rfl, ?_, fun c => ⟨?_, fun r hoffers hr => ?_⟩⟩
  · simp only [Host.initialise, Handle.initialise, he]
    rfl
  · unfold Host.call Handle.call
    split
    · cases c.check host.now with
      | error f => rfl
      | ok r =>
        dsimp only
        rw [hperform]
        rfl
    · rfl
  · simp only [Host.call, Handle.call_of_check host.storage hoffers hr, hperform]
    rfl

/-- A file that cannot be opened, since there is a directory in its place, is logged as unavailable by
the first operation; one whose name holds a NUL is not, and fails in a way that the stores do not
define. -/
theorem unfit_database_is_not_logged :
    let s := ((Session.start []).run [.makeDirectory "a.db"]).2
    let initialise (address : String) : Option (Except Failure Unit × String) :=
      let s := (s.run [.opening "db" { role := .server, address := some (.text address) }]).2
      (s.handles.lookup "db").map fun h => ((s.host.initialise h).outcome, (s.host.initialise h).text)
    initialise "sqlite+aiosqlite:///a.db" =
        some (.error (.unavailable "init" .cannotOpen),
          Log.shown [] Completion.schemaGroup (some "server")
            (some (Completion.unavailable "init" "OperationalError"))) ∧
      initialise "sqlite+aiosqlite:///a%00.db" = some (.error (.unfit .path), "") ∧
      (Failure.unavailable "init" .cannotOpen).class? = some .unavailable ∧
      (Failure.unfit .path).class? = none := by
  refine ⟨?_, ?_, rfl, rfl⟩
  all_goals decide +kernel

end DeliveryStore
