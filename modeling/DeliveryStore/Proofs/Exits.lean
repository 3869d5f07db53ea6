import DeliveryStore.Proofs.Checks
import DeliveryStore.Proofs.Invariants

/-!
# How the program ends

Whatever the command line, the settings and the files, the program ends in one of four ways: with
what it has to say of itself, with success, with one line about a failure that the stores define, or
with a failure that nobody has taken for one of those. The last kind has to do with the text of the
address, or with a size that nobody checks. The words of a command line are texts of characters, as
are the settings: what surrogates in them come to is left open. Main statements:

* `Opening.Refuses` — what an opening is refused for on account of its address;
* `CommandLine.Invocation.Exceeds` — what fails by its size alone;
* `CommandLine.Invocation.failure_of_complete`, `Handle.failure_cases`,
  `Handle.failure_of_initialise` — what the parts of a command can fail with;
* `CommandLine.run_ends` — the ways in which the program ends.
-/

namespace DeliveryStore

/-- The failures that an opening comes to on account of the text of its address, whatever the files
are: it cannot be read, it asks for directories that no directory can be, or for a driver that there is
not, or what it opens is refused when it is used. -/
inductive Opening.Refuses (o : Opening) (settings : Settings) : Failure → Prop where
  | unread {address : Value} {fault : AddressFault} (ha : o.addressIn settings = some address)
      (hl : Locator.ofValue address = .error fault) : Refuses o settings (.address fault)
  | unnamed {address : Value} {l : Locator} (ha : o.addressIn settings = some address)
      (hl : Locator.ofValue address = .ok l)
      (hn : (Handle.directoriesOf l).any (·.contains 0) = true) :
      Refuses o settings (.unfit .path)
  | unknown {address : Value} {l : Locator} {fault : AddressFault}
      (ha : o.addressIn settings = some address) (hl : Locator.ofValue address = .ok l)
      (ht : l.target = .error fault) : Refuses o settings (.address fault)
  | unfit {address : Value} {l : Locator} {what : Unfit}
      (ha : o.addressIn settings = some address) (hl : Locator.ofValue address = .ok l)
      (ht : l.target = .ok (.error (.unfit what))) : Refuses o settings (.unfit what)

/-- What an opening is refused for is no failure that the stores define. -/
theorem Opening.Refuses.class?_eq {o : Opening} {settings : Settings} {f : Failure}
    (h : o.Refuses settings f) : f.class? = none := by
  cases h <;> rfl

/-- The names that a command asks about. -/
def CommandLine.Command.names : CommandLine.Command → List String
  | .init _ => []
  | .stats recipient client => recipient.toList ++ client.toList
  | .purge recipient => [recipient]

/-- The failures of a size that nobody checks: the address asks for more directories within one
another than can be made, or a name is longer than can be handed over to a database. -/
inductive CommandLine.Invocation.Exceeds (i : CommandLine.Invocation) (settings : Settings)
    (tree : FileTree) : Failure → Prop where
  | nested {address : Value} {l : Locator} (ha : i.opening.addressIn settings = some address)
      (hl : Locator.ofValue address = .ok l)
      (hn : settings.nesting < tree.callsFor (Handle.directoriesOf l)) :
      Exceeds i settings tree .nestedTooDeep
  | overlong {name : String} (hn : name ∈ i.command.names)
      (hl : Bound.greatestLength < Text.Utf8.size name) :
      Exceeds i settings tree (.unfit (.overlong "string"))

/-- The class of a failure is never the one that holds the others. -/
theorem Failure.class?_ne_store (f : Failure) : f.class? ≠ some .store := by
  cases f <;> simp [class?]

/-! ## What the parts of a command can fail with -/

/-- A command is about the database of a server or a client. -/
theorem CommandLine.Command.role_cases (c : CommandLine.Command) :
    c.role = .server ∨ c.role = .client := by
  cases c with
  | init name =>
    by_cases hname : name = some "client"
    · exact .inr (if_pos hname)
    · exact .inl (if_neg hname)
  | stats recipient client => exact .inl rfl
  | purge recipient => exact .inl rfl

/-- The database of a command is opened with an address and a durability that are texts. -/
theorem CommandLine.Invocation.texts (i : CommandLine.Invocation) (settings : Settings) :
    ∃ address durability : String, i.opening.addressIn settings = some (.text address) ∧
      i.opening.durabilityIn settings = .text durability := by
  have htext : ∀ (given : Option String) (other : String),
      ∃ s, Opening.orElse (given.map .text) other = .text s := by
    intro given other
    cases given with
    | none => exact ⟨other, rfl⟩
    | some s =>
      simp only [Opening.orElse, Option.map_some]
      split
      · exact ⟨s, rfl⟩
      · exact ⟨other, rfl⟩
  rcases i.command.role_cases with hrole | hrole
  · obtain ⟨address, haddress⟩ := htext i.url settings.serverAddress
    refine ⟨address, settings.serverSynchronous, ?_, ?_⟩
    · simp only [Opening.addressIn, opening, hrole, haddress]
    · simp only [Opening.durabilityIn, opening, hrole, Opening.orElse]
  · obtain ⟨address, haddress⟩ := htext i.url settings.clientAddress
    refine ⟨address, settings.clientSynchronous, ?_, ?_⟩
    · simp only [Opening.addressIn, opening, hrole, haddress]
    · simp only [Opening.durabilityIn, opening, hrole, Opening.orElse]

section

variable {settings : Settings} {number : Nat} {s : Storage} {f : Failure} {h : Handle}

/-- A command that cannot open its database fails as the stores define, on account of its address, or
because the directories of the address are too many within one another. -/
theorem CommandLine.Invocation.failure_of_complete {i : CommandLine.Invocation}
    (hf : (i.opening.complete settings number s).outcome = .error f) :
    f.class?.isSome ∨ i.opening.Refuses settings f ∨ i.Exceeds settings s.tree f := by
  obtain ⟨address, durability, haddress, hdurability⟩ := i.texts settings
  unfold Opening.complete at hf
  rw [haddress, hdurability] at hf
  cases hlevel : Durability.ofValue (.text durability) with
  | error fault =>
    -- A level that is none is a flaw of the settings, which the stores define.
    rw [hlevel] at hf
    cases hf
    unfold Durability.ofValue at hlevel
    dsimp only at hlevel
    split at hlevel <;> cases hlevel
    exact .inl rfl
  | ok level =>
    rw [hlevel] at hf
    dsimp only at hf
    cases hl : Locator.ofValue (.text address) with
    | error fault =>
      rw [hl] at hf
      cases hf
      exact .inr (.inl (.unread haddress hl))
    | ok l =>
      rw [hl] at hf
      dsimp only at hf
      split at hf
      · rename_i hnames
        cases hf
        exact .inr (.inl (.unnamed haddress hl hnames))
      split at hf
      · rename_i hnesting
        cases hf
        exact .inr (.inr (.nested haddress hl hnesting))
      split at hf
      · cases hf
        exact .inl rfl
      · unfold Handle.make at hf
        split at hf
        · rename_i fault ht
          cases hf
          exact .inr (.inl (.unknown haddress hl ht))
        · cases hf

/-- An opened database has the role that it was opened in. -/
theorem Opening.role_of_complete {o : Opening}
    (ho : (o.complete settings number s).outcome = .ok h) : h.role = o.role := by
  obtain ⟨address, durability, l, -, -, -, hmake, -⟩ := complete_cases ho
  unfold Handle.make at hmake
  split at hmake
  · cases hmake
  · cases hmake
    rfl

/-- What an opened database refuses when it is used, it refuses on account of its address. -/
theorem Opening.refuses_of_complete {o : Opening} {what : Unfit}
    (ho : (o.complete settings number s).outcome = .ok h) (ht : h.target = .error (.unfit what)) :
    o.Refuses settings (.unfit what) := by
  obtain ⟨address, durability, l, haddress, -, hl, hmake, -⟩ := complete_cases ho
  unfold Handle.make at hmake
  split at hmake
  · cases hmake
  rename_i found hfound
  cases hmake
  dsimp only at ht
  exact .unfit haddress hl (by rw [hfound, ht])

/-- A request that a table refuses is refused for the rows of that table. -/
theorem Database.refusal_of_onTable {ρ : Type} {store : Store} {table : Option (List ρ)}
    {writes readOnly : Bool} {apply : List ρ → Except Refusal (Effect ρ)}
    {commit : Effect ρ → Commit} {refusal : Refusal}
    (h : (onTable store table writes readOnly apply).map commit = .error (.refusal refusal)) :
    ∃ rows, table = some rows ∧ apply rows = .error refusal := by
  unfold onTable at h
  split at h
  · cases h
  rename_i rows
  split at h
  · cases h
  cases happly : apply rows with
  | ok e =>
    rw [happly] at h
    cases h
  | error r =>
    rw [happly] at h
    cases h
    exact ⟨rows, rfl, happly⟩

namespace Handle

/-- A handle that cannot be entered opens nothing fit for use, or storage fails. -/
theorem target_of_enter {what : Unfit} (he : (h.enter s).1 = .error (.unfit what)) :
    h.target = .error (.unfit what) := by
  unfold enter at he
  cases ht : h.target with
  | error refusal =>
    rw [ht] at he
    dsimp only at he
    cases he
    rfl
  | ok target =>
    rw [ht] at he
    dsimp only at he
    cases hs : (s.enter h.number target h.inMemory).1 with
    | error fault =>
      rw [hs] at he
      cases he
    | ok c =>
      rw [hs] at he
      cases he

/-- Making the tables of a server or a client fails as the stores define, or because the handle opens
nothing fit for use. -/
theorem failure_of_initialise (hrole : h.role ≠ .base) (hf : (h.initialise s).outcome = .error f) :
    f.class?.isSome ∨ ∃ what, h.target = .error (.unfit what) ∧ f = .unfit what := by
  have hstores : h.role.stores.isEmpty = false := by
    cases hr : h.role with
    | base => exact absurd hr hrole
    | server | client => rfl
  unfold initialise at hf
  rcases he : h.enter s with ⟨refusal | c, s'⟩
  · rw [he] at hf
    cases refusal with
    | unfit what =>
      cases hf
      exact .inr ⟨what, target_of_enter (congrArg Prod.fst he), rfl⟩
    | storage fault =>
      cases hf
      exact .inl rfl
  rw [he] at hf
  dsimp only at hf
  rw [hstores, if_neg Bool.false_ne_true] at hf
  split at hf
  · cases hf
    exact .inl rfl
  split at hf
  · cases hf
    exact .inl rfl
  · cases hf

/-- A call that its handle offers fails in its check, or because a table refuses the checked request,
or because storage cannot be used, or because the handle opens nothing fit for use. -/
theorem failure_cases {now : Moment} {c : Call} (hoffers : h.role.stores.contains c.store = true)
    (hf : (h.call now c s).outcome = .error f) :
    c.check now = .error f ∨
      (∃ (r : Request) (d : Database) (readOnly : Bool) (refusal : Refusal), c.check now = .ok r ∧
        d.carryOut readOnly r = .error (.refusal refusal) ∧
        f = (Obstacle.refusal refusal).failure c.operation) ∨
      (∃ fault, f = .unavailable c.operation fault) ∨
      ∃ what, h.target = .error (.unfit what) ∧ f = .unfit what := by
  unfold call at hf
  rw [if_pos hoffers] at hf
  cases hr : c.check now with
  | error fault =>
    rw [hr] at hf
    cases hf
    exact .inl rfl
  | ok r =>
    rw [hr] at hf
    dsimp only at hf
    refine .inr ?_
    unfold perform at hf
    rcases he : h.enter s with ⟨refusal | ch, s'⟩
    · rw [he] at hf
      cases refusal with
      | unfit what =>
        cases hf
        exact .inr (.inr ⟨what, target_of_enter (congrArg Prod.fst he), rfl⟩)
      | storage fault =>
        cases hf
        exact .inr (.inl ⟨_, rfl⟩)
    rw [he] at hf
    dsimp only at hf
    rcases hc : (s'.read ch).carryOut ch.readOnly r with obstacle | commit
    · rw [hc] at hf
      cases obstacle with
      | refusal refusal =>
        refine .inl ⟨r, _, _, refusal, rfl, hc, ?_⟩
        cases refusal with
        | taken | absent | limitTooLarge => cases hf; rfl
        | unusable why => cases why <;> cases hf <;> rfl
      | storage fault =>
        cases hf
        exact .inr (.inl ⟨fault, rfl⟩)
    · rw [hc] at hf
      dsimp only at hf
      split at hf
      · cases hf
        exact .inr (.inl ⟨_, rfl⟩)
      · cases hf

end Handle

/-- The calls that a command makes with a name. -/
inductive CommandLine.Makes (name : String) : Call → Prop where
  | pendingCount : Makes name (.mailbox (.pendingCount (.text name)))
  | countByClient : Makes name (.keyPackages (.countByClient (.text name)))
  | purge : Makes name (.mailbox (.purge (.text name)))

namespace CommandLine

variable {name : String} {c : Call} {now : Moment}

/-- A server offers what the commands call. -/
theorem Makes.offered (hc : Makes name c) : Role.server.stores.contains c.store = true := by
  cases hc <;> rfl

/-- The calls give neither a time nor recipients, so that no check fails but for a flaw. -/
theorem Makes.failure_of_check (hc : Makes name c) (hf : c.check now = .error f) :
    f.class?.isSome := by
  refine Call.fails_check (P := fun f => f.class?.isSome) (fun _ => rfl) ?_ ?_ f hf
  · cases hc <;> nofun
  · cases hc <;> nofun

/-- No table refuses what the calls ask for, but for a name that cannot be put into a statement. -/
theorem Makes.refusal_of_carryOut (hc : Makes name c) {r : Request} (hr : c.check now = .ok r)
    {d : Database} {readOnly : Bool} {refusal : Refusal}
    (hd : d.carryOut readOnly r = .error (.refusal refusal)) :
    ∃ why, Name.bind name = .error why ∧ refusal = .unusable why := by
  cases hc
  all_goals
    simp only [Call.check, Mailbox.Call.check, KeyPackages.Call.check, Argument.name, bind,
      Except.bind, pure, Except.pure, Except.map] at hr
    split at hr
    · cases hr
    rename_i heq
    split at heq
    · cases heq
    rename_i named hnamed
    cases heq
    cases hr
    split at hnamed <;> cases hnamed
    obtain ⟨rows, -, happly⟩ := Database.refusal_of_onTable hd
    cases hbind : Name.bind name with
    | ok n =>
      rw [hbind] at happly
      cases happly
    | error why =>
      rw [hbind] at happly
      cases happly
      exact ⟨why, rfl, rfl⟩

/-- A call that a command makes with a name fails as the stores define, because the handle opens
nothing fit for use, or because the name is longer than can be handed over. -/
theorem Makes.failure_of_call (hc : Makes name c) (hrole : h.role = .server)
    (hf : (h.call now c s).outcome = .error f) :
    f.class?.isSome ∨ (∃ what, h.target = .error (.unfit what) ∧ f = .unfit what) ∨
      Bound.greatestLength < Text.Utf8.size name ∧ f = .unfit (.overlong "string") := by
  rcases Handle.failure_cases (hrole ▸ hc.offered) hf with
    hr | ⟨r, d, readOnly, refusal, hr, hd, rfl⟩ | ⟨fault, rfl⟩ | hunfit
  · exact .inl (hc.failure_of_check hr)
  · obtain ⟨why, hwhy, rfl⟩ := hc.refusal_of_carryOut hr hd
    rcases Name.bind_eq_error hwhy with ⟨hlong, rfl⟩ | rfl
    · exact .inr (.inr ⟨hlong, rfl⟩)
    · exact .inl rfl
  · exact .inl rfl
  · exact .inr (.inl hunfit)

end CommandLine

end

/-! ## Reports -/

/-- A report that fails, if it does, with what has a property. -/
def Report.Fails {α : Type} (P : Failure → Prop) (r : Report α) : Prop :=
  ∀ f, r.outcome = .error f → P f

section

variable {α β : Type} {P : Failure → Prop} {host : Host} {h : Handle}

theorem Report.Fails.andThen {r : Report α} {next : α → Host → Report β} (hr : r.Fails P)
    (hnext : ∀ a, r.outcome = .ok a → (next a r.host).Fails P) : (r.andThen next).Fails P := by
  intro f hf
  unfold Report.andThen at hf
  cases ho : r.outcome with
  | error f' =>
    rw [ho] at hf
    cases hf
    exact hr _ ho
  | ok a =>
    rw [ho] at hf
    exact hnext a ho f hf

theorem Host.fails_say (host : Host) (text : String) : (host.say text).Fails P := by
  intro f hf
  cases hf

/-- The failures that a command comes to: those that the stores define, those on account of its
address, and those by size. -/
def CommandLine.Invocation.Fails (i : Invocation) (settings : Settings) (tree : FileTree)
    (f : Failure) : Prop :=
  f.class?.isSome ∨ i.opening.Refuses settings f ∨ i.Exceeds settings tree f

namespace CommandLine

theorem fails_count (hr : h.role = .server)
    (hunfit : ∀ what, h.target = .error (.unfit what) → P (.unfit what))
    (hstore : ∀ f, f.class?.isSome → P f) (host : Host) (name : Option String)
    (hlong : ∀ n ∈ name, Bound.greatestLength < Text.Utf8.size n → P (.unfit (.overlong "string")))
    {call : Value → Call} (hc : ∀ name, Makes name (call (.text name))) (sign unit : String) :
    (count host h name call sign unit).Fails P := by
  unfold count
  cases name with
  | none => exact Host.fails_say _ _
  | some name =>
    dsimp only
    split
    · exact Host.fails_say _ _
    refine Report.Fails.andThen ?_ fun _ _ => Host.fails_say _ _
    intro f hf
    rw [Host.call, Host.settle_outcome] at hf
    rcases (hc name).failure_of_call hr hf with hclass | ⟨what, htarget, rfl⟩ | ⟨hsize, rfl⟩
    · exact hstore f hclass
    · exact hunfit what htarget
    · exact hlong name rfl hsize

/-- What is done with an opened database fails as a command does, if what the handle refuses to open
is all that it fails with beside. -/
theorem fails_opened {i : Invocation} {o : Opening} (ho : i.opening = o)
    {next : Handle → Host → Report β}
    (hnext : ∀ h host', h.role = o.role →
      (∀ what, h.target = .error (.unfit what) →
        i.Fails host.settings host.storage.tree (.unfit what)) →
      (next h host').Fails (i.Fails host.settings host.storage.tree)) :
    ((host.openAs o).andThen next).Fails (i.Fails host.settings host.storage.tree) := by
  subst ho
  have hopen : (host.openAs i.opening).outcome =
      (i.opening.complete host.settings host.asked host.storage).outcome := by
    rw [Host.openAs, Host.settle_outcome]
  refine Report.Fails.andThen ?_ fun h hh => hnext h _ ?_ ?_
  · intro f hf
    exact i.failure_of_complete (hopen ▸ hf)
  · exact Opening.role_of_complete (hopen ▸ hh)
  · intro what ht
    exact .inr (.inl (Opening.refuses_of_complete (hopen ▸ hh) ht))

/-- A command fails as the stores define, on account of its address, or by size. -/
theorem fails_execute (host : Host) (i : Invocation) :
    (execute host i).Fails (i.Fails host.settings host.storage.tree) := by
  have hstore : ∀ f, f.class?.isSome → i.Fails host.settings host.storage.tree f :=
    fun _ hf => .inl hf
  have hlong : ∀ name ∈ i.command.names, Bound.greatestLength < Text.Utf8.size name →
      i.Fails host.settings host.storage.tree (.unfit (.overlong "string")) :=
    fun name hn hl => .inr (.inr (.overlong hn hl))
  unfold execute
  cases hc : i.command with
  | init name =>
    have hopening : i.opening =
        { role := if name = some "client" then .client else .server
          address := i.url.map .text } := by
      simp only [Invocation.opening, hc, Command.role]
    refine fails_opened hopening fun h host' hr hunfit => ?_
    refine Report.Fails.andThen ?_ fun _ _ => Host.fails_say _ _
    intro f hf
    have hf' : (h.initialise host'.storage).outcome = .error f := by
      rwa [closing, Host.initialise, Host.settle_outcome] at hf
    have hrole : h.role ≠ .base := by
      rw [hr]
      dsimp only
      split <;> simp
    rcases h.failure_of_initialise hrole hf' with hclass | ⟨what, htarget, rfl⟩
    · exact hstore f hclass
    · exact hunfit what htarget
  | stats recipient client =>
    have hopening : i.opening = { role := .server, address := i.url.map .text } := by
      simp only [Invocation.opening, hc, Command.role]
    refine fails_opened hopening fun h host' hr hunfit => ?_
    refine Report.Fails.andThen (r := count _ _ _ _ _ _) ?_ fun _ _ => ?_
    · refine fails_count hr hunfit hstore _ _ (fun n hn => hlong n ?_) (fun _ => .pendingCount) _ _
      simp [hc, Command.names, Option.mem_def.1 hn]
    · refine fails_count hr hunfit hstore _ _ (fun n hn => hlong n ?_) (fun _ => .countByClient) _ _
      simp [hc, Command.names, Option.mem_def.1 hn]
  | purge recipient =>
    have hopening : i.opening = { role := .server, address := i.url.map .text } := by
      simp only [Invocation.opening, hc, Command.role]
    refine fails_opened hopening fun h host' hr hunfit => ?_
    refine Report.Fails.andThen ?_ fun _ _ => Host.fails_say _ _
    intro f hf
    have hf' : (h.call host'.now (.mailbox (.purge (.text recipient))) host'.storage).outcome =
        .error f := by
      rwa [closing, Host.call, Host.settle_outcome] at hf
    rcases Makes.purge.failure_of_call hr hf' with hclass | ⟨what, htarget, rfl⟩ | ⟨hsize, rfl⟩
    · exact hstore f hclass
    · exact hunfit what htarget
    · exact hlong recipient (by simp [hc, Command.names]) hsize

/-- Whatever the command line, the settings and the files, the program says what it has to say of
itself and ends with code 0 or 2, or it carries a command out and ends with code 0, or it prints one
line about a failure that the stores define and ends with code 1. If a failure leaves the program, the
address has been refused for its text alone, or the directories of the address or a name exceed what
nobody checks. This is about words and settings that are Unicode texts. -/
theorem run_ends (host : Host) (words : List String) :
    let e := (run host words).1
    (∃ stop, Invocation.read words = .error stop ∧ e = stop.exit ∧
      (e.outcome = .ok 0 ∧ e.errors = "" ∨ e.outcome = .ok 2)) ∨
    ∃ i, Invocation.read words = .ok i ∧
      (e.outcome = .ok 0 ∧ e.errors = "" ∨
        (∃ (f : Failure) (c : ErrorClass), f.class? = some c ∧ c ≠ .store ∧ e.outcome = .ok 1 ∧
          e.errors = "❌ " ++ c.name ++ ": " ++ f.message ++ "\n") ∨
        ∃ f, (i.opening.Refuses host.settings f ∨ i.Exceeds host.settings host.storage.tree f) ∧
          e.outcome = .error f) := by
  intro e
  cases hi : Invocation.read words with
  | error stop =>
    have he : e = stop.exit := congrArg Prod.fst (@run_of_stop host words stop hi)
    refine .inl ⟨stop, rfl, he, ?_⟩
    rw [he]
    cases stop with
    | help g => exact .inl ⟨rfl, rfl⟩
    | problem g p => exact .inr rfl
  | ok i =>
    have he : e = exitOf (execute host i) := by
      simp only [e, run, hi]
    refine .inr ⟨i, rfl, ?_⟩
    rw [he]
    cases ho : (execute host i).outcome with
    | ok u => exact .inl (by simp only [exitOf, ho, and_self])
    | error f =>
      cases hclass : f.class? with
      | some c =>
        refine .inr (.inl ⟨f, c, hclass, ?_, ?_⟩)
        · rintro rfl
          exact f.class?_ne_store hclass
        · simp only [exitOf, ho, hclass, failureCode, and_self]
      | none =>
        rcases fails_execute host i f ho with hsome | hrefused
        · rw [hclass] at hsome
          cases hsome
        · exact .inr (.inr ⟨f, hrefused, by simp only [exitOf, ho, hclass]⟩)

/-- Failures that the stores do not define leave the program: for an address that cannot be read, for
drivers that are not fit for this use or that there are not, for a number in the address that is none,
and for an option that the database refuses when it is first used. -/
theorem failures_escape :
    let ends (address : String) : Except Failure Nat :=
      (run {} ["--url", address, "init"]).1.outcome
    ends "-1" = .error (.address .unparsable) ∧
      ends "sqlite:///a.db" = .error (.address .blocking) ∧
      ends "nosql:///a.db" = .error (.address (.unknownDriver "nosql")) ∧
      ends "sqlite+aiosqlite://host:x/a.db" = .error (.address (.badWhole "x" .unreadable)) ∧
      ends "sqlite+aiosqlite:///a.db?cached_statements=9999999999" = .error (.unfit .number) ∧
      (Failure.address .unparsable).class? = none ∧ (Failure.unfit .number).class? = none := by
  refine ⟨?_, ?_, ?_, ?_, ?_, rfl, rfl⟩
  all_goals decide +kernel

end CommandLine

end

end DeliveryStore
