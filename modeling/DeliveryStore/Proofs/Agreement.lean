import DeliveryStore.Proofs.Accounting
import DeliveryStore.Proofs.Commands
import DeliveryStore.Proofs.Listing
import DeliveryStore.Proofs.ManyHandles
import DeliveryStore.Proofs.Words

/-!
# Commands and calls

On an initialised server in an ordinary file a purge and a count from the command line come to what
the calls come to through a handle on the file, and print that, whatever the names are. Only a name
that is two dashes is lost to a count. Main statements:

* `Session.offers_over_handles` — a file in which a server has made its tables goes on being offered;
* `Session.Offers.purge` — a purge from the command line is the call, and the handle is closed;
* `Session.Offers.stats` — a count from the command line is the two calls, and leaves the data.
-/

namespace DeliveryStore

/-! ## Entering an ordinary file -/

namespace Host.OpensAt

variable {host : Host} {o : Opening} {h : Handle} {w : Site} {c : Channel} {s : Storage}

theorem enter_eq (ho : host.OpensAt o h w) (he : h.enter (host.storage.prepared w) = (.ok c, s)) :
    (host.storage.prepared w).enter h.number w.target false = (.ok c, s) := by
  unfold Handle.enter at he
  rw [ho.isAt.target_eq, ho.isAt.outside] at he
  dsimp only at he
  rcases hentered : (host.storage.prepared w).enter h.number w.target false with ⟨fault | c', s'⟩
  · rw [hentered] at he
    cases he
  · rw [hentered] at he
    cases he
    rfl

/-- The handle enters the file by a log of its own, and the file is more than blank then. -/
theorem uses (ho : host.OpensAt o h w) (he : h.enter (host.storage.prepared w) = (.ok c, s)) :
    c.Uses w.path h.number ∧ s.tree.IsSolid w.path := by
  obtain ⟨-, -, huses, -, -, ⟨u, hsolid, hopen⟩, -⟩ :=
    Storage.enter_first ho.earlier (ho.enter_eq he)
  exact ⟨huses, hsolid.openLog hopen⟩

/-- The file is the place that an invocation reaches which opens the address. -/
theorem reaches {i : CommandLine.Invocation} (ho : host.OpensAt i.opening h w)
    (he : h.enter (host.storage.prepared w) = (.ok c, s)) : i.Reaches host (.file w.path) := by
  have hcompleted : (i.opening.complete host.settings host.asked host.storage).outcome = .ok h := by
    rw [← Host.settle_outcome, ← Host.openAs, ho.report]
  obtain ⟨target, htarget, hplace⟩ :=
    Handle.placeOf_of_enter (Storage.channel?_eq_none ho.earlier) (congrArg Prod.fst he)
  rw [ho.number_eq, (ho.uses he).1.place_eq] at hplace
  refine ⟨target, (Opening.opens_of_complete hcompleted).2 target htarget, ?_⟩
  rw [ho.report]
  exact hplace

/-- Once the handle has purged its file, storage carries the data that there are in the file then. -/
theorem carries_of_purge (ho : host.OpensAt o h w) {now : Moment} {recipient : String}
    {reply : Reply Row}
    (hcall : (h.call now (.mailbox (.purge (.text recipient))) (host.storage.prepared w)).outcome =
      .ok reply) :
    ∃ data, (h.call now (.mailbox (.purge (.text recipient)))
      (host.storage.prepared w)).storage.Carries w h.number data := by
  obtain ⟨-, c, s, commit, -, he, -, -, -, hwrite⟩ := Handle.written_of_purge hcall
  exact ⟨_, (Storage.carries_of_write ho.plain ho.made rfl ho.earlier (ho.enter_eq he) hwrite).2⟩

/-- If the handle sees any data they were those of the file before it was opened. -/
theorem dataAt_eq (ho : host.OpensAt o h w) (he : h.enter (host.storage.prepared w) = (.ok c, s))
    (hsome : s.read c ≠ {}) : s.tree.dataAt w.path = host.storage.tree.dataAt w.path := by
  obtain ⟨huses, -⟩ := ho.uses he
  have hread : s.read c = s.tree.dataAt w.path := by
    simp only [Storage.read, huses.thawed, huses.place_eq]
  have hmade : (host.storage.prepared w).tree.dataAt w.path = host.storage.tree.dataAt w.path :=
    (host.storage.tree.same_makeDirectories w.directories).dataAt_eq w.path
  rcases Storage.dataAt_enter (ho.enter_eq he) huses.place_eq with hsame | hnone
  · exact hsame.trans hmade
  · exact absurd (hread.trans hnone) hsome

end Host.OpensAt

/-! ## Calls that only read -/

/-- A call that passes its checks, only reads and notes nothing leaves storage as entering leaves it. -/
theorem Handle.call_of_reading {h : Handle} {s s' : Storage} {c : Channel} {call : Call} {r : Request}
    {now : Moment} (commit : Commit) (he : h.enter s = (.ok c, s'))
    (hoffers : h.role.stores.contains call.store = true) (hcheck : call.check now = .ok r)
    (hreads : r.writes = false) (hcarry : (s'.read c).carryOut c.readOnly r = .ok commit)
    (hnote : commit.note = none) :
    h.call now call s = { outcome := .ok commit.reply, storage := s' } := by
  rw [Handle.call_of_check s hoffers hcheck]
  unfold Handle.perform
  simp only [he, hcarry, hreads, Bool.false_eq_true, if_false, hnote, Option.map_none]

section

variable {h : Handle} {s s' : Storage} {c : Channel} {now : Moment}

/-- A server that has entered a database with its messages counts those for a name. -/
theorem Handle.call_pendingCount (he : h.enter s = (.ok c, s')) (hrole : h.role = .server)
    {rows : List Message} (hrows : (s'.read c).messages = some rows) (recipient : Name) :
    h.call now (.mailbox (.pendingCount (.text recipient.text))) s =
      { outcome := .ok (.count (rows.countP (·.recipient == recipient))), storage := s' } := by
  have hcheck : Call.check now (.mailbox (.pendingCount (.text recipient.text))) =
      .ok (.mailbox (.pendingCount recipient)) := by
    have hname := Argument.name_text recipient "recipient"
    simp only [Call.check, Mailbox.Call.check, hname]
    rfl
  refine call_of_reading ⟨s'.read c, _, none⟩ he ?_ hcheck rfl ?_ rfl
  · rw [hrole]
    rfl
  · have hsame : { s'.read c with messages := some rows } = s'.read c := by rw [← hrows]
    simp only [Database.carryOut, hrows]
    exact congrArg (fun d => Except.ok (Commit.mk d _ none)) hsame

/-- A server that has entered a database with its key packages counts those of a client. -/
theorem Handle.call_countByClient (he : h.enter s = (.ok c, s')) (hrole : h.role = .server)
    {rows : List KeyPackage} (hrows : (s'.read c).keyPackages = some rows) (client : Name) :
    h.call now (.keyPackages (.countByClient (.text client.text))) s =
      { outcome := .ok (.count (rows.countP (·.client == client))), storage := s' } := by
  have hcheck : Call.check now (.keyPackages (.countByClient (.text client.text))) =
      .ok (.keyPackages (.countByClient client)) := by
    have hname := Argument.name_text client "client_id"
    simp only [Call.check, KeyPackages.Call.check, hname]
    rfl
  refine call_of_reading ⟨s'.read c, _, none⟩ he ?_ hcheck rfl ?_ rfl
  · rw [hrole]
    rfl
  · have hsame : { s'.read c with keyPackages := some rows } = s'.read c := by rw [← hrows]
    simp only [Database.carryOut, hrows]
    exact congrArg (fun d => Except.ok (Commit.mk d _ none)) hsame

end

/-! ## Commands -/

namespace Report

variable {α β : Type}

theorem andThen_ok {r : Report α} {a : α} (h : r.outcome = .ok a) (next : α → Host → Report β) :
    r.andThen next =
      { next a r.host with text := r.text ++ (next a r.host).text } := by
  simp only [andThen, h]

end Report

namespace CommandLine

/-- The line that a count prints for a name, if the name is not lost. -/
def line (sign name : String) (n : Nat) (unit : String) : String :=
  if name = "--" then "" else sign ++ name ++ ": " ++ n.repr ++ unit

/-- The two counts of a count from the command line. -/
def counts (host : Host) (h : Handle) (recipient client : Option String) : Report Unit :=
  (count host h recipient (.mailbox <| .pendingCount ·) "📬 " " pending message(s)\n").andThen
    fun _ host =>
      count host h client (.keyPackages <| .countByClient ·) "🔑 " " key package(s)\n"

variable {host : Host} {h : Handle} {name : String} {call : Value → Call} {n : Nat} {s : Storage}

/-- A count that calls and is answered with a number prints that number. -/
theorem count_of_call (host : Host) (hne : name ≠ "") (hd : name ≠ "--")
    (hcall : h.call host.now (call (.text name)) host.storage =
      { outcome := .ok (.count n), storage := s }) (sign unit : String) :
    count host h (taken name) call sign unit =
      { outcome := .ok (), text := line sign name n unit, host := { host with storage := s } } := by
  have hreport : host.call h (call (.text name)) =
      { outcome := .ok (.count n), host := { host with storage := s } } := by
    unfold Host.call
    rw [hcall, Host.settle_eq]
    rfl
  unfold count
  rw [taken_of_ne hd]
  dsimp only
  rw [if_neg hne, hreport, Report.andThen_ok rfl, line, if_neg hd]
  simp only [Host.say, String.empty_append]
  rfl

/-- A purge that calls and is answered with a number prints what the call prints and that number, and
closes the handle. -/
theorem purge_of_call {after : Host} {url recipient : String}
    (hopened : host.openAs { role := .server, address := some (.text url) } =
      { outcome := .ok h, host := after })
    (hcall : (after.call h (.mailbox (.purge (.text recipient)))).outcome = .ok (.count n)) :
    let called := after.call h (.mailbox (.purge (.text recipient)))
    purge host (some url) recipient =
      { outcome := .ok ()
        text := called.text ++ ("🗑️  " ++ recipient ++ ": " ++ n.repr ++ " message(s) purged\n")
        host := called.host.close h } := by
  intro called
  have hclosed : (closing h called).outcome = .ok (.count n) := hcall
  unfold purge
  rw [Option.map_some, hopened, Report.andThen_ok rfl]
  dsimp only
  rw [Report.andThen_ok hclosed]
  simp only [Host.say, String.empty_append]
  rfl

/-- A count of a name that is lost prints nothing. -/
theorem count_of_lost (host : Host) (h : Handle) (call : Value → Call) (sign unit : String)
    (n : Nat) :
    count host h (taken "--") call sign unit =
      { outcome := .ok (), text := line sign "--" n unit, host } := rfl

/-- Two counts, of which one may be lost, print what their calls are answered. -/
theorem counts_of_calls {recipient client : String} {m : Nat} (hr : recipient ≠ "")
    (hc : client ≠ "") (hd : recipient = "--" → client ≠ "--")
    (hpending : h.call host.now (.mailbox (.pendingCount (.text recipient))) host.storage =
      { outcome := .ok (.count n), storage := s })
    (hpackages : ∀ s', s' = host.storage ∨ s' = s →
      h.call host.now (.keyPackages (.countByClient (.text client))) s' =
        { outcome := .ok (.count m), storage := s }) :
    counts host h (taken recipient) (taken client) =
      { outcome := .ok ()
        text := line "📬 " recipient n " pending message(s)\n" ++
          line "🔑 " client m " key package(s)\n"
        host := { host with storage := s } } := by
  unfold counts
  by_cases hlost : recipient = "--"
  · subst hlost
    rw [count_of_lost host h _ _ _ n, Report.andThen_ok rfl]
    dsimp only
    rw [count_of_call host hc (hd rfl) (hpackages host.storage (.inl rfl))]
  · rw [count_of_call host hr hlost hpending, Report.andThen_ok rfl]
    dsimp only
    by_cases hlost' : client = "--"
    · subst hlost'
      rw [count_of_lost _ h _ _ _ m]
    · rw [count_of_call { host with storage := s } hc hlost' (hpackages s (.inr rfl))]

/-- A count from the command line is the two counts, after which the handle is closed. -/
theorem stats_eq {after : Host} {url : String} (recipient client : Option String)
    (hopened : host.openAs { role := .server, address := some (.text url) } =
      { outcome := .ok h, host := after }) :
    stats host (some url) recipient client = closing h (counts after h recipient client) := by
  unfold stats
  rw [Option.map_some, hopened, Report.andThen_ok rfl]
  dsimp only
  rw [String.empty_append]
  rfl

end CommandLine

namespace Session

/-- The opening of a server at an address. -/
def server (url : String) : Opening := { role := .server, address := some (.text url) }

/-- A session in which an address of an ordinary file opens, under some name, a server that has been
initialised and has some data. -/
structure Offers (s : Session) (url name : String) (d : Database) : Prop where
  reachable : s.Reachable
  ordinary : ∃ l, Locator.parse url = .ok l ∧ l.IsPlainFile
  opened : ∃ result, (s.step (.opening name (server url))).1.outcome = .done result
  initialised : (s.step (.opening name (server url))).2.Initialised name d

variable {s : Session} {url name : String} {d : Database}

/-- A text that names a database is neither empty nor two dashes. -/
theorem ne_of_parse {l : Locator} (hl : Locator.parse url = .ok l) : url ≠ "" ∧ url ≠ "--" := by
  constructor
  · rintro rfl
    have hfails : Locator.parse "" = .error .unparsable := by decide +kernel
    cases hfails.symm.trans hl
  · rintro rfl
    have hfails : Locator.parse "--" = .error .unparsable := by decide +kernel
    cases hfails.symm.trans hl

/-- The address that is given is the one that counts, unless it is empty. -/
theorem addressIn_server (hne : url ≠ "") (settings : Settings) :
    (server url).addressIn settings = some (.text url) := by
  have htruthy : (Value.text url).isTruthy = true := bne_iff_ne.2 hne
  simp only [Opening.addressIn, server, Opening.orElse, htruthy, if_true]

/-- Where errands can be run through handles on a file, its address is offered. -/
theorem Staffed.offers {w : Site} {first : Nat} {settings : Settings} {names : List String}
    {k : Office} (hw : w.Tried) (ho : (server url).IsAt settings w)
    (hs : s.Staffed w first (server url) settings names k) (hreachable : s.Reachable) {l : Locator}
    (hl : Locator.parse url = .ok l) (hplain : l.IsPlainFile) {durability : Durability}
    (hdurability : Durability.ofValue ((server url).durabilityIn settings) = .ok durability)
    (name : String) : s.Offers url name k.desk.data := by
  have hlike : (server url).Like settings (server url) := ⟨rfl, rfl, durability, hdurability⟩
  have hopens : (∃ opened, (s.step (.opening name (server url))).1.outcome = .done opened) ∧
      (s.step (.opening name (server url))).2.Staffed w first (server url) settings
        (name :: names) k := hs.opening hw ho hlike
  obtain ⟨hopened, hafter⟩ := hopens
  refine ⟨hreachable, ⟨l, hl, hplain⟩, hopened, ?_⟩
  have hdesk := hafter.servesDesk hw List.mem_cons_self
  have hserver : k.desk = ⟨.server, false, k.desk.now, k.desk.data⟩ := by
    rw [← hs.ready.writable, ← show k.desk.role = .server from hs.ready.role_eq]
  rw [hserver] at hdesk
  refine initialised_of_servesDesk (hreachable.step _) hdesk fun store hstore => ?_
  refine hs.ready.tables store ?_
  rw [hs.ready.role_eq]
  exact hstore

/-- Once a server has made its tables in an ordinary file, its address is offered, whatever is done
then through handles on the file. -/
theorem offers_over_handles (hs : s.Reachable) {l : Locator} (hl : Locator.parse url = .ok l)
    (hplain : l.IsPlainFile) {opened : Result}
    (hopened : (s.step (.opening name (server url))).1.outcome = .done opened)
    (hmade : ((s.step (.opening name (server url))).2.step (.initialise name)).1.outcome =
      .done .nothing)
    (moves : List Move) (hmoves : Move.Fit (server url) s.host.settings [name] moves)
    (other : String) :
    ∃ d, ((s.run [.opening name (server url), .initialise name]).2.run
      (moves.map Move.step)).2.Offers url other d := by
  have haddress := addressIn_server (ne_of_parse hl).1 s.host.settings
  obtain ⟨w, first, k, hw, ho, hstaffed⟩ :=
    staffed_of_initialise hs haddress hl hplain hopened hmade
  obtain ⟨names, k', hafter⟩ := hstaffed.after_moves hw ho moves hmoves
  obtain ⟨h, hh, -⟩ := handle_of_opening hopened
  have hcompleted : ((server url).complete s.host.settings s.host.asked s.host.storage).outcome =
      .ok h := by
    rw [← hh, Host.openAs, Host.settle_outcome]
  obtain ⟨-, durability, -, -, hdurability, -⟩ := Opening.complete_cases hcompleted
  exact ⟨_, hafter.offers hw ho ((hs.run _).run _) hl hplain hdurability other⟩

/-- What a session offers is entered by a handle of its own, which sees the data. -/
theorem Offers.entered (hs : s.Offers url name d) :
    ∃ h w c storage, s.host.OpensAt (server url) h w ∧
      (s.step (.opening name (server url))).2.host = s.host.prepared w ∧
      (s.step (.opening name (server url))).2.handles.lookup name = some h ∧
      h.enter (s.host.storage.prepared w) = (.ok c, storage) ∧ storage.read c = d := by
  obtain ⟨l, hl, hplain⟩ := hs.ordinary
  obtain ⟨result, hopened⟩ := hs.opened
  obtain ⟨h, hh, hstep⟩ := handle_of_opening hopened
  obtain ⟨h', hlookup, -, hview⟩ := hs.initialised.handle
  rw [hstep] at hlookup hview ⊢
  rw [lookup_bind, if_pos rfl] at hlookup
  cases hlookup
  -- A handle that sees data has entered.
  obtain ⟨c, storage, he, hread⟩ : ∃ c storage,
      h.enter (s.host.openAs (server url)).host.storage = (.ok c, storage) ∧ storage.read c = d := by
    have hviewed : (h.view id (s.host.openAs (server url)).host.storage).outcome = .ok d := by
      rw [← hview]
      exact (Host.settle_outcome _ _ _).symm
    unfold Handle.view at hviewed
    split at hviewed
    · cases hviewed
    · rename_i c storage he
      exact ⟨c, storage, he, Except.ok.inj hviewed⟩
  obtain ⟨target, htarget⟩ := (Handle.stands_of_enter he).1
  have haddress := addressIn_server (ne_of_parse hl).1 s.host.settings
  obtain ⟨w, hat⟩ := Host.opensAt hs.reachable.earlier haddress hl hplain hh htarget
  rw [hat.report] at he ⊢
  refine ⟨h, w, c, storage, hat, rfl, ?_, he, hread⟩
  rw [lookup_bind, if_pos rfl]

/-- An initialised server answers a purge with the number of the messages that it deletes. -/
theorem Initialised.purges (hs : s.Initialised name d) (recipient : Name) :
    ∃ n, (s.step (.call name (.mailbox (.purge (.text recipient.text))))).1.outcome =
      .done (.reply (.count n)) := by
  obtain ⟨rows, hrows⟩ := Option.isSome_iff_exists.1 (hs.tables .mailbox (by decide))
  have hcheck : (Mailbox.Call.purge (.text recipient.text)).check s.host.now =
      .ok (.purge recipient) := by
    have hname := Argument.name_text recipient "recipient"
    simp only [Mailbox.Call.check, hname]
    rfl
  have hanswer := (hs.servesDesk.step (.call (.mailbox (.purge (.text recipient.text))))).1
  simp only [Desk.serve, Database.answer_mailbox false s.host.now rfl hrows, hcheck, Bool.and_false,
    Bool.false_eq_true, if_false] at hanswer
  exact ⟨_, hanswer⟩

/-- A purge from the command line comes to what the call comes to, prints what that prints and how
many messages it has deleted, and leaves what the call leaves when the handle is closed; the data of the
file are the same by then as before. -/
theorem Offers.purge (hs : s.Offers url name d) (recipient : Name) :
    let library := (s.step (.opening name (server url))).2
    let purged := library.step (.call name (.mailbox (.purge (.text recipient.text))))
    let ran := CommandLine.run s.host ["--url=" ++ url, "purge", "--", recipient.text]
    ∃ path n, CommandLine.Invocation.Reaches ⟨some url, .purge recipient.text⟩ s.host (.file path) ∧
      purged.1.outcome = .done (.reply (.count n)) ∧
      ran.1 =
        { outcome := .ok 0
          output := purged.1.text ++
            ("🗑️  " ++ recipient.text ++ ": " ++ n.repr ++ " message(s) purged\n") } ∧
      ran.2.storage = (purged.2.step (.close name)).2.host.storage ∧
      ran.2.storage.tree.dataAt path = purged.2.host.storage.tree.dataAt path := by
  intro library purged ran
  obtain ⟨l, hl, -⟩ := hs.ordinary
  obtain ⟨h, w, c, storage, hat, hhost, hlookup, he, -⟩ := hs.entered
  obtain ⟨n, hanswer⟩ := hs.initialised.purges recipient
  let call : Call := .mailbox (.purge (.text recipient.text))
  let called := (s.host.prepared w).call h call
  have hpurged : purged = library.take called .reply := by
    have hstep : purged = library.take (library.host.call h call) .reply := step_call hlookup call
    rw [hstep, hhost]
  have hcalled : called.outcome = .ok (.count n) := by
    have htaken : (library.take called .reply).1.outcome = .done (.reply (.count n)) :=
      hpurged ▸ hanswer
    unfold take at htaken
    cases hcall : called.outcome with
    | ok reply =>
      rw [hcall] at htaken
      cases htaken
      rfl
    | error f =>
      rw [hcall] at htaken
      cases htaken
  have hran : ran = (CommandLine.exitOf (CommandLine.purge s.host (some url) recipient.text),
      (CommandLine.purge s.host (some url) recipient.text).host) := by
    simp only [ran, CommandLine.run, CommandLine.Invocation.read_purge,
      CommandLine.taken_of_ne (ne_of_parse hl).2]
    rfl
  rw [CommandLine.purge_of_call hat.report hcalled] at hran
  have hclosed : (purged.2.step (.close name)).2.host.storage =
      called.host.storage.disconnect h.number := by
    have hkept : (library.take called .reply).2.handles.lookup name = some h := hlookup
    rw [hpurged]
    simp only [step, onHandle, hkept]
    rfl
  have hstorage : ran.2.storage = called.host.storage.disconnect h.number := by
    rw [hran]
    rfl
  refine ⟨w.path, n, hat.reaches he, hanswer, ?exit, hstorage.trans hclosed.symm, ?data⟩
  case exit =>
    rw [hran, hpurged]
    rfl
  case data =>
    have houtcome : called.outcome = (h.call s.host.now call (s.host.storage.prepared w)).outcome :=
      Host.settle_outcome _ _ _
    have hleft : called.host.storage = (h.call s.host.now call (s.host.storage.prepared w)).storage :=
      Host.settle_storage _ _ _
    have hafter : purged.2.host.storage = called.host.storage := by
      rw [hpurged]
      rfl
    obtain ⟨data, hcarries⟩ := hat.carries_of_purge (houtcome.symm.trans hcalled)
    rw [hstorage, hafter, hleft, hcarries.data.dataAt]
    exact (hcarries.disconnect (Nat.le_refl _)).data.dataAt

/-- A count from the command line prints what the two calls count, leaving a name out that is lost; the
data of the file are the same after it as before. -/
theorem Offers.stats (hs : s.Offers url name d) (recipient client : Name)
    (hd : recipient.text = "--" → client.text ≠ "--") :
    let library := (s.step (.opening name (server url))).2
    let pending := library.step (.call name (.mailbox (.pendingCount (.text recipient.text))))
    let packages := library.step (.call name (.keyPackages (.countByClient (.text client.text))))
    let command : CommandLine.Command :=
      .stats (CommandLine.taken recipient.text) (CommandLine.taken client.text)
    let ran := CommandLine.run s.host
      ["--url=" ++ url, "stats", "--recipient=" ++ recipient.text, "--client-id=" ++ client.text]
    ∃ path n m, CommandLine.Invocation.Reaches ⟨some url, command⟩ s.host (.file path) ∧
      pending.1.outcome = .done (.reply (.count n)) ∧
      packages.1.outcome = .done (.reply (.count m)) ∧
      ran.1 =
        { outcome := .ok 0
          output := CommandLine.line "📬 " recipient.text n " pending message(s)\n" ++
            CommandLine.line "🔑 " client.text m " key package(s)\n" } ∧
      ran.2.storage.tree.dataAt path = s.host.storage.tree.dataAt path := by
  intro library pending packages command ran
  obtain ⟨l, hl, -⟩ := hs.ordinary
  obtain ⟨h, w, c, storage, hat, hhost, hlookup, he, hread⟩ := hs.entered
  obtain ⟨messages, hmessages⟩ :=
    Option.isSome_iff_exists.1 (hs.initialised.tables .mailbox (by decide))
  obtain ⟨rows, hrows⟩ :=
    Option.isSome_iff_exists.1 (hs.initialised.tables .keyPackages (by decide))
  obtain ⟨⟨target, htarget⟩, known, hstands⟩ := Handle.stands_of_enter he
  -- Entering again changes nothing, so that the calls are answered alike before and after.
  have hagain : h.enter storage = (.ok { c with known }, storage) :=
    Handle.enter_of_stands htarget hstands
  let host := s.host.prepared w
  obtain ⟨n, hpending⟩ : ∃ n, h.call host.now (.mailbox (.pendingCount (.text recipient.text)))
      host.storage = { outcome := .ok (.count n), storage } :=
    ⟨_, Handle.call_pendingCount he hat.role_eq (hread.symm ▸ hmessages) recipient⟩
  obtain ⟨m, hpackages⟩ : ∃ m, ∀ s', s' = host.storage ∨ s' = storage →
      h.call host.now (.keyPackages (.countByClient (.text client.text))) s' =
        { outcome := .ok (.count m), storage } := by
    refine ⟨rows.countP (·.client == client), ?_⟩
    rintro s' (rfl | rfl)
    · exact Handle.call_countByClient he hat.role_eq (hread.symm ▸ hrows) client
    · exact Handle.call_countByClient hagain hat.role_eq (hread.symm ▸ hrows) client
  have hran : ran = (CommandLine.exitOf (CommandLine.stats s.host (some url)
      (CommandLine.taken recipient.text) (CommandLine.taken client.text)),
        (CommandLine.stats s.host (some url)
          (CommandLine.taken recipient.text) (CommandLine.taken client.text)).host) := by
    simp only [ran, CommandLine.run,
      CommandLine.Invocation.read_stats url recipient.text_ne client.text_ne hd,
      CommandLine.taken_of_ne (ne_of_parse hl).2]
    rfl
  rw [CommandLine.stats_eq _ _ hat.report,
    CommandLine.counts_of_calls recipient.text_ne client.text_ne hd hpending hpackages] at hran
  refine ⟨w.path, n, m, hat.reaches he, ?pending, ?packages, ?exit, ?data⟩
  case pending =>
    have hdone := (does_call hlookup (.mailbox (.pendingCount (.text recipient.text)))).outcome
    rw [hhost, hpending] at hdone
    exact hdone
  case packages =>
    have hdone := (does_call hlookup (.keyPackages (.countByClient (.text client.text)))).outcome
    rw [hhost, hpackages _ (.inl rfl)] at hdone
    exact hdone
  case exit =>
    rw [hran]
    rfl
  case data =>
    have hsome : storage.read c ≠ {} := by
      rw [hread]
      rintro rfl
      cases hmessages
    obtain ⟨huses, hsolid⟩ := hat.uses he
    have hclosed : ran.2.storage = storage.disconnect h.number := by
      rw [hran]
      rfl
    rw [hclosed, Storage.dataAt_disconnect hstands.channel huses.place_eq hsolid]
    exact hat.dataAt_eq he hsome

/-- A message for a recipient of two dashes waits, but a count from the command line does not speak of
it. -/
example :
    let url := "sqlite+aiosqlite:///a.db"
    let enqueue : Call := .mailbox
      (.enqueue (.uuid ⟨List.replicate 16 1, rfl⟩) (.text "--") (.bytes .fixed [1]) .null)
    let s := ((Session.start []).run
      [.opening "a" (server url), .initialise "a", .call "a" enqueue]).2
    let ran := CommandLine.run s.host ["--url=" ++ url, "stats", "--recipient=--", "--client-id=c"]
    ran.1.outcome = .ok 0 ∧ ran.1.output = "🔑 c: 0 key package(s)\n" := by
  decide +kernel

end Session

end DeliveryStore
