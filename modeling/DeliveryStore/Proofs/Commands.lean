import DeliveryStore.Proofs.Packages
import DeliveryStore.Proofs.Places

/-!
# What commands leave alone

A command line changes no rows, unless it is a purge that ends with success: this takes away the
messages for the recipient that it names, in the database that it opens, and nothing else. A command
line that is not carried out touches nothing at all. As for calls, databases have to lie apart. Main
statements:

* `CommandLine.spares_init`, `CommandLine.spares_stats`, `CommandLine.purge_cases` — what becomes of
  the rows by each command;
* `Session.Within.rows_of_command` — what becomes of them by a command line.
-/

namespace DeliveryStore

/-! ## Opening a database -/

/-- Making directories leaves all data. -/
theorem FileTree.same_makeAlong (t : FileTree) (done : List FileName) (made : Bool)
    (names : List FileName) : t.Same (t.makeAlong done made names).2 := by
  induction names generalizing t done made with
  | nil => exact .refl t
  | cons name rest ih =>
    unfold makeAlong
    dsimp only
    split
    · exact .refl t
    split
    · exact ih t _ _
    · exact .refl t
    · rename_i hnone
      have hput : t.Same (t.put (Path.resolve (done ++ [name])) .directory) := by
        refine same_put ?_ ?_ <;> rw [hnone] <;> rfl
      exact hput.trans (ih _ _ _)

theorem FileTree.same_makeDirectories (t : FileTree) (names : List FileName) :
    t.Same (t.makeDirectories names).2 := by
  unfold makeDirectories
  split
  · exact .refl t
  · exact t.same_makeAlong _ _ _

/-- Opening a database leaves storage as it was, or makes directories. -/
theorem Opening.complete_storage (o : Opening) (settings : Settings) (number : Nat) (s : Storage) :
    (o.complete settings number s).storage = s ∨ ∃ names,
      (o.complete settings number s).storage =
        { s with tree := (s.tree.makeDirectories names).2 } := by
  unfold complete
  split
  · exact .inl rfl
  · exact .inl rfl
  split
  · exact .inl rfl
  dsimp only
  split
  · exact .inl rfl
  split
  · exact .inl rfl
  split <;> exact .inr ⟨_, rfl⟩

section

variable {P : Path → Prop} {host : Host} {h : Handle} {handle n : Nat}

/-- Opening a database leaves storage in order and changes no rows. -/
theorem Host.spares_openAs (hP : Path.Apart P) (hs : host.storage.Orderly P handle) (o : Opening) :
    (host.openAs o).host.storage.Orderly P handle ∧
      host.storage.Spares handle (host.openAs o).host.storage := by
  unfold openAs
  rw [settle_storage]
  rcases o.complete_storage host.settings host.asked host.storage with hstorage | ⟨names, hstorage⟩
  · rw [hstorage]
    exact ⟨hs, host.storage.spares_self handle⟩
  rw [hstorage]
  obtain ⟨hsound, hkept⟩ :=
    (Storage.invariant_kept hP).directories (n := 0) names ⟨hs.sound, hs.kept⟩
  have hsame := host.storage.tree.same_makeDirectories names
  exact ⟨⟨hsound, hkept, hs.numbered⟩, Storage.Readied.spares ⟨hkept, hsame, rfl⟩ id⟩

/-- A handle that has no channel yet enters at the place that its target opens. -/
theorem Handle.placeOf_of_enter {s : Storage} {c : Channel} (hnone : s.channel? h.number = none)
    (he : (h.enter s).1 = .ok c) :
    ∃ target, h.target = .ok target ∧ s.placeOf h.number target = .ok c.place := by
  unfold enter at he
  cases ht : h.target with
  | error refusal =>
    rw [ht] at he
    cases he
  | ok target =>
    rw [ht] at he
    dsimp only at he
    rw [Storage.enter_eq] at he
    rcases hconnect : s.connect h.number target h.inMemory with ⟨fault | d, s₁⟩
    · rw [hconnect] at he
      cases he
    rw [hconnect] at he
    dsimp only at he
    have hready : c.place = d.place := by
      unfold Storage.ready at he
      split at he
      · split at he
        · cases he
        · rename_i hrefresh
          cases he
          rw [Channel.refresh_frame hrefresh]
      · cases he
        rfl
    refine ⟨target, rfl, ?_⟩
    rw [hready]
    unfold Storage.connect at hconnect
    rw [hnone] at hconnect
    dsimp only at hconnect
    split at hconnect
    · cases hconnect
    rename_i place hplace
    rw [hplace]
    split at hconnect
    · rename_i d' hsharing
      cases hconnect
      unfold Storage.sharing? at hsharing
      split at hsharing
      · have hfound := List.find?_some hsharing
        simp only [Bool.and_eq_true, beq_iff_eq] at hfound
        exact congrArg Except.ok hfound.2.symm
      · cases hsharing
    · rcases Storage.openChannel_ok hconnect with ⟨_, _, _, -, -, hsettle, -⟩ | ⟨-, rfl, -⟩
      · rw [Channel.settle_frame hsettle]
        exact congrArg Except.ok (Storage.place_new _ _ _).symm
      · exact congrArg Except.ok (Storage.place_new _ _ _).symm

end

/-! ## Reports -/

/-- A report after which storage is in order and all rows are what they were. -/
structure Report.Spares {α : Type} (P : Path → Prop) (handle : Nat) (host : Host) (r : Report α) :
    Prop where
  orderly : r.host.storage.Orderly P handle
  rows : host.storage.Spares handle r.host.storage

namespace Report

variable {α β : Type} {P : Path → Prop} {host : Host} {handle : Nat} {r : Report α}
  {next : α → Host → Report β}

/-- Going on ends with a failure, or comes to what comes next. -/
theorem andThen_cases (r : Report α) (next : α → Host → Report β) :
    (∃ f, r.outcome = .error f ∧ (r.andThen next).outcome = .error f ∧
      (r.andThen next).host = r.host) ∨
    ∃ a, r.outcome = .ok a ∧ (r.andThen next).outcome = (next a r.host).outcome ∧
      (r.andThen next).host = (next a r.host).host := by
  unfold andThen
  cases hr : r.outcome with
  | error f => exact .inl ⟨f, rfl, rfl, rfl⟩
  | ok a => exact .inr ⟨a, rfl, rfl, rfl⟩

/-- Saying something at the end leaves the host. -/
theorem andThen_say (r : Report α) (text : α → String) :
    (r.andThen fun a host => host.say (text a)).host = r.host := by
  rcases r.andThen_cases fun a host => host.say (text a) with ⟨_, -, -, hhost⟩ | ⟨_, -, -, hhost⟩
  · exact hhost
  · exact hhost

theorem Spares.andThen (hr : r.Spares P handle host)
    (hnext : ∀ a host', host'.storage.Orderly P handle → (next a host').Spares P handle host') :
    (r.andThen next).Spares P handle host := by
  rcases r.andThen_cases next with ⟨f, -, -, hhost⟩ | ⟨a, -, -, hhost⟩
  · exact ⟨hhost ▸ hr.orderly, hhost ▸ hr.rows⟩
  · have hlater := hnext a r.host hr.orderly
    exact ⟨hhost ▸ hlater.orderly, hhost ▸ hr.rows.trans hlater.rows⟩

end Report

namespace CommandLine

variable {P : Path → Prop} {host : Host} {h : Handle} {n : Nat}

/-- Storage in which a command can begin: it is in order, and all channels are from before the next
handle. -/
structure Begins (P : Path → Prop) (host : Host) : Prop where
  sound : host.storage.Sound
  kept : host.storage.Kept P
  distinct : Channel.Distinct host.storage.channels
  earlier : ∀ c ∈ host.storage.channels, c.IsEarlier host.asked

/-- Where a command begins no channel has the number of the next handle. -/
theorem Begins.orderly (hs : Begins P host) : host.storage.Orderly P host.asked :=
  ⟨hs.sound, hs.kept, hs.distinct, fun c hc hn =>
    absurd hn (Nat.ne_of_lt (hs.earlier c hc).number_lt)⟩

/-- The next handle has no channel when its database has been opened. -/
theorem Begins.channel?_eq_none (hs : Begins P host) (o : Opening) :
    (host.openAs o).host.storage.channel? host.asked = none := by
  have hchannels : (host.openAs o).host.storage.channels = host.storage.channels := by
    rw [Host.openAs, Host.settle_storage]
    rcases o.complete_storage host.settings host.asked host.storage with h | ⟨names, h⟩ <;> rw [h]
  refine Storage.channel?_eq_none ?_
  rw [hchannels]
  exact hs.earlier

/-! ## Commands -/

/-- Closing the handle of a command changes no rows. -/
theorem spares_closing {α : Type} (hP : Path.Apart P) {r : Report α}
    (hr : r.Spares P h.number host) : host.storage.Spares h.number (closing h r).host.storage :=
  hr.rows.trans (hr.orderly.disconnect hP)

/-- A count changes no rows, if what is called only reads. -/
theorem spares_count (hP : Path.Apart P) (hs : host.storage.Orderly P h.number)
    (hh : h.Admitted (Target.Within P) n) (name : Option String) {call : Value → Call}
    (hc : ∀ v now r, (call v).check now = .ok r → r.writes = false) (sign unit : String) :
    (count host h name call sign unit).Spares P h.number host := by
  unfold count
  cases name with
  | none => exact ⟨hs, host.storage.spares_self _⟩
  | some name =>
    dsimp only
    split
    · exact ⟨hs, host.storage.spares_self _⟩
    · obtain ⟨horderly, hspares⟩ :=
        Handle.spares_of_reading hP hs hh fun r hr => hc (.text name) host.now r hr
      rw [← Host.settle_storage host h.name] at horderly hspares
      have hcalled : (host.call h (call (.text name))).Spares P h.number host := ⟨horderly, hspares⟩
      exact hcalled.andThen fun _ host' hs' => ⟨hs', host'.storage.spares_self _⟩

/-- A database that a command has opened is open to the next handle, and nothing but directories has
been made. -/
theorem opened (hP : Path.Apart P) (hs : Begins P host) {o : Opening}
    (ho : ∀ target, o.Opens host.settings target → target.Within P) :
    host.storage.Spares host.asked (host.openAs o).host.storage ∧
      ∀ h, (host.openAs o).outcome = .ok h → h.number = host.asked ∧
        (host.openAs o).host.storage.Orderly P h.number ∧
        ∃ n, h.Admitted (Target.Within P) n := by
  obtain ⟨horderly, hspares⟩ := Host.spares_openAs hP hs.orderly o
  refine ⟨hspares, fun h hh => ?_⟩
  have hcomplete := hh
  rw [Host.openAs, Host.settle_outcome] at hcomplete
  have hnumber := (Opening.opens_of_complete hcomplete).1
  exact ⟨hnumber, hnumber ▸ horderly, _, Host.admitted_openAs ho hh⟩

/-- What is done with an opened database changes no rows, if it changes none whatever the handle. -/
theorem spares_opened {α : Type} (hP : Path.Apart P) (hs : Begins P host) {o : Opening}
    (ho : ∀ target, o.Opens host.settings target → target.Within P)
    {next : Handle → Host → Report α}
    (hnext : ∀ h (host' : Host) n, host'.storage.Orderly P h.number →
      h.Admitted (Target.Within P) n →
        host'.storage.Spares h.number (next h host').host.storage) :
    host.storage.Spares host.asked ((host.openAs o).andThen next).host.storage := by
  obtain ⟨hspares, hhandle⟩ := opened hP hs ho
  rcases (host.openAs o).andThen_cases next with ⟨f, -, -, hhost⟩ | ⟨h, hh, -, hhost⟩
  · rw [hhost]
    exact hspares
  · obtain ⟨hnumber, horderly, n, hadmitted⟩ := hhandle h hh
    rw [hhost]
    exact hspares.trans (hnumber ▸ hnext h _ n horderly hadmitted)

/-- Making tables from the command line changes no rows. -/
theorem spares_init (hP : Path.Apart P) (hs : Begins P host) (url name : Option String)
    (ho : ∀ target, Opening.Opens
      { role := if name = some "client" then .client else .server, address := url.map .text }
        host.settings target → target.Within P) :
    host.storage.Spares host.asked (init host url name).host.storage := by
  unfold init
  refine spares_opened hP hs ho fun h host' n horderly hadmitted => ?_
  obtain ⟨hmade, hspares⟩ := Handle.spares_initialise hP horderly hadmitted
  rw [← Host.settle_storage host' h.name] at hmade hspares
  have hinitialised : (host'.initialise h).Spares P h.number host' := ⟨hmade, hspares⟩
  rw [Report.andThen_say]
  exact spares_closing hP hinitialised

/-- Counting from the command line changes no rows. -/
theorem spares_stats (hP : Path.Apart P) (hs : Begins P host) (url recipient client : Option String)
    (ho : ∀ target, Opening.Opens { role := .server, address := url.map .text } host.settings target →
      target.Within P) :
    host.storage.Spares host.asked (stats host url recipient client).host.storage := by
  have hpending : ∀ v now r, (Call.mailbox (.pendingCount v)).check now = .ok r →
      r.writes = false := by
    intro v now r hr
    cases hcheck : Mailbox.Call.check now (.pendingCount v) with
    | error f =>
      rw [Call.check, hcheck] at hr
      cases hr
    | ok request =>
      rw [Call.check, hcheck] at hr
      cases hr
      exact Mailbox.check_pendingCount hcheck
  have hpackages : ∀ v now r, (Call.keyPackages (.countByClient v)).check now = .ok r →
      r.writes = false := by
    intro v now r hr
    cases hcheck : KeyPackages.Call.check now (.countByClient v) with
    | error f =>
      rw [Call.check, hcheck] at hr
      cases hr
    | ok request =>
      rw [Call.check, hcheck] at hr
      cases hr
      refine KeyPackages.check_reading hcheck ?_ ?_
      · rintro _ _ _ _ ⟨⟩
      · rintro _ ⟨⟩
  unfold stats
  refine spares_opened hP hs ho fun h host' n horderly hadmitted => spares_closing hP ?_
  exact (spares_count hP horderly hadmitted recipient hpending _ _).andThen fun _ _ hs' =>
    spares_count hP hs' hadmitted client hpackages _ _

/-- A purge from the command line fails and changes no rows, or takes away the messages for its
recipient at the place that its address opens, and nothing else. -/
theorem purge_cases (hP : Path.Apart P) (hs : Begins P host) (url : Option String) (recipient : String)
    (ho : ∀ target, Opening.Opens { role := .server, address := url.map .text } host.settings target →
      target.Within P) :
    (∃ f, (purge host url recipient).outcome = .error f) ∧
        host.storage.Spares host.asked (purge host url recipient).host.storage ∨
      (purge host url recipient).outcome = .ok () ∧
        ∃ target place, Opening.Opens { role := .server, address := url.map .text } host.settings target ∧
          (host.openAs { role := .server, address := url.map .text }).host.storage.placeOf host.asked
            target = .ok place ∧
          host.storage.Turns host.asked (fun q r => if q = place then r.without recipient else r)
            (purge host url recipient).host.storage := by
  obtain ⟨hspares, hhandle⟩ := opened hP hs ho
  unfold purge
  rcases Report.andThen_cases (host.openAs _) _ with ⟨f, -, houtcome, hhost⟩ | ⟨h, hh, houtcome, hhost⟩
  · rw [hhost]
    exact .inl ⟨⟨f, houtcome⟩, hspares⟩
  obtain ⟨hnumber, horderly, n, hadmitted⟩ := hhandle h hh
  rw [hhost, houtcome, Report.andThen_say]
  let opened := (host.openAs { role := .server, address := url.map .text }).host
  let call : Call := .mailbox (.purge (.text recipient))
  have hstorage : (opened.call h call).host.storage = (h.call opened.now call opened.storage).storage :=
    Host.settle_storage _ _ _
  have hresult : (opened.call h call).outcome = (h.call opened.now call opened.storage).outcome :=
    Host.settle_outcome _ _ _
  rcases Report.andThen_cases (closing h (opened.call h call)) _ with
    ⟨f, hf, hfailed, -⟩ | ⟨reply, hreply, hdone, -⟩
  · left
    obtain ⟨hfailed', hspares'⟩ := Handle.spares_of_failed hP horderly hadmitted (hresult ▸ hf)
    rw [← hstorage] at hfailed' hspares'
    have hcalled : (opened.call h call).Spares P h.number opened := ⟨hfailed', hspares'⟩
    exact ⟨⟨f, hfailed⟩, hspares.trans (hnumber ▸ spares_closing hP hcalled)⟩
  · right
    obtain ⟨c, hc, hpurged, hturns⟩ := Handle.turns_of_purge hP horderly hadmitted (hresult ▸ hreply)
    rw [← hstorage] at hpurged hturns
    have hnone := hs.channel?_eq_none { role := .server, address := url.map .text }
    rw [← hnumber] at hnone
    obtain ⟨target, htarget, hplace⟩ := Handle.placeOf_of_enter hnone hc
    have hcomplete := hh
    rw [Host.openAs, Host.settle_outcome] at hcomplete
    refine ⟨hdone, target, c.place, (Opening.opens_of_complete hcomplete).2 target htarget,
      hnumber ▸ hplace, ?_⟩
    rw [← hnumber] at hspares ⊢
    exact hspares.trans (hturns.trans (hpurged.disconnect hP))

/-- The place that the address of a command opens, once the directories of the address are there. -/
def Invocation.Reaches (i : Invocation) (host : Host) (place : Place) : Prop :=
  ∃ target, i.opening.Opens host.settings target ∧
    (host.openAs i.opening).host.storage.placeOf host.asked target = .ok place

/-- A command changes no rows unless it is a purge that does not fail, which takes away the messages
for its recipient at the place that its address opens. -/
theorem turns_of_execute (hP : Path.Apart P) (hs : Begins P host) (i : Invocation)
    (ho : ∀ target, i.opening.Opens host.settings target → target.Within P) :
    (((execute host i).outcome ≠ .ok () ∨ ∀ recipient, i.command ≠ .purge recipient) →
      host.storage.Spares host.asked (execute host i).host.storage) ∧
    ∀ recipient, i.command = .purge recipient → (execute host i).outcome = .ok () →
      ∃ place, i.Reaches host place ∧
        host.storage.Turns host.asked (fun q r => if q = place then r.without recipient else r)
          (execute host i).host.storage := by
  unfold execute Invocation.Reaches
  cases hc : i.command with
  | init name =>
    have hopening : i.opening =
        { role := if name = some "client" then .client else .server
          address := i.url.map .text } := by
      simp only [Invocation.opening, hc, Command.role]
    rw [hopening] at ho
    refine ⟨fun _ => spares_init hP hs i.url name ho, ?_⟩
    rintro _ ⟨⟩
  | stats recipient client =>
    have hopening : i.opening = { role := .server, address := i.url.map .text } := by
      simp only [Invocation.opening, hc, Command.role]
    rw [hopening] at ho
    refine ⟨fun _ => spares_stats hP hs i.url recipient client ho, ?_⟩
    rintro _ ⟨⟩
  | purge recipient =>
    have hopening : i.opening = { role := .server, address := i.url.map .text } := by
      simp only [Invocation.opening, hc, Command.role]
    rw [hopening] at ho ⊢
    dsimp only
    rcases purge_cases hP hs i.url recipient ho with ⟨⟨f, hf⟩, hspares⟩ | ⟨hok, target, place, hturns⟩
    · refine ⟨fun _ => hspares, fun _ _ hok => ?_⟩
      cases hf.symm.trans hok
    · refine ⟨fun hnot => ?_, ?_⟩
      · rcases hnot with hfailed | hother
        · exact absurd hok hfailed
        · exact absurd rfl (hother recipient)
      · rintro _ ⟨⟩ -
        exact ⟨place, ⟨target, hturns.1, hturns.2.1⟩, hturns.2.2⟩

/-- The program ends with code 0 when its command does not fail. -/
theorem exitOf_outcome (r : Report Unit) : (exitOf r).outcome = .ok 0 ↔ r.outcome = .ok () := by
  unfold exitOf
  cases hr : r.outcome with
  | ok u => exact ⟨fun _ => rfl, fun _ => rfl⟩
  | error f =>
    dsimp only
    cases f.class? with
    | some c => exact ⟨fun h => absurd (Except.ok.inj h) (by decide), nofun⟩
    | none => exact ⟨nofun, nofun⟩

end CommandLine

/-! ## Command lines -/

/-- A place where there are data: in a file, or in memory for some handle. -/
def Storage.There (s : Storage) (place : Place) : Prop :=
  (∃ path, place = .file path) ∨ ∃ m, Channel.Sits s.channels m place

namespace Session

variable {P : Path → Prop} {s : Session}

theorem Within.reachable (hs : s.Within P) : s.Reachable := by
  induction hs with
  | start environment => exact ⟨environment, [], rfl⟩
  | step _ step _ _ ih => exact ih.step step

/-- In a session that keeps to databases that lie apart, a command can begin. -/
theorem Within.begins (hP : Path.Apart P) (hs : s.Within P) : CommandLine.Begins P s.host := by
  obtain ⟨hsound, hkept⟩ := (hs.keeps hP).storage
  have hdistinct := (hs.reachable.keeps Storage.invariant_distinct List.Pairwise.nil
    fun _ hs => hs).storage
  exact ⟨hsound, hkept, hdistinct, hs.reachable.earlier⟩

/-- What is there is there without the handle of the next command. -/
theorem holds_of_there (hs : CommandLine.Begins P s.host) {place : Place}
    (h : s.host.storage.There place) : s.host.storage.Holds s.host.asked place := by
  refine h.imp id ?_
  rintro ⟨m, c, hc, hm, rfl⟩
  exact ⟨m, Nat.ne_of_lt ((hs.earlier c hc).members_lt m hm), c, hc, hm, rfl⟩

/-- A command line that is not carried out, be it that it asks for help or that it cannot be read,
touches nothing. One that is carried out changes no rows, in files and in memory, unless it is a purge
that ends with success: this takes away the messages for the recipient that it names at the one place
that its address opens, and nothing else. -/
theorem Within.rows_of_command (hP : Path.Apart P) (hs : s.Within P) (words : List String)
    (ho : ∀ target, (Step.command words).Opens s.host.settings target → target.Within P) :
    let ran := CommandLine.run s.host words
    let before := s.host.storage
    let after := ran.2.storage
    (∀ stop, CommandLine.Invocation.read words = .error stop → ran = (stop.exit, s.host)) ∧
    (∀ i, CommandLine.Invocation.read words = .ok i →
      (ran.1.outcome ≠ .ok 0 ∨ ∀ recipient, i.command ≠ .purge recipient) →
        ∀ q, before.There q → (after.dataOf q).rows = (before.dataOf q).rows) ∧
    ∀ i recipient, CommandLine.Invocation.read words = .ok i → i.command = .purge recipient →
      ran.1.outcome = .ok 0 → ∃ place, i.Reaches s.host place ∧
        ∀ q, before.There q → (after.dataOf q).rows =
          if q = place then (before.dataOf q).rows.without recipient else (before.dataOf q).rows := by
  intro ran before after
  have hbegins := hs.begins hP
  have hrun : ∀ i, CommandLine.Invocation.read words = .ok i →
      ran.1.outcome = (CommandLine.exitOf (CommandLine.execute s.host i)).outcome ∧
        after = (CommandLine.execute s.host i).host.storage := by
    intro i hi
    simp only [ran, after, CommandLine.run, hi, and_self]
  have hopens : ∀ i, CommandLine.Invocation.read words = .ok i →
      ∀ target, i.opening.Opens s.host.settings target → target.Within P :=
    fun i hi target h => ho target ⟨i, hi, h⟩
  refine ⟨fun stop hstop => CommandLine.run_of_stop hstop, ?spares, ?purges⟩
  case spares =>
    intro i hi hnot q hq
    obtain ⟨hexit, hafter⟩ := hrun i hi
    rw [hexit, ne_eq, CommandLine.exitOf_outcome] at hnot
    rw [hafter]
    exact ((CommandLine.turns_of_execute hP hbegins i (hopens i hi)).1 hnot).rows
      (holds_of_there hbegins hq)
  case purges =>
    intro i recipient hi hcommand hok
    obtain ⟨hexit, hafter⟩ := hrun i hi
    rw [hexit, CommandLine.exitOf_outcome] at hok
    obtain ⟨place, hreaches, hturns⟩ :=
      (CommandLine.turns_of_execute hP hbegins i (hopens i hi)).2 recipient hcommand hok
    refine ⟨place, hreaches, fun q hq => ?_⟩
    rw [hafter]
    exact hturns.rows (holds_of_there hbegins hq)

/-- A purge for one of two recipients, in the one database of a session. -/
theorem Within.rows_of_command_of_purge :
    let path : Path := [FileName.ofText "a.db"]
    let P : Path → Prop := (· = path)
    let address := "sqlite+aiosqlite:///a.db"
    let enqueue (recipient : String) : Step := .call "db" (.mailbox
      (.enqueue (.uuid ⟨List.replicate 16 1, rfl⟩) (.text recipient) (.bytes .fixed [1]) .null))
    let s := ((Session.start []).run
      [.opening "db" { role := .server, address := some (.text address) }, .initialise "db",
        enqueue "ann", enqueue "bob"]).2
    let words := ["--url=" ++ address, "purge", "ann"]
    let i : CommandLine.Invocation := ⟨some address, .purge "ann"⟩
    let ran := CommandLine.run s.host words
    let rows (s : Storage) : Rows := (s.dataOf (.file path)).rows
    Path.Apart P ∧ s.Within P ∧
      (∀ target, (Step.command words).Opens s.host.settings target → target.Within P) ∧
      CommandLine.Invocation.read words = .ok i ∧ ran.1.outcome = .ok 0 ∧
      (rows s.host.storage).messages.length = 2 ∧ (rows ran.2.storage).messages.length = 1 ∧
      ∃ place, i.Reaches s.host place ∧ ∀ q, s.host.storage.There q →
        (ran.2.storage.dataOf q).rows =
          if q = place then (s.host.storage.dataOf q).rows.without "ann"
          else (s.host.storage.dataOf q).rows := by
  intro path P address enqueue s words i ran rows
  have hP : Path.Apart P := Path.apart_singleton (List.cons_ne_nil _ _)
  have hread : CommandLine.Invocation.read words = .ok i := by decide +kernel
  have hl : Locator.ofValue (.text "sqlite+aiosqlite:///a.db") =
      .ok { driver := "sqlite+aiosqlite", database := some "a.db" } := rfl
  have hplain : ∀ settings target,
      Opening.Opens { role := .server, address := some (.text address) } settings target →
        target.Within P := by
    intro settings target hopens
    have hfile : Opening.Opens { role := .server, address := some (.text address) } settings
        { medium := .file path } :=
      ⟨.text address, { driver := "sqlite+aiosqlite", database := some "a.db" }, rfl, hl, rfl⟩
    cases Opening.Opens.unique hopens hfile
    rintro names ⟨⟩
    rfl
  have hs : s.Within P := by
    refine (Within.start []).run (fun step hstep settings target hopens => ?_) fun step hstep s => ?_
    all_goals
      simp only [List.mem_cons, List.not_mem_nil, or_false] at hstep
      rcases hstep with rfl | rfl | rfl | rfl
    · exact hplain settings target hopens
    all_goals first | exact hopens.elim | trivial
  have ho : ∀ target, (Step.command words).Opens s.host.settings target → target.Within P := by
    rintro target ⟨i', hi', hopens⟩
    cases hread.symm.trans hi'
    exact hplain _ target hopens
  have hok : ran.1.outcome = .ok 0 := by decide +kernel
  exact ⟨hP, hs, ho, hread, hok, by decide +kernel, by decide +kernel,
    (hs.rows_of_command hP words ho).2.2 i "ann" hread rfl hok⟩

/-- A command that fails, or that only counts, can lose the rows of a database that lies where the one
that it opens keeps its log, and of one that was written over while changes were pending in its
log. -/
theorem command_loses_rows :
    let server (address : String) : Opening := { role := .server, address := some (.text address) }
    let enqueue : Call := .mailbox (.enqueue (.uuid ⟨List.replicate 16 1, rfl⟩) (.text "ann")
      (.bytes .fixed [1]) .null)
    let made (address : String) : Session := ((Session.start []).run
      [.opening "a" (server address), .initialise "a", .call "a" enqueue]).2
    let beside := ((made "sqlite+aiosqlite:///a.db-wal").step (.close "a")).2
    let overwritten := ((made "sqlite+aiosqlite:///a.db").step (.writeText "a.db" "")).2
    let words (command : List String) := "--url=sqlite+aiosqlite:///a.db" :: command
    let loses (s : Session) (command : List String) (code : Nat) (name : String) : Prop :=
      let ran := CommandLine.run s.host (words command)
      let place : Place := .file [FileName.ofText name]
      ran.1.outcome = .ok code ∧ (s.host.storage.dataOf place).rows.messages.length = 1 ∧
        (ran.2.storage.dataOf place).rows.messages = []
    loses beside ["stats", "--recipient=ann"] 1 "a.db-wal" ∧
      loses beside ["init"] 0 "a.db-wal" ∧
      loses overwritten ["stats", "--recipient=ann"] 1 "a.db" ∧
      loses overwritten ["init"] 0 "a.db" := by
  refine ⟨?_, ?_, ?_, ?_⟩
  all_goals decide +kernel

end Session

end DeliveryStore
