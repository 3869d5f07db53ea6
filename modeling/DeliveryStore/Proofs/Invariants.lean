import DeliveryStore.Session
import DeliveryStore.Proofs.Remarks
import DeliveryStore.Proofs.Serving

/-!
# Invariants of sessions

A property of storage that connecting, looking up, writing, leaving and making directories keep is
kept by everything that a session does with its handles, command lines included. What a session may
open can be restricted to targets that are admitted, and the property may speak of the numbers that
have been given to handles so far. Main statements:

* `Storage.Invariant.call`, `Storage.Invariant.initialise`, … — what one operation keeps;
* `Session.Keeps.step` — what one step of a session keeps.
-/

namespace DeliveryStore

/-- A property of storage, by how many handles there have been, that is kept by every way of using
storage, as long as only admitted targets are connected to. What is written is what the data in place
may become. -/
structure Storage.Invariant (admits : Target → Prop) (I : Nat → Storage → Prop) : Prop where
  mono : ∀ {n m : Nat} {s : Storage}, n ≤ m → I n s → I m s
  connect : ∀ {n : Nat} {s : Storage} {target : Target} {handle : Nat} (inMemory : Bool),
    handle < n → admits target → I n s → I n (s.connect handle target inMemory).2
  ready : ∀ {n : Nat} {s : Storage} {c : Channel},
    (∃ handle known, s.channel? handle = some { c with known }) → I n s → I n (s.ready c).2
  write : ∀ {n : Nat} {s s' : Storage} {handle : Nat} {c : Channel} {data : Database},
    s.Stands handle c → c.readOnly = false → (s.read c).Becomes data → s.write c data = .ok s' →
      I n s → I n s'
  disconnect : ∀ {n : Nat} {s : Storage} (handle : Nat), I n s → I n (s.disconnect handle)
  directories : ∀ {n : Nat} {s : Storage} (names : List FileName), I n s →
    I n { s with tree := (s.tree.makeDirectories names).2 }

/-- A handle that has one of the numbers given so far, and opens an admitted target, if any. -/
structure Handle.Admitted (admits : Target → Prop) (n : Nat) (h : Handle) : Prop where
  number_lt : h.number < n
  target : ∀ target, h.target = .ok target → admits target

theorem Handle.Admitted.mono {admits : Target → Prop} {n m : Nat} {h : Handle}
    (hh : h.Admitted admits n) (hle : n ≤ m) : h.Admitted admits m :=
  ⟨Nat.lt_of_lt_of_le hh.number_lt hle, hh.target⟩

/-- An opening that comes to a target. -/
def Opening.Opens (o : Opening) (settings : Settings) (target : Target) : Prop :=
  ∃ address l, o.addressIn settings = some address ∧ Locator.ofValue address = .ok l ∧
    l.target = .ok (.ok target)

/-- An opening comes to one target at most. -/
theorem Opening.Opens.unique {o : Opening} {settings : Settings} {target target' : Target}
    (h : o.Opens settings target) (h' : o.Opens settings target') : target = target' := by
  obtain ⟨address, l, haddress, hl, htarget⟩ := h
  obtain ⟨address', l', haddress', hl', htarget'⟩ := h'
  cases haddress.symm.trans haddress'
  cases hl.symm.trans hl'
  exact Except.ok.inj (Except.ok.inj (htarget.symm.trans htarget'))

/-- A handle is opened if the durability and the address can be read and the directories of the
address can be made. -/
theorem Opening.complete_cases {o : Opening} {settings : Settings} {number : Nat} {s : Storage}
    {h : Handle} (ho : (o.complete settings number s).outcome = .ok h) :
    ∃ address durability l, o.addressIn settings = some address ∧
      Durability.ofValue (o.durabilityIn settings) = .ok durability ∧
      Locator.ofValue address = .ok l ∧ Handle.make number o durability l = .ok h ∧
      (Handle.directoriesOf l).any (·.contains 0) = false ∧
      (s.tree.makeDirectories (Handle.directoriesOf l)).1 = none ∧
      o.complete settings number s =
        { outcome := .ok h
          storage := { s with tree := (s.tree.makeDirectories (Handle.directoriesOf l)).2 } } := by
  unfold complete at ho ⊢
  split at ho
  · cases ho
  · cases ho
  rename_i address durability haddress hdurability
  split at ho
  · cases ho
  rename_i l hl
  dsimp only at ho
  split at ho
  · cases ho
  rename_i hnames
  split at ho
  · cases ho
  rename_i hnesting
  split at ho
  · cases ho
  rename_i hmade
  dsimp only at ho
  refine ⟨address, durability, l, haddress, hdurability, hl, ho, by simpa using hnames, hmade, ?_⟩
  simp only [hnames, hnesting, hmade, ho, Bool.false_eq_true, if_false]

/-- An opened handle has the number that it was to have, and opens what its opening comes to. -/
theorem Opening.opens_of_complete {o : Opening} {settings : Settings} {number : Nat} {s : Storage}
    {h : Handle} (ho : (o.complete settings number s).outcome = .ok h) :
    h.number = number ∧ ∀ target, h.target = .ok target → o.Opens settings target := by
  obtain ⟨address, durability, l, haddress, -, hl, hmake, -⟩ := complete_cases ho
  unfold Handle.make at hmake
  split at hmake
  · cases hmake
  rename_i found hfound
  cases hmake
  exact ⟨rfl, fun target ht => ⟨address, l, haddress, hl, by rw [hfound, ← ht]⟩⟩

namespace Storage.Invariant

variable {admits : Target → Prop} {I : Nat → Storage → Prop} {n : Nat} {h : Handle} {s s' : Storage}

/-! ## Operations -/

theorem enter (hI : Invariant admits I) (hh : h.Admitted admits n) (hs : I n s) :
    I n (h.enter s).2 := by
  unfold Handle.enter
  cases ht : h.target with
  | error refusal => exact hs
  | ok target =>
    have hconnect := hI.connect h.inMemory hh.number_lt (hh.target target ht) hs
    dsimp only
    rw [enter_eq]
    rcases hc : s.connect h.number target h.inMemory with ⟨fault | c, s₁⟩
    · rw [hc] at hconnect
      exact hconnect
    · rw [hc] at hconnect
      obtain ⟨-, known, hchannel, -⟩ := channel?_connect hc
      exact hI.ready ⟨h.number, known, hchannel⟩ hconnect

/-- What an operation leaves has what storage had. -/
theorem leaves (hI : Invariant admits I) (hh : h.Admitted admits n) (hl : h.Leaves s s')
    (hs : I n s) : I n s' := by
  cases hl with
  | untouched => exact hs
  | entered => exact hI.enter hh hs
  | written he hr hd hw =>
    -- What is written is written through the channel that entering gave.
    obtain ⟨-, known, hstands⟩ := Handle.stands_of_enter he
    have hentered := hI.enter hh hs
    rw [he] at hentered
    exact hI.write hstands hr hd hw hentered

theorem call (hI : Invariant admits I) (hh : h.Admitted admits n) (now : Moment) (c : Call)
    (hs : I n s) : I n (h.call now c s).storage :=
  hI.leaves hh (h.call_storage now c s).1 hs

theorem initialise (hI : Invariant admits I) (hh : h.Admitted admits n) (hs : I n s) :
    I n (h.initialise s).storage :=
  hI.leaves hh (h.initialise_storage s).1 hs

theorem view {α : Type} (hI : Invariant admits I) (hh : h.Admitted admits n) (see : Database → α)
    (hs : I n s) : I n (h.view see s).storage := by
  have hentered := hI.enter hh hs
  unfold Handle.view
  rcases he : h.enter s with ⟨refusal | c, s₁⟩
  all_goals
    rw [he] at hentered
    exact hentered

theorem pragmas (hI : Invariant admits I) (hh : h.Admitted admits n) (hs : I n s) :
    I n (h.pragmas s).storage := by
  have hconnected : I n (h.connect s).2 := by
    unfold Handle.connect
    cases ht : h.target with
    | error refusal => exact hs
    | ok target => exact hI.connect h.inMemory hh.number_lt (hh.target target ht) hs
  unfold Handle.pragmas
  rcases hc : h.connect s with ⟨refusal | c, s₁⟩
  all_goals
    rw [hc] at hconnected
    exact hconnected

theorem complete (hI : Invariant admits I) (o : Opening) (settings : Settings) (number : Nat)
    (hs : I n s) : I n (o.complete settings number s).storage := by
  unfold Opening.complete
  split
  · exact hs
  · exact hs
  split
  · exact hs
  dsimp only
  split
  · exact hs
  split
  · exact hs
  split
  · exact hI.directories _ hs
  · exact hI.directories _ hs

end Storage.Invariant

/-! ## Command lines -/

/-- The role of the database that a command is about. -/
def CommandLine.Command.role : CommandLine.Command → Role
  | .init name => if name = some "client" then .client else .server
  | .stats _ _ | .purge _ => .server

/-- What a command line opens. -/
def CommandLine.Invocation.opening (i : CommandLine.Invocation) : Opening :=
  { role := i.command.role, address := i.url.map .text }

/-- A report after which storage has a property, under the settings that there were. -/
structure Report.Keeps {α : Type} (I : Nat → Storage → Prop) (host : Host) (r : Report α) : Prop where
  storage : I r.host.asked r.host.storage
  settings_eq : r.host.settings = host.settings
  asked_le : host.asked ≤ r.host.asked

section Reports

variable {α β : Type} {admits : Target → Prop} {I : Nat → Storage → Prop} {host : Host} {h : Handle}

theorem Host.keeps_settle (host : Host) (name : Option String) {c : Completion α}
    (hc : I host.asked c.storage) : (host.settle name c).Keeps I host := by
  refine ⟨?_, settle_settings _ _ _, Nat.le_of_eq (settle_asked _ _ _).symm⟩
  rwa [settle_storage, settle_asked]

/-- What is gone on with keeps what was kept before. -/
theorem Report.Keeps.andThen {r : Report α} {next : α → Host → Report β} (hr : r.Keeps I host)
    (hnext : ∀ a, r.outcome = .ok a → (next a r.host).Keeps I r.host) :
    (r.andThen next).Keeps I host := by
  unfold Report.andThen
  split
  · exact ⟨hr.storage, hr.settings_eq, hr.asked_le⟩
  · rename_i a ha
    have hlater := hnext a ha
    exact ⟨hlater.storage, hlater.settings_eq.trans hr.settings_eq,
      Nat.le_trans hr.asked_le hlater.asked_le⟩

/-- An opened database opens what its opening comes to, and storage keeps what it had. -/
theorem Host.keeps_openAs (hI : Storage.Invariant admits I) (o : Opening)
    (hs : I host.asked host.storage) : (host.openAs o).Keeps I host := by
  have hasked : I (host.asked + 1) (o.complete host.settings host.asked host.storage).storage :=
    hI.mono (Nat.le_succ _) (hI.complete o _ _ hs)
  have hkeeps := keeps_settle { host with asked := host.asked + 1 } o.logName hasked
  exact ⟨hkeeps.storage, hkeeps.settings_eq, Nat.le_trans (Nat.le_succ _) hkeeps.asked_le⟩

theorem Host.admitted_openAs {o : Opening}
    (ho : ∀ target, o.Opens host.settings target → admits target)
    (hh : (host.openAs o).outcome = .ok h) : h.Admitted admits (host.openAs o).host.asked := by
  unfold openAs at hh ⊢
  rw [settle_outcome] at hh
  obtain ⟨hnumber, hopens⟩ := Opening.opens_of_complete hh
  refine ⟨?_, fun target ht => ho target (hopens target ht)⟩
  rw [settle_asked, hnumber]
  exact Nat.lt_succ_self _

theorem CommandLine.keeps_closing (hI : Storage.Invariant admits I) (h : Handle) {r : Report α}
    (hr : r.Keeps I host) : (closing h r).Keeps I host :=
  ⟨hI.disconnect h.number hr.storage, hr.settings_eq, hr.asked_le⟩

theorem CommandLine.keeps_count (hI : Storage.Invariant admits I) (hh : h.Admitted admits host.asked)
    (hs : I host.asked host.storage) (name : Option String) (call : Value → Call)
    (sign unit : String) : (count host h name call sign unit).Keeps I host := by
  have hsay : ∀ (host : Host) text, I host.asked host.storage → (host.say text).Keeps I host :=
    fun host text hs => ⟨hs, rfl, Nat.le_refl _⟩
  unfold count
  cases name with
  | none => exact hsay host _ hs
  | some name =>
    dsimp only
    split
    · exact hsay host _ hs
    · have hcalled : (host.call h (call (.text name))).Keeps I host :=
        Host.keeps_settle _ _ (hI.call hh _ _ hs)
      exact hcalled.andThen fun reply _ => hsay _ _ hcalled.storage

/-- What is done with an opened database keeps what it keeps for every admitted handle. -/
theorem CommandLine.keeps_opened (hI : Storage.Invariant admits I) {o : Opening}
    (ho : ∀ target, o.Opens host.settings target → admits target) (hs : I host.asked host.storage)
    {next : Handle → Host → Report β}
    (hnext : ∀ h (host' : Host), Handle.Admitted admits host'.asked h →
      I host'.asked host'.storage → (next h host').Keeps I host') :
    ((host.openAs o).andThen next).Keeps I host := by
  have hopen := Host.keeps_openAs hI o hs
  exact hopen.andThen fun h hh => hnext h _ (Host.admitted_openAs ho hh) hopen.storage

/-- A command line keeps what every operation keeps, if it opens only what is admitted. -/
theorem CommandLine.keeps_execute (hI : Storage.Invariant admits I) (i : Invocation)
    (ho : ∀ target, i.opening.Opens host.settings target → admits target)
    (hs : I host.asked host.storage) : (execute host i).Keeps I host := by
  unfold execute
  cases hc : i.command with
  | init name =>
    have hopening : i.opening =
        { role := if name = some "client" then .client else .server
          address := i.url.map .text } := by
      simp only [Invocation.opening, hc, Command.role]
    rw [hopening] at ho
    dsimp only [init]
    refine keeps_opened hI ho hs fun h host' hh hs' => ?_
    have hmade : (host'.initialise h).Keeps I host' :=
      Host.keeps_settle _ _ (hI.initialise hh hs')
    have hclosed := keeps_closing hI h hmade
    exact hclosed.andThen fun _ _ => ⟨hclosed.storage, rfl, Nat.le_refl _⟩
  | stats recipient client =>
    have hopening : i.opening = { role := .server, address := i.url.map .text } := by
      simp only [Invocation.opening, hc, Command.role]
    rw [hopening] at ho
    dsimp only [stats]
    refine keeps_opened hI ho hs fun h host' hh hs' => keeps_closing hI h ?_
    have hfirst := keeps_count hI hh hs' recipient (.mailbox <| .pendingCount ·) "📬 "
      " pending message(s)\n"
    refine hfirst.andThen fun _ _ => ?_
    exact keeps_count hI (hh.mono hfirst.asked_le) hfirst.storage client
      (.keyPackages <| .countByClient ·) "🔑 " " key package(s)\n"
  | purge recipient =>
    have hopening : i.opening = { role := .server, address := i.url.map .text } := by
      simp only [Invocation.opening, hc, Command.role]
    rw [hopening] at ho
    dsimp only [purge]
    refine keeps_opened hI ho hs fun h host' hh hs' => ?_
    have hpurged : (host'.call h (.mailbox (.purge (.text recipient)))).Keeps I host' :=
      Host.keeps_settle _ _ (hI.call hh _ _ hs')
    have hclosed := keeps_closing hI h hpurged
    exact hclosed.andThen fun _ _ => ⟨hclosed.storage, rfl, Nat.le_refl _⟩

/-- Running the program keeps what every operation keeps. -/
theorem CommandLine.keeps_run (hI : Storage.Invariant admits I) (words : List String)
    (ho : ∀ i, Invocation.read words = .ok i →
      ∀ target, i.opening.Opens host.settings target → admits target)
    (hs : I host.asked host.storage) :
    I (run host words).2.asked (run host words).2.storage ∧
      (run host words).2.settings = host.settings ∧ host.asked ≤ (run host words).2.asked := by
  unfold run
  cases hi : Invocation.read words with
  | error stop => exact ⟨hs, rfl, Nat.le_refl _⟩
  | ok i =>
    have hrun := keeps_execute hI i (ho i hi) hs
    exact ⟨hrun.storage, hrun.settings_eq, hrun.asked_le⟩

end Reports

/-! ## Sessions -/

/-- What a step may open under some settings. -/
def Step.Opens (settings : Settings) (target : Target) : Step → Prop
  | .opening _ o => o.Opens settings target
  | .command words =>
    ∃ i, CommandLine.Invocation.read words = .ok i ∧ i.opening.Opens settings target
  | _ => False

namespace Session

variable {admits : Target → Prop} {I : Nat → Storage → Prop} {settings : Settings} {s : Session}
  {name : String} {h : Handle}

/-- A session whose storage has a property and whose handles are admitted, under some settings. -/
structure Keeps (admits : Target → Prop) (I : Nat → Storage → Prop) (settings : Settings)
    (s : Session) : Prop where
  storage : I s.host.asked s.host.storage
  settings_eq : s.host.settings = settings
  handles : ∀ e ∈ s.handles, e.2.Admitted admits s.host.asked

theorem mem_of_lookup {handles : List (String × Handle)} (hh : handles.lookup name = some h) :
    (name, h) ∈ handles := by
  induction handles with
  | nil => cases hh
  | cons e rest ih =>
    obtain ⟨k, v⟩ := e
    rw [List.lookup_cons] at hh
    split at hh
    · rename_i heq
      have hk : name = k := by simpa using heq
      cases hh
      rw [hk]
      exact List.mem_cons_self
    · exact List.mem_cons_of_mem _ (ih hh)

theorem Keeps.onHandle (hs : s.Keeps admits I settings) {f : Handle → Answer × Session}
    (hf : ∀ h, h.Admitted admits s.host.asked → (f h).2.Keeps admits I settings) :
    (s.onHandle name f).2.Keeps admits I settings := by
  unfold Session.onHandle
  split
  · rename_i h hh
    exact hf h (hs.handles _ (mem_of_lookup hh))
  · exact hs

theorem Keeps.take {α : Type} (hs : s.Keeps admits I settings) {r : Report α} {result : α → Result}
    (hr : r.Keeps I s.host) : (s.take r result).2.Keeps admits I settings :=
  ⟨hr.storage, hr.settings_eq.trans hs.settings_eq, fun e he => (hs.handles e he).mono hr.asked_le⟩

theorem Keeps.withTree (hs : s.Keeps admits I settings) {tree : FileTree}
    (ht : I s.host.asked { s.host.storage with tree }) :
    (s.withTree tree).Keeps admits I settings :=
  ⟨ht, hs.settings_eq, hs.handles⟩

/-- A step keeps a property of storage that every operation keeps, if it opens only what is admitted
and the text that it may write leaves the property alone. -/
theorem Keeps.step (hI : Storage.Invariant admits I) (hs : s.Keeps admits I settings) (step : Step)
    (ho : ∀ target, step.Opens settings target → admits target)
    (ht : ∀ path text tree, step = .writeText path text →
      s.host.storage.tree.writeText (Path.namesOfText path) text = .ok tree →
      I s.host.asked { s.host.storage with tree }) :
    (s.step step).2.Keeps admits I settings := by
  have hset := hs.settings_eq
  cases step with
  | opening name o =>
    have hopen := Host.keeps_openAs hI o hs.storage
    -- The report is taken in as any other, and then the new handle stands before the old ones.
    have htaken : (s.take (s.host.openAs o) fun h =>
        .opened h.name h.inMemory h.durability).2.Keeps admits I settings := hs.take hopen
    simp only [Session.step]
    split
    · rename_i h hh
      refine ⟨htaken.storage, htaken.settings_eq, ?_⟩
      intro e he
      rcases List.mem_cons.1 he with rfl | hmem
      · exact Host.admitted_openAs (hset ▸ ho) hh
      · exact htaken.handles e (List.mem_filter.1 hmem).1
    · exact htaken
  | initialise name =>
    exact hs.onHandle fun h hh => hs.take (Host.keeps_settle _ _ (hI.initialise hh hs.storage))
  | close name =>
    exact hs.onHandle fun h hh => ⟨hI.disconnect h.number hs.storage, hset, hs.handles⟩
  | call name c =>
    exact hs.onHandle fun h hh => hs.take (Host.keeps_settle _ _ (hI.call hh _ c hs.storage))
  | dump name =>
    exact hs.onHandle fun h hh => hs.take (Host.keeps_settle _ _ (hI.view hh _ hs.storage))
  | schema name =>
    exact hs.onHandle fun h hh => hs.take (Host.keeps_settle _ _ (hI.view hh _ hs.storage))
  | pragmas name =>
    exact hs.onHandle fun h hh => hs.take (Host.keeps_settle _ _ (hI.pragmas hh hs.storage))
  | clock now => exact ⟨hs.storage, hset, hs.handles⟩
  | makeDirectory path =>
    simp only [Session.step]
    split
    · exact hs
    · exact hs.withTree (hI.directories (Path.namesOfText path) hs.storage)
  | writeText path text =>
    simp only [Session.step]
    split
    · exact hs
    split
    · exact hs
    · rename_i tree htree
      exact hs.withTree (ht path text tree rfl htree)
  | look path => exact hs
  | command words =>
    have hrun := CommandLine.keeps_run hI words
      (fun i hi target hopens => ho target ⟨i, hi, hset ▸ hopens⟩) hs.storage
    exact ⟨hrun.1, hrun.2.1.trans hset, fun e he => (hs.handles e he).mono hrun.2.2⟩

end Session

end DeliveryStore
