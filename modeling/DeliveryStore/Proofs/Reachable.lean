import DeliveryStore.Proofs.Invariants

/-!
# Reachable sessions

What holds of every session that has come about by steps from its beginning, whatever the steps.
Only channels that may not be written are frozen, and a log is kept only beside a file with a name.
For that reason a handle that can make its tables serves its data. Main statements:

* `Storage.Lasts.invariant` — a property of channels that lasts is kept by every use of storage;
* `Session.Reachable.keeps` — what every use of storage keeps, all of them have;
* `Session.Reachable.sound` — the channels of a reachable session are sound;
* `Session.Reachable.eq_of_number` — its handles have numbers of their own;
* `Handle.serves_of_initialise` — a handle that can make its tables serves data.
-/

namespace DeliveryStore

/-! ## Sound channels -/

/-- A channel that is frozen only if it is read, and keeps a log only beside a file with a name. -/
structure Channel.Sound (c : Channel) : Prop where
  frozen : c.frozen.isSome = true → c.readOnly = true
  logging : ∀ path, c.place = .file path → c.logging = true → path ≠ []

/-- Storage all of whose channels are sound. -/
def Storage.Sound (s : Storage) : Prop := ∀ c ∈ s.channels, c.Sound

namespace Channel

variable {c c' : Channel} {t t' : FileTree} {others : List Channel} {p : Path}

/-- A look-up keeps a channel sound. -/
theorem Sound.refresh (hc : c.Sound) (hp : c.place = .file p)
    (h : c.refresh t others p = .ok (c', t')) : c'.Sound := by
  rcases refresh_cases h with ⟨rfl, -⟩ | ⟨rfl, -, hopen, -⟩ | ⟨rfl, -, -, hlog, -⟩
  · exact hc
  · refine ⟨hc.frozen, fun path hpath _ => ?_⟩
    have hsame : path = p := Place.file.inj (hpath.symm.trans hp)
    subst hsame
    -- A log is never opened beside the working directory.
    rintro rfl
    exact FileTree.get?_log_of_openLog hopen (FileTree.get?_of_isOuter rfl)
  · refine ⟨hc.frozen, fun path _ hlogging => ?_⟩
    rw [hlog] at hlogging
    cases hlogging

/-- A sound channel that may be written is not frozen. -/
theorem Sound.thawed (hc : c.Sound) (hr : c.readOnly = false) : c.frozen = none := by
  by_contra hfrozen
  have hread := hc.frozen (Option.isSome_iff_ne_none.2 hfrozen)
  rw [hr] at hread
  cases hread

theorem sound_new (handle : Nat) (place : Place) (target : Target) :
    (Channel.new handle place target).Sound := by
  constructor
  · simp [Storage.frozen_new]
  · simp [Storage.logging_new]

end Channel

namespace Storage

variable {s s' : Storage} {handle : Nat} {target : Target} {c : Channel} {inMemory : Bool}

/-- What connecting leaves when it fails: nothing new, or a file that was made. -/
theorem connect_error {fault : StorageFault}
    (h : s.connect handle target inMemory = (.error fault, s')) :
    s' = s ∨ ∃ path tree, s.placeOf handle target = .ok (.file path) ∧
      s.tree.openFile path target = .ok tree ∧ s' = { s with tree } := by
  unfold connect at h
  split at h
  · cases h
  split at h
  · cases h
    exact .inl rfl
  rename_i place hplace
  split at h
  · cases h
  rcases openChannel_error h with ⟨path, rfl, ⟨-, rfl⟩ | ⟨tree, hopen, rfl, -⟩⟩
  · exact .inl rfl
  · exact .inr ⟨path, tree, hplace, hopen, rfl⟩

/-- A channel that is opened for a target is sound. -/
theorem sound_of_openChannel {place : Place} (hp : s.placeOf handle target = .ok place)
    (h : s.openChannel handle target place inMemory = (.ok c, s')) : c.Sound := by
  have hnew := Channel.sound_new handle place target
  rcases openChannel_ok h with ⟨path, tree, tree', rfl, -, hsettle, -⟩ | ⟨-, rfl, -⟩
  swap
  · exact hnew
  have hplace := place_new handle (.file path) target
  rcases Channel.settle_cases hsettle with ⟨himmutable, -, ahead, data, -, rfl⟩ | ⟨-, hr⟩ |
    ⟨-, c₁, t₁, hr, -, -, -, rfl, -⟩
  · -- Only what is immutable is frozen, and that is not written.
    obtain ⟨names, hmedium, -⟩ := placeOf_file hp
    refine ⟨fun _ => ?_, hnew.logging⟩
    simp [Channel.new, hmedium, himmutable]
  · exact hnew.refresh hplace hr
  · have hsound := hnew.refresh hplace hr
    exact ⟨hsound.frozen, hsound.logging⟩

theorem mem_of_channel? (h : s.channel? handle = some c) : c ∈ s.channels :=
  List.mem_of_find?_eq_some h

/-- A property of channels, by how many handles there have been, that lasts: a channel is opened with
it, and keeps it when handles join and leave, when tables are noted and when the file is looked up. -/
structure Lasts (P : Nat → Channel → Prop) : Prop where
  mono : ∀ {n m : Nat} {c : Channel}, n ≤ m → P n c → P m c
  opened : ∀ {n handle : Nat} {s s' : Storage} {target : Target} {place : Place} {inMemory : Bool}
    {c : Channel}, handle < n → s.placeOf handle target = .ok place →
      s.openChannel handle target place inMemory = (.ok c, s') → P n c
  members : ∀ {n : Nat} {c : Channel} {members : List Nat},
    (∀ m ∈ members, m < n ∨ m ∈ c.members) → P n c → P n { c with members }
  noted : ∀ {n : Nat} {c : Channel} (known : List Store), P n c → P n { c with known }
  refreshed : ∀ {n : Nat} {c c' : Channel} {t t' : FileTree} {others : List Channel} {p : Path},
    c.place = .file p → c.refresh t others p = .ok (c', t') → P n c → P n c'

/-- Whatever is done with storage, its channels keep a property that lasts. -/
theorem Lasts.invariant {P : Nat → Channel → Prop} (hP : Lasts P) :
    Invariant (fun _ => True) fun n s => ∀ c ∈ s.channels, P n c := by
  have hput : ∀ {n : Nat} {s : Storage} {c : Channel}, (∀ d ∈ s.channels, P n d) → P n c →
      ∀ d ∈ (s.putChannel c).channels, P n d := by
    intro n s c hs hc d hd
    rcases List.mem_cons.1 hd with rfl | hmem
    · exact hc
    · exact hs d (List.mem_filter.1 hmem).1
  have hnote : ∀ {n : Nat} {s : Storage} {c : Channel}, (∀ d ∈ s.channels, P n d) → P n c →
      ∀ d ∈ (s.noteTables c).channels, P n d := fun hs hc => hput hs (hP.noted _ hc)
  constructor
  case mono =>
    intro n m s hle hs c hc
    exact hP.mono hle (hs c hc)
  case connect =>
    intro n s target handle inMemory hn _ hs
    rcases hconnect : s.connect handle target inMemory with ⟨fault | c, s'⟩
    · rcases connect_error hconnect with rfl | ⟨_, _, -, -, rfl⟩ <;> exact hs
    rcases connect_cases hconnect with ⟨-, rfl⟩ | ⟨d, hd, rfl, rfl⟩ | ⟨place, hplace, hopen⟩
    · exact hs
    · refine hput hs (hP.members (fun m hm => ?_) (hs d hd))
      rcases List.mem_cons.1 hm with rfl | hmem
      · exact .inl hn
      · exact .inr hmem
    · have hc := hP.opened hn hplace hopen
      rcases openChannel_ok hopen with ⟨_, _, _, -, -, -, rfl⟩ | ⟨-, -, rfl⟩
      · exact hnote (s := { s with tree := _ }) hs hc
      · exact hnote hs hc
  case ready =>
    rintro n s c ⟨handle, known, hchannel⟩ hs
    have hknown : P n { c with known } := hs _ (mem_of_channel? hchannel)
    have hc : P n c := hP.noted (c := { c with known }) c.known hknown
    unfold ready
    split
    · rename_i path hpath
      split
      · exact hs
      · rename_i c' tree hrefresh
        exact hnote (s := { s with tree }) hs (hP.refreshed hpath hrefresh hc)
    · exact hs
  case write =>
    intro n s s' handle c data hstands _ _ hwrite hs
    have hc := hs c (mem_of_channel? hstands.channel)
    unfold write at hwrite
    split at hwrite
    · split at hwrite
      · cases hwrite
        exact hnote (s := { s with tree := _ }) hs hc
      split at hwrite
      · cases hwrite
        exact hnote (s := { s with tree := _ }) hs hc
      · cases hwrite
    · cases hwrite
      exact hnote (s := { s with memories := _ }) hs hc
  case disconnect =>
    intro n s handle hs
    unfold disconnect
    split
    · exact hs
    rename_i c hchannel
    dsimp only
    split
    · have hothers : ∀ d ∈ s.others c.number, P n d := fun d hd => hs d (List.mem_filter.1 hd).1
      unfold leaveLog
      split
      · split <;> exact hothers
      · exact hothers
    · refine hput hs (hP.members (fun m hm => ?_) (hs c (mem_of_channel? hchannel)))
      exact .inr (List.mem_filter.1 hm).1
  case directories => exact fun _ hs => hs

theorem lasts_sound : Lasts fun _ => Channel.Sound where
  mono _ hc := hc
  opened _ hplace hopen := sound_of_openChannel hplace hopen
  members _ hc := ⟨hc.frozen, hc.logging⟩
  noted _ hc := ⟨hc.frozen, hc.logging⟩
  refreshed hp hrefresh hc := hc.refresh hp hrefresh

/-- Whatever is done with storage, its channels stay sound. -/
theorem invariant_sound : Invariant (fun _ => True) fun _ => Sound := lasts_sound.invariant

/-- In sound storage, what could be written once can be written again. -/
theorem Stands.accepts (hs : s.Sound) (hstands : s.Stands handle c) (hr : c.readOnly = false)
    {data : Database} (hw : s.write c data = .ok s') : s.Accepts c := by
  have hc := hs c (mem_of_channel? hstands.channel)
  have hthawed := hc.thawed hr
  refine ⟨hthawed, fun path hpath => ?_⟩
  -- A log always takes what is written; a journal does if it did so before.
  cases hlog : c.logging with
  | true => exact ⟨hc.logging path hpath hlog, .inl rfl⟩
  | false =>
    obtain ⟨houter, -, -⟩ :=
      Channel.refresh_overwrite (hstands.settled path hpath []) hthawed hlog data [] []
    refine ⟨Path.ne_nil_of_isOuter houter, .inr ?_⟩
    unfold Storage.write at hw
    rw [hpath] at hw
    simp only [hlog, Bool.false_eq_true, if_false] at hw
    split at hw
    · assumption
    · cases hw

end Storage

/-! ## Tables that have been made -/

namespace Database

/-- Making tables leaves no table missing. -/
theorem has_foldl_create {stores : List Store} {store : Store} (d : Database)
    (h : store ∈ stores ∨ d.has store = true) : (stores.foldl create d).has store = true := by
  induction stores generalizing d with
  | nil =>
    rcases h with hmem | hhas
    · cases hmem
    · exact hhas
  | cons first rest ih =>
    apply ih
    rcases h with hmem | hhas
    · rcases List.mem_cons.1 hmem with rfl | hrest
      · exact .inr (has_create_self d store)
      · exact .inl hrest
    · exact .inr (has_create hhas)

/-- Making tables takes none away. -/
theorem has_furnish {d : Database} {role : Role} {readOnly : Bool} {store : Store}
    (h : d.has store = true) : (d.furnish role readOnly).2.has store = true := by
  rcases d.furnish_cases role readOnly with ⟨f, heq⟩ | ⟨-, -, heq⟩ | ⟨-, heq⟩
  · rwa [heq]
  · rwa [heq]
  · rw [heq]
    exact has_foldl_create d (.inr h)

/-- A call takes no table away. -/
theorem has_of_answer {d : Database} {role : Role} {readOnly : Bool} {now : Moment} {c : Call}
    {store : Store} (h : d.has store = true) :
    (d.answer role readOnly now c).2.has store = true := by
  unfold answer
  split
  swap
  · exact h
  rcases c.check now with f | r
  · exact h
  dsimp only
  unfold respond
  cases hc : d.carryOut readOnly r with
  | error obstacle => exact h
  | ok commit =>
    cases r with
    | keyPackages r | mailbox r | identities r =>
      obtain ⟨-, -, -, -, -, rfl⟩ := onTable_map_ok hc
      cases store <;> first | exact h | rfl

end Database

namespace Handle

/-- A handle that can make its tables serves data. -/
theorem serves_of_initialise {h : Handle} {s : Storage} (hs : (h.enter s).2.Sound)
    (ho : (h.initialise s).outcome = .ok ()) : ∃ readOnly d, h.Serves readOnly d s := by
  unfold initialise at ho
  rcases he : h.enter s with ⟨refusal | c, s₁⟩
  · rw [he] at ho
    cases refusal <;> cases ho
  rw [he] at ho hs
  dsimp only at ho hs
  refine ⟨c.readOnly, s₁.read c, c, s₁, he, rfl, rfl, fun hr => ?_⟩
  split at ho
  · cases ho
  split at ho
  · cases ho
  rename_i data _
  rw [hr, if_neg Bool.false_ne_true] at ho
  rcases hw : s₁.write c data with fault | s₂
  · rw [hw] at ho
    cases ho
  · obtain ⟨-, known, hstands⟩ := stands_of_enter he
    have haccepts := hstands.accepts hs hr hw
    exact ⟨haccepts.thawed, haccepts.file⟩

end Handle

/-! ## Sessions -/

namespace Session

/-- A session that has come about by steps from its beginning. -/
def Reachable (s : Session) : Prop :=
  ∃ environment steps, s = ((start environment).run steps).2

theorem Reachable.run {s : Session} (hs : s.Reachable) (steps : List Step) :
    (s.run steps).2.Reachable := by
  obtain ⟨environment, before, rfl⟩ := hs
  exact ⟨environment, before ++ steps, by rw [run_append]⟩

theorem Reachable.step {s : Session} (hs : s.Reachable) (step : Step) :
    (s.step step).2.Reachable := hs.run [step]

theorem run_cons (s : Session) (step : Step) (steps : List Step) :
    s.run (step :: steps) =
      ((s.step step).1 :: ((s.step step).2.run steps).1, ((s.step step).2.run steps).2) := rfl

/-- What every way of using storage keeps, and every text that is written, holds of a reachable
session if it holds at the beginning. -/
theorem Reachable.keeps {I : Nat → Storage → Prop} (hI : Storage.Invariant (fun _ => True) I)
    (hbegin : I 0 {})
    (htext : ∀ {n : Nat} {storage : Storage} {names : List FileName} {text : String}
      {tree : FileTree}, storage.tree.writeText names text = .ok tree → I n storage →
        I n { storage with tree })
    {s : Session} (hs : s.Reachable) : s.Keeps (fun _ => True) I s.host.settings := by
  obtain ⟨environment, steps, rfl⟩ := hs
  -- The induction goes over sessions under any settings, since no step changes these.
  have hkeeps : ∀ (steps : List Step) (s : Session), s.Keeps (fun _ => True) I s.host.settings →
      (s.run steps).2.Keeps (fun _ => True) I (s.run steps).2.host.settings := by
    intro steps
    induction steps with
    | nil => exact fun s hs => hs
    | cons step rest ih =>
      intro s hs
      have hstep := hs.step hI step (fun _ _ => trivial) fun _ _ _ _ htree => htext htree hs.storage
      rw [run_cons]
      exact ih _ ⟨hstep.storage, rfl, hstep.handles⟩
  refine hkeeps steps _ ⟨hbegin, rfl, ?_⟩
  intro e he
  cases he

/-- In a reachable session all channels are sound, and all handles have numbers that were given. -/
theorem Reachable.keeps_sound {s : Session} (hs : s.Reachable) :
    s.Keeps (fun _ => True) (fun _ => Storage.Sound) s.host.settings := by
  have hbegin : Storage.Sound {} := by
    intro c hc
    cases hc
  exact hs.keeps Storage.invariant_sound hbegin fun _ hs => hs

theorem Reachable.sound {s : Session} (hs : s.Reachable) : s.host.storage.Sound :=
  hs.keeps_sound.storage

/-- A step leaves the handles as they are, or gives a name to a handle that it has opened. -/
theorem handles_step (s : Session) (step : Step) :
    (s.step step).2.handles = s.handles ∨
      ∃ (name : String) (o : Opening) (h : Handle),
        (o.complete s.host.settings s.host.asked s.host.storage).outcome = .ok h ∧
          (s.step step).2.handles = (s.bind name h).handles := by
  have htake : ∀ {α : Type} (name : String) (f : Handle → Report α) (result : α → Result),
      (s.onHandle name fun h => s.take (f h) result).2.handles = s.handles := by
    intro α name f result
    unfold onHandle
    split <;> rfl
  have htree : ∀ tree, (s.withTree tree).handles = s.handles := fun _ => rfl
  cases step with
  | opening name o =>
    cases hopen : (s.host.openAs o).outcome with
    | ok h =>
      have hcomplete := hopen
      rw [Host.openAs, Host.settle_outcome] at hcomplete
      refine .inr ⟨name, o, h, hcomplete, ?_⟩
      simp only [Session.step, hopen]
      rfl
    | error f =>
      left
      simp only [Session.step, hopen]
      rfl
  | initialise name => exact .inl (htake name _ _)
  | call name c => exact .inl (htake name _ _)
  | dump name => exact .inl (htake name _ _)
  | schema name => exact .inl (htake name _ _)
  | pragmas name => exact .inl (htake name _ _)
  | close name =>
    left
    simp only [Session.step, onHandle]
    split <;> rfl
  | clock now | look path | command words => exact .inl rfl
  | makeDirectory path =>
    left
    simp only [Session.step]
    split
    · rfl
    · exact htree _
  | writeText path text =>
    left
    simp only [Session.step]
    split
    · rfl
    · split
      · rfl
      · exact htree _

/-- In a reachable session no two handles have the same number. -/
theorem Reachable.number_inj {s : Session} (hs : s.Reachable) :
    ∀ e ∈ s.handles, ∀ e' ∈ s.handles, e.2.number = e'.2.number → e = e' := by
  obtain ⟨environment, steps, rfl⟩ := hs
  have hrun : ∀ (steps : List Step) (s : Session), s.Reachable →
      (∀ e ∈ s.handles, ∀ e' ∈ s.handles, e.2.number = e'.2.number → e = e') →
      ∀ e ∈ (s.run steps).2.handles, ∀ e' ∈ (s.run steps).2.handles,
        e.2.number = e'.2.number → e = e' := by
    intro steps
    induction steps with
    | nil => exact fun s _ hinj => hinj
    | cons step rest ih =>
      intro s hs hinj
      rw [run_cons]
      refine ih _ (hs.step step) ?_
      rcases handles_step s step with heq | ⟨name, o, h, hopened, heq⟩
      · rwa [heq]
      have hnumber := (Opening.opens_of_complete hopened).1
      -- The numbers given before are less than that of the new handle.
      have hlt : ∀ e ∈ s.handles.filter (·.1 != name), e.2.number ≠ h.number := by
        intro e he
        rw [hnumber]
        exact Nat.ne_of_lt (hs.keeps_sound.handles e (List.mem_filter.1 he).1).number_lt
      rw [heq]
      intro e he e' he' hsame
      rcases List.mem_cons.1 he with rfl | hold
      · rcases List.mem_cons.1 he' with rfl | hold'
        · rfl
        · exact absurd hsame.symm (hlt e' hold')
      · rcases List.mem_cons.1 he' with rfl | hold'
        · exact absurd hsame (hlt e hold)
        · exact hinj e (List.mem_filter.1 hold).1 e' (List.mem_filter.1 hold').1 hsame
  refine hrun steps _ ⟨environment, [], rfl⟩ fun e he => ?_
  cases he

theorem Reachable.eq_of_number {s : Session} (hs : s.Reachable) {name name' : String}
    {h h' : Handle} (hh : s.handles.lookup name = some h) (hh' : s.handles.lookup name' = some h')
    (heq : h.number = h'.number) : h = h' :=
  (Prod.mk.inj (hs.number_inj _ (mem_of_lookup hh) _ (mem_of_lookup hh') heq)).2

end Session

end DeliveryStore
