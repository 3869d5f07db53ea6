import DeliveryStore.Proofs.Errands
import DeliveryStore.Proofs.Storage.Apart

/-!
# Failed operations

An operation that fails leaves every row where it was, and is forgotten by the handle: what is done
with the handle afterwards comes to what it would have come to. The first needs databases that lie
apart, the second a handle whose file is found in the same way whether it is there or not. Main
statements:

* `Storage.invariant_kept` — storage stays in order, whatever is done with it;
* `Handle.enter_readies` — making a channel ready for an operation leaves all data;
* `Session.Within.failed_errand` — what a failed operation leaves.
-/

namespace DeliveryStore

/-- A target that opens a file, if it does, at one of some places. -/
def Target.Within (P : Path → Prop) (target : Target) : Prop :=
  ∀ names, target.medium = .file names → P (Path.resolve names)

namespace Storage

variable {P : Path → Prop} {s s' : Storage} {handle : Nat} {target : Target} {c : Channel}
  {inMemory : Bool}

/-! ## Storage in order -/

/-- Storage whose files and channels are in order. -/
structure Kept (P : Path → Prop) (s : Storage) : Prop where
  tree : s.tree.Kept P
  channels : ∀ c ∈ s.channels, c.Kept P s.tree

/-- Storage that has been made ready for something: it is in order, and has the data that it had. -/
structure Readied (P : Path → Prop) (s s' : Storage) : Prop where
  kept : s'.Kept P
  tree : s.tree.Same s'.tree
  memories : s'.memories = s.memories

theorem Kept.readied (hs : s.Kept P) : s.Readied P s := ⟨hs, .refl s.tree, rfl⟩

theorem Readied.trans {s'' : Storage} (h : s.Readied P s') (h' : s'.Readied P s'') :
    s.Readied P s'' :=
  ⟨h'.kept, h.tree.trans h'.tree, h'.memories.trans h.memories⟩

theorem Kept.withTree (hs : s.Kept P) {tree : FileTree} (ht : s.tree.Keeps P tree) :
    Kept P { s with tree } :=
  ⟨ht.kept, fun c hc => (hs.channels c hc).mono ht⟩

theorem Kept.putChannel (hs : s.Kept P) (hc : c.Kept P s.tree) : (s.putChannel c).Kept P := by
  refine ⟨hs.tree, ?_⟩
  intro d hd
  rcases List.mem_cons.1 hd with rfl | hmem
  · exact hc
  · exact hs.channels d (List.mem_filter.1 hmem).1

theorem Kept.noteTables (hs : s.Kept P) (hc : c.Kept P s.tree) : (s.noteTables c).Kept P :=
  hs.putChannel ⟨hc.place, hc.file⟩

/-- A file is opened only at one of the places. -/
theorem place_of_placeOf (ht : target.Within P) {path : Path}
    (h : s.placeOf handle target = .ok (.file path)) : P path := by
  obtain ⟨names, hmedium, hlocate⟩ := placeOf_file h
  rw [FileTree.locate_eq hlocate]
  exact ht names hmedium

/-- Opening a channel leaves all data. -/
theorem openChannel_readies (hP : Path.Apart P) (hs : s.Kept P) (ht : target.Within P)
    {place : Place} (hplace : s.placeOf handle target = .ok place)
    (h : s.openChannel handle target place inMemory = (.ok c, s')) : s.Readied P s' := by
  rcases openChannel_ok h with ⟨path, tree, tree', rfl, hopen, hsettle, rfl⟩ | ⟨hfile, rfl, rfl⟩
  · have hp := place_of_placeOf ht hplace
    have hnew : (Channel.new handle (.file path) target).Kept P tree := by
      constructor
      · intro q hq
        cases (place_new handle (.file path) target).symm.trans hq
        exact hp
      · intro q _ hl
        rw [logging_new] at hl
        cases hl
    obtain ⟨hkeeps, hsame⟩ := FileTree.openFile_keeps hs.tree hopen
    obtain ⟨hkeeps', hsame', hc⟩ := Channel.settle_keeps hP hkeeps.kept hnew (place_new _ _ _)
      (frozen_new _ _ _) (logging_new _ _ _) hsettle
    exact ⟨(hs.withTree (hkeeps.trans hkeeps')).noteTables hc, hsame.trans hsame', rfl⟩
  · refine ⟨hs.noteTables ⟨?_, ?_⟩, .refl s.tree, rfl⟩
    · intro q hq
      exact absurd ((place_new _ _ _).symm.trans hq) (hfile q)
    · intro q hq
      exact absurd ((place_new _ _ _).symm.trans hq) (hfile q)

/-- Connecting leaves all data. -/
theorem connect_readies (hP : Path.Apart P) (hs : s.Kept P) (ht : target.Within P)
    (handle : Nat) (inMemory : Bool) : s.Readied P (s.connect handle target inMemory).2 := by
  rcases hconnect : s.connect handle target inMemory with ⟨fault | c, s'⟩
  · rcases connect_error hconnect with rfl | ⟨path, tree, -, hopen, rfl⟩
    · exact hs.readied
    · obtain ⟨hkeeps, hsame⟩ := FileTree.openFile_keeps hs.tree hopen
      exact ⟨hs.withTree hkeeps, hsame, rfl⟩
  · rcases connect_cases hconnect with ⟨-, rfl⟩ | ⟨d, hd, rfl, rfl⟩ | ⟨place, hplace, hopen⟩
    · exact hs.readied
    · have hdkept := hs.channels d hd
      exact ⟨hs.putChannel ⟨hdkept.place, hdkept.file⟩, .refl s.tree, rfl⟩
    · exact openChannel_readies hP hs ht hplace hopen

/-- What entering does once there is a channel leaves all data. -/
theorem ready_readies (hP : Path.Apart P) (hs : s.Kept P)
    (hc : ∃ handle known, s.channel? handle = some { c with known }) :
    s.Readied P (s.ready c).2 := by
  obtain ⟨handle, known, hchannel⟩ := hc
  have hknown := hs.channels _ (mem_of_channel? hchannel)
  have hkept : c.Kept P s.tree := ⟨hknown.place, hknown.file⟩
  unfold ready
  split
  · rename_i path hpath
    split
    · exact hs.readied
    · rename_i c' tree hrefresh
      obtain ⟨hkeeps, hsame⟩ := Channel.refresh_keeps hP hs.tree (hkept.place path hpath) hrefresh
      have hc' := hkept.refresh hP hs.tree hpath hrefresh
      exact ⟨(hs.withTree hkeeps).noteTables hc', hsame, rfl⟩
  · exact hs.readied

/-- What is written keeps storage in order. -/
theorem Kept.write (hP : Path.Apart P) (hs : s.Kept P) (hsound : s.Sound)
    (hstands : s.Stands handle c) (hr : c.readOnly = false) {data : Database}
    (hw : s.write c data = .ok s') : s'.Kept P := by
  have hmem := mem_of_channel? hstands.channel
  have hc := hs.channels c hmem
  unfold Storage.write at hw
  split at hw
  · rename_i path hpath
    have hp := hc.place path hpath
    split at hw
    · rename_i hlog
      cases hw
      have hthawed := (hsound c hmem).thawed hr
      -- A channel that stands has found more than a blank file, so the log may hold changes.
      have hsolid := hc.isSolid hP hs.tree hpath hthawed hlog (hstands.settled path hpath [])
      have hkeeps := hs.tree.keeps_writeLog hP hp hsolid data
      exact (hs.withTree hkeeps).noteTables (hc.mono hkeeps)
    split at hw
    · cases hw
      have hkeeps := FileTree.keeps_overwrite hP hs.tree hp false data
      exact (hs.withTree hkeeps).noteTables (hc.mono hkeeps)
    · cases hw
  · cases hw
    exact Kept.noteTables (s := { s with memories := _ }) ⟨hs.tree, hs.channels⟩ hc

/-- A handle that is let go leaves storage in order. -/
theorem Kept.disconnect (hP : Path.Apart P) (hs : s.Kept P) (handle : Nat) :
    (s.disconnect handle).Kept P := by
  unfold Storage.disconnect
  split
  · exact hs
  rename_i c hchannel
  have hc := hs.channels c (mem_of_channel? hchannel)
  dsimp only
  split
  · have hothers : ∀ d ∈ s.others c.number, d.Kept P s.tree :=
      fun d hd => hs.channels d (List.mem_filter.1 hd).1
    unfold leaveLog
    split
    · rename_i path hpath
      split
      · have hkeeps := FileTree.keeps_closeLog hP hs.tree (hc.place path hpath)
        exact ⟨hkeeps.kept, fun d hd => (hothers d hd).mono hkeeps⟩
      · exact ⟨hs.tree, hothers⟩
    · exact ⟨hs.tree, hothers⟩
  · exact hs.putChannel ⟨hc.place, hc.file⟩

/-- Whatever is done with storage, it stays in order if the databases that are opened lie apart. -/
theorem invariant_kept (hP : Path.Apart P) :
    Invariant (Target.Within P) fun _ s => s.Sound ∧ s.Kept P where
  mono _ hs := hs
  connect inMemory hn ht hs :=
    ⟨invariant_sound.connect inMemory hn trivial hs.1,
      (connect_readies hP hs.2 ht _ inMemory).kept⟩
  ready hc hs := ⟨invariant_sound.ready (n := 0) hc hs.1, (ready_readies hP hs.2 hc).kept⟩
  write hstands hr hd hw hs :=
    ⟨invariant_sound.write (n := 0) hstands hr hd hw hs.1, hs.2.write hP hs.1 hstands hr hw⟩
  disconnect handle hs := ⟨invariant_sound.disconnect (n := 0) handle hs.1, hs.2.disconnect hP handle⟩
  directories names hs :=
    ⟨invariant_sound.directories (n := 0) names hs.1,
      hs.2.withTree (FileTree.keeps_makeDirectories hs.2.tree names)⟩

end Storage

/-! ## What a failed operation leaves -/

namespace Handle

variable {P : Path → Prop} {h : Handle} {s : Storage}

/-- Entering leaves all data. -/
theorem enter_readies (hP : Path.Apart P) (hs : s.Kept P) {n : Nat}
    (hh : h.Admitted (Target.Within P) n) :
    s.Readied P (h.enter s).2 := by
  unfold enter
  cases ht : h.target with
  | error refusal => exact hs.readied
  | ok target =>
    have hconnect := Storage.connect_readies hP hs (hh.target target ht) h.number h.inMemory
    dsimp only
    rw [Storage.enter_eq]
    rcases hc : s.connect h.number target h.inMemory with ⟨fault | c, s₁⟩
    · rw [hc] at hconnect
      exact hconnect
    · rw [hc] at hconnect
      obtain ⟨-, known, hchannel, -⟩ := Storage.channel?_connect hc
      exact hconnect.trans (Storage.ready_readies hP hconnect.kept ⟨h.number, known, hchannel⟩)

/-- Storage, and what entering makes of it: with either the handle does the same. -/
def Retraces (h : Handle) (s s' : Storage) : Prop := s' = s ∨ s' = (h.enter s).2

/-- A call comes to the same whether or not the handle has entered before. -/
theorem Retraces.call {s' : Storage} (hr : h.Retraceable) (hs : h.Retraces s s') (now : Moment)
    (c : Call) :
    (h.call now c s').outcome = (h.call now c s).outcome ∧
      h.Retraces (h.call now c s).storage (h.call now c s').storage := by
  rcases hs with rfl | rfl
  · exact ⟨rfl, .inl rfl⟩
  unfold Handle.call
  split
  · cases c.check now with
    | error f => exact ⟨rfl, .inr rfl⟩
    | ok r =>
      dsimp only
      rw [perform_enter hr]
      exact ⟨rfl, .inl rfl⟩
  · exact ⟨rfl, .inr rfl⟩

/-- Making tables comes to the same whether or not the handle has entered before. -/
theorem Retraces.initialise {s' : Storage} (hr : h.Retraceable) (hs : h.Retraces s s') :
    (h.initialise s').outcome = (h.initialise s).outcome ∧
      h.Retraces (h.initialise s).storage (h.initialise s').storage := by
  rcases hs with rfl | rfl
  · exact ⟨rfl, .inl rfl⟩
  · rw [initialise_enter hr]
    exact ⟨rfl, .inl rfl⟩

end Handle

/-- Whether a text that a step writes is put over nothing for which changes are pending in a log. -/
def Step.Spares (s : Session) : Step → Prop
  | .writeText path _ => ∀ place, s.host.storage.tree.walk (Path.namesOfText path) = .ok place →
      s.host.storage.tree.pending? place = none
  | _ => True

namespace Session

variable {P : Path → Prop} {s s' : Session} {name : String} {h : Handle}

/-- A session that has opened only databases at some places, and in which no text was put over a
database while changes were pending in its log. -/
inductive Within (P : Path → Prop) : Session → Prop where
  | start (environment : List (String × String)) : Within P (Session.start environment)
  | step {s : Session} (hs : Within P s) (step : Step)
      (ho : ∀ target, step.Opens s.host.settings target → target.Within P) (hw : step.Spares s) :
      Within P (s.step step).2

/-- Steps that write no text and open only databases at the places keep the session to them. -/
theorem Within.run (hs : s.Within P) {steps : List Step}
    (ho : ∀ step ∈ steps, ∀ settings target, step.Opens settings target → target.Within P)
    (hw : ∀ step ∈ steps, ∀ s, step.Spares s) : (s.run steps).2.Within P := by
  induction steps generalizing s with
  | nil => exact hs
  | cons step rest ih =>
    have hstep : (s.step step).2.Within P :=
      .step hs step (ho step List.mem_cons_self _) (hw step List.mem_cons_self s)
    exact ih hstep (fun m hm => ho m (List.mem_cons_of_mem _ hm))
      fun m hm => hw m (List.mem_cons_of_mem _ hm)

/-- In a session that keeps to databases that lie apart, storage is in order. -/
theorem Within.keeps (hP : Path.Apart P) (hs : s.Within P) :
    s.Keeps (Target.Within P) (fun _ storage => storage.Sound ∧ storage.Kept P)
      s.host.settings := by
  induction hs with
  | start environment =>
    -- At the beginning there are no files, no channels and no handles.
    have hget : ∀ p c, (FileTree.get? {} p) ≠ some (.file c) := by
      intro p c
      unfold FileTree.get?
      split <;> simp
    have htree : FileTree.Kept P {} :=
      ⟨fun hdata => absurd hdata (hget _ _), fun hlog => absurd hlog (hget _ _)⟩
    have hstorage : (Session.start environment).host.storage = {} := rfl
    have hhandles : (Session.start environment).handles = [] := rfl
    refine ⟨?_, rfl, ?_⟩
    · rw [hstorage]
      exact ⟨fun c hc => absurd hc List.not_mem_nil, htree, fun c hc => absurd hc List.not_mem_nil⟩
    · rw [hhandles]
      exact fun e he => absurd he List.not_mem_nil
  | @step s hs step ho hw ih =>
    have hstep := ih.step (Storage.invariant_kept hP) step ho ?_
    · rwa [← hstep.settings_eq] at hstep
    · rintro path text tree rfl htree
      have hkeeps := FileTree.keeps_writeText ih.storage.2.tree hw htree
      exact ⟨ih.storage.1, ih.storage.2.withTree hkeeps⟩

/-- Sessions that differ at most in that a handle has entered in the second. -/
structure Retraces (name : String) (h : Handle) (s s' : Session) : Prop where
  handle : s.handles.lookup name = some h
  handle' : s'.handles.lookup name = some h
  now_eq : s'.host.now = s.host.now
  storage : h.Retraces s.host.storage s'.host.storage

/-- An errand on the handle comes to the same in both sessions. -/
theorem Retraces.step (hr : h.Retraceable) (hs : Retraces name h s s') (e : Errand) :
    (s'.step (e.step name)).1.outcome = (s.step (e.step name)).1.outcome ∧
      Retraces name h (s.step (e.step name)).2 (s'.step (e.step name)).2 := by
  obtain ⟨hh, hh', hnow, hstorage⟩ := hs
  cases e with
  | call c =>
    have hdoes := does_call hh c
    have hdoes' := does_call hh' c
    obtain ⟨houtcome, hafter⟩ := hstorage.call hr s.host.now c
    rw [hnow] at hdoes'
    rw [← hdoes.storage, ← hdoes'.storage] at hafter
    exact ⟨by rw [Errand.step, hdoes.outcome, hdoes'.outcome, houtcome],
      hdoes.handles ▸ hh, hdoes'.handles ▸ hh', hdoes'.now_eq.trans (hnow.trans hdoes.now_eq.symm),
      hafter⟩
  | initialise =>
    have hdoes := does_initialise hh
    have hdoes' := does_initialise hh'
    obtain ⟨houtcome, hafter⟩ := hstorage.initialise hr
    rw [← hdoes.storage, ← hdoes'.storage] at hafter
    exact ⟨by rw [Errand.step, hdoes.outcome, hdoes'.outcome, houtcome],
      hdoes.handles ▸ hh, hdoes'.handles ▸ hh', hdoes'.now_eq.trans (hnow.trans hdoes.now_eq.symm),
      hafter⟩
  | clock now => exact ⟨rfl, hh, hh', rfl, hstorage⟩

/-- Errands on the handle come to the same in both sessions. -/
theorem Retraces.run (hr : h.Retraceable) (hs : Retraces name h s s') (errands : List Errand) :
    s'.outcomes (errands.map (·.step name)) = s.outcomes (errands.map (·.step name)) := by
  induction errands generalizing s s' with
  | nil => rfl
  | cons e rest ih =>
    obtain ⟨hfirst, hafter⟩ := hs.step hr e
    have hrest := ih hafter
    unfold outcomes at hrest ⊢
    rw [List.map_cons, run_cons, run_cons, List.map_cons, List.map_cons, hfirst, hrest]

end Session

end DeliveryStore
