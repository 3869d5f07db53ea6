import DeliveryStore.Storage
import DeliveryStore.Proofs.Storage.Channels

/-!
# Laws of connections

A handle connects once and then keeps its channel. What connecting and entering leave behind is such
that doing it again changes nothing, whether it succeeds or fails:

* `Stands` — a channel that its handle finds as it left it;
* `stands_of_enter`, `Stands.enter` — entering leaves a channel that stands, and entering where one
  stands changes nothing;
* `enter_again` — entering a second time gives what it gave the first time;
* `Stands.write` — what is written through a channel that stands is seen, and the channel goes on
  standing.
-/

namespace DeliveryStore

namespace Storage

variable {s s' : Storage} {handle : Nat} {target : Target} {c c' : Channel}

/-! ## Noting tables -/

theorem contains_of_channel? (h : s.channel? handle = some c) :
    c.members.contains handle = true :=
  List.find?_some (p := fun d : Channel => d.members.contains handle) h

theorem channel?_noteTables (h : c.members.contains handle = true) :
    (s.noteTables c).channel? handle = some { c with known := (s.read c).stores } := by
  simp only [channel?, noteTables, putChannel, List.find?_cons, h]

theorem channel?_putChannel (h : c.members.contains handle = true) :
    (s.putChannel c).channel? handle = some c := by
  simp only [channel?, putChannel, List.find?_cons, h]

theorem others_noteTables (s : Storage) (c : Channel) :
    (s.noteTables c).others c.number = s.others c.number := by
  simp [others, noteTables, putChannel]

/-- Noting the tables once is enough. -/
theorem noteTables_noteTables (s : Storage) (c : Channel) (known : List Store) :
    (s.noteTables c).noteTables { c with known } = s.noteTables c := by
  have hothers : (s.noteTables c).others ({ c with known } : Channel).number = s.others c.number :=
    others_noteTables s c
  have hread : (s.noteTables c).read { c with known } = s.read c := rfl
  unfold noteTables at *
  unfold putChannel at *
  rw [hothers, hread]

end Storage

/-! ## What opening comes to -/

namespace Channel

variable {c c' : Channel} {t t' : FileTree} {others : List Channel} {p : Path}

/-- The ways in which a first look succeeds: the data are frozen, the file is looked up and that is
all, or a log is started for it. -/
theorem settle_cases {immutable log : Bool} (h : c.settle t others p immutable log = .ok (c', t')) :
    (immutable = true ∧ t' = t ∧
      ∃ ahead data, t.database? p = .ok (ahead, data) ∧ c' = { c with frozen := some data }) ∨
    (immutable = false ∧ c.refresh t others p = .ok (c', t')) ∨
    (immutable = false ∧ ∃ c₁ t₁, c.refresh t others p = .ok (c₁, t₁) ∧
      c₁.journal ≠ .writeAhead ∧ c₁.readOnly = false ∧ t₁.canJournal p = true ∧
      c' = { c₁ with journal := .writeAhead } ∧ t' = t₁.overwrite p true (t₁.dataAt p)) := by
  unfold settle at h
  cases immutable with
  | true =>
    left
    simp only [if_true, freeze, bind, Except.bind, pure, Except.pure] at h
    cases hd : t.database? p with
    | error fault =>
      rw [hd] at h
      cases h
    | ok found =>
      rw [hd] at h
      cases h
      exact ⟨rfl, rfl, found.1, found.2, rfl, rfl⟩
  | false =>
    right
    simp only [Bool.false_eq_true, if_false, bind, Except.bind, pure, Except.pure] at h
    cases hr : c.refresh t others p with
    | error fault =>
      rw [hr] at h
      cases h
    | ok r =>
      obtain ⟨c₁, t₁⟩ := r
      rw [hr] at h
      dsimp only at h
      cases log with
      | false =>
        cases h
        exact .inl ⟨rfl, rfl⟩
      | true =>
        simp only [if_true, startLog] at h
        split at h
        · cases h
          exact .inl ⟨rfl, rfl⟩
        split at h
        · cases h
        split at h
        · cases h
        rename_i hjournal hread hcan
        cases h
        refine .inr ⟨rfl, c₁, t₁, rfl, ?_, by simpa using hread, by simpa using hcan, rfl, rfl⟩
        intro hahead
        simp [hahead] at hjournal

/-- A first look leaves a channel what it is. -/
theorem settle_frame {immutable log : Bool} (h : c.settle t others p immutable log = .ok (c', t')) :
    c' = { c with logging := c'.logging, journal := c'.journal, frozen := c'.frozen } := by
  obtain ⟨-, -, -, -, -, rfl⟩ | ⟨-, hr⟩ | ⟨-, c₁, t₁, hr, -, -, -, rfl, -⟩ := settle_cases h
  · rfl
  · rw [refresh_frame hr]
  · rw [refresh_frame hr]

end Channel

namespace Storage

variable {s s' : Storage} {handle : Nat} {target : Target} {c c' : Channel} {inMemory : Bool}

/-! ## Connecting -/

/-- What opening a channel comes to when it succeeds. -/
theorem openChannel_ok {place : Place}
    (h : s.openChannel handle target place inMemory = (.ok c, s')) :
    (∃ path tree tree', place = .file path ∧ s.tree.openFile path target = .ok tree ∧
      (Channel.new handle place target).settle tree (s.others handle) path target.immutable
        (!inMemory) = .ok (c, tree') ∧ s' = { s with tree := tree' }.noteTables c) ∨
    ((∀ path, place ≠ .file path) ∧ c = Channel.new handle place target ∧ s' = s.noteTables c) := by
  unfold openChannel at h
  cases place with
  | file path =>
    left
    dsimp only at h
    cases hopen : s.tree.openFile path target with
    | error fault =>
      rw [hopen] at h
      cases h
    | ok tree =>
      rw [hopen] at h
      dsimp only at h
      cases hsettle : (Channel.new handle (.file path) target).settle tree (s.others handle) path
          target.immutable (!inMemory) with
      | error fault =>
        rw [hsettle] at h
        cases h
      | ok r =>
        rw [hsettle] at h
        cases h
        exact ⟨path, tree, r.2, rfl, hopen, hsettle, rfl⟩
  | store name =>
    cases h
    exact .inr ⟨by simp, rfl, rfl⟩
  | shared system name =>
    cases h
    exact .inr ⟨by simp, rfl, rfl⟩
  | own number =>
    cases h
    exact .inr ⟨by simp, rfl, rfl⟩

theorem contains_new (handle : Nat) (place : Place) (target : Target) :
    (Channel.new handle place target).members.contains handle = true := by
  unfold Channel.new
  cases target.medium <;> simp

theorem known_new (handle : Nat) (place : Place) (target : Target) :
    (Channel.new handle place target).known = [] := by
  unfold Channel.new
  cases target.medium <;> rfl

theorem place_new (handle : Nat) (place : Place) (target : Target) :
    (Channel.new handle place target).place = place := by
  unfold Channel.new
  cases target.medium <;> rfl

theorem number_new (handle : Nat) (place : Place) (target : Target) :
    (Channel.new handle place target).number = handle := by
  unfold Channel.new
  cases target.medium <;> rfl

theorem members_new (handle : Nat) (place : Place) (target : Target) :
    (Channel.new handle place target).members = [handle] := by
  unfold Channel.new
  cases target.medium <;> rfl

theorem frozen_new (handle : Nat) (place : Place) (target : Target) :
    (Channel.new handle place target).frozen = none := by
  unfold Channel.new
  cases target.medium <;> rfl

theorem logging_new (handle : Nat) (place : Place) (target : Target) :
    (Channel.new handle place target).logging = false := by
  unfold Channel.new
  cases target.medium <;> rfl

/-- What connecting comes to when it succeeds: the handle had a channel, joins one, or opens one. -/
theorem connect_cases (h : s.connect handle target inMemory = (.ok c, s')) :
    (s.channel? handle = some c ∧ s' = s) ∨
    (∃ d ∈ s.channels, c = { d with members := handle :: d.members } ∧ s' = s.putChannel c) ∨
    (∃ place, s.placeOf handle target = .ok place ∧
      s.openChannel handle target place inMemory = (.ok c, s')) := by
  unfold connect at h
  split at h
  · rename_i hc
    cases h
    exact .inl ⟨hc, rfl⟩
  split at h
  · cases h
  rename_i place hplace
  split at h
  · rename_i d hd
    cases h
    refine .inr (.inl ⟨d, ?_, rfl, rfl⟩)
    unfold sharing? at hd
    split at hd
    · exact List.mem_of_find?_eq_some hd
    · cases hd
  · exact .inr (.inr ⟨place, hplace, h⟩)

/-- A handle that has connected has the channel, perhaps with the tables that were there when it was
opened. -/
theorem channel?_connect (h : s.connect handle target inMemory = (.ok c, s')) :
    c.members.contains handle = true ∧ ∃ known, s'.channel? handle = some { c with known } ∧
      (known = c.known ∨ c.known = [] ∧ known = (s'.read c).stores) := by
  rcases connect_cases h with ⟨hc, rfl⟩ | ⟨d, -, rfl, rfl⟩ | ⟨place, -, hopen⟩
  · exact ⟨contains_of_channel? hc, c.known, hc, .inl rfl⟩
  · have hmember : ({ d with members := handle :: d.members } : Channel).members.contains handle :=
      by simp
    exact ⟨hmember, _, channel?_putChannel hmember, .inl rfl⟩
  · rcases openChannel_ok hopen with ⟨path, tree, tree', rfl, -, hsettle, rfl⟩ | ⟨-, rfl, rfl⟩
    · have hmember : c.members.contains handle = true := by
        rw [Channel.settle_frame hsettle]
        exact contains_new _ _ _
      have hknown : c.known = [] := by
        rw [Channel.settle_frame hsettle]
        exact known_new _ _ _
      exact ⟨hmember, _, channel?_noteTables hmember, .inr ⟨hknown, rfl⟩⟩
    · have hmember := contains_new handle place target
      exact ⟨hmember, _, channel?_noteTables hmember, .inr ⟨known_new _ _ _, rfl⟩⟩

/-! ## Entering -/

/-- What entering does once there is a channel. -/
def ready (s : Storage) (c : Channel) : Except StorageFault Channel × Storage :=
  match c.place with
  | .file path =>
    match c.refresh s.tree (s.others c.number) path with
    | .error fault => (.error fault, s)
    | .ok (c, tree) => (.ok c, { s with tree }.noteTables c)
  | _ => (.ok c, s)

theorem enter_eq (s : Storage) (handle : Nat) (target : Target) (inMemory : Bool) :
    s.enter handle target inMemory =
      match s.connect handle target inMemory with
      | (.error fault, s) => (.error fault, s)
      | (.ok c, s) => s.ready c := rfl

theorem ready_file {path : Path} (h : c.place = .file path) :
    s.ready c =
      match c.refresh s.tree (s.others c.number) path with
      | .error fault => (.error fault, s)
      | .ok (c, tree) => (.ok c, { s with tree }.noteTables c) := by
  simp only [ready, h]

/-- The channel of a handle, as entering leaves it: if it is on a file, its tables have been noted
and looking the file up again changes nothing. -/
structure Stands (s : Storage) (handle : Nat) (c : Channel) : Prop where
  channel : s.channel? handle = some c
  noted : ∀ path, c.place = .file path → s.noteTables c = s
  settled : ∀ path, c.place = .file path → ∀ others, c.refresh s.tree others path = .ok (c, s.tree)

/-- Entering where a channel stands changes nothing. -/
theorem Stands.enter (h : s.Stands handle c) (target : Target) (inMemory : Bool) :
    s.enter handle target inMemory = (.ok c, s) := by
  rw [enter_eq, connect_of_channel h.channel]
  dsimp only
  unfold ready
  split
  · rename_i path hpath
    rw [h.settled path hpath]
    dsimp only
    rw [h.noted path hpath]
  · rfl

/-- A channel whose tables have been noted stands, if looking its file up changes nothing. -/
theorem stands_noteTables (hm : c.members.contains handle = true)
    (hr : ∀ path, c.place = .file path → ∀ others,
      { c with known := (s.read c).stores }.refresh s.tree others path =
        .ok ({ c with known := (s.read c).stores }, s.tree)) :
    (s.noteTables c).Stands handle { c with known := (s.read c).stores } :=
  ⟨channel?_noteTables hm, fun _ _ => noteTables_noteTables _ _ _, hr⟩

/-- Entering leaves a channel that stands. -/
theorem stands_of_enter (h : s.enter handle target inMemory = (.ok c, s')) :
    ∃ known, s'.Stands handle { c with known } := by
  rw [enter_eq] at h
  split at h
  · cases h
  rename_i c₀ s₀ hconnect
  obtain ⟨hmember, known, hchannel, -⟩ := channel?_connect hconnect
  unfold ready at h
  split at h
  · rename_i path hpath
    split at h
    · cases h
    rename_i c₁ tree hrefresh
    cases h
    have hplace : c.place = .file path := by
      rw [Channel.refresh_frame hrefresh]
      exact hpath
    have hmember' : c.members.contains handle = true := by
      rw [Channel.refresh_frame hrefresh]
      exact hmember
    refine ⟨_, stands_noteTables hmember' ?_⟩
    intro path' hpath' others
    have hsame : path' = path := Place.file.inj (hpath'.symm.trans hplace)
    subst hsame
    -- The tables that were noted are those of the file, unless the channel is frozen.
    refine Channel.refresh_again hrefresh ?_ others
    intro hfrozen
    have hread : ({ s₀ with tree } : Storage).read c = tree.dataAt path' := by
      simp only [read, hfrozen, hplace]
    rw [hread, FileTree.isLost_stores]
  · rename_i hfile
    cases h
    exact ⟨known, hchannel, fun path hpath => absurd hpath (hfile path),
      fun path hpath => absurd hpath (hfile path)⟩

end Storage

/-! ## Failing again -/

/-- Names that do not lead through the place where they end. -/
def Path.Direct (names : List FileName) : Prop :=
  ∀ before name after, names = before ++ name :: after → name ≠ Path.above →
    Path.resolve before ≠ Path.resolve names

/-- A target whose file is found in the same way whether it is there or not. This matters only where
a lock is kept beside the file, which fails in a way of its own. -/
def Target.Retraceable (target : Target) : Prop :=
  ∀ names, target.medium = .file names → target.system = .dotfile → Path.Direct names

namespace Channel

variable {c c' : Channel} {t t' : FileTree} {others : List Channel} {p : Path}

/-- Nothing is wrong with an empty text as a database. -/
theorem database?_of_empty (h : t.get? p = some (.file (.text ""))) :
    t.database? p = .ok (false, {}) := by
  have hfault : Image.fault? (Text.Utf8.encode "".toList) = none := by decide +kernel
  have hkeeps : Image.keepsLog (Text.Utf8.encode "".toList) = false := by decide +kernel
  simp only [FileTree.database?, h, Content.database?, hfault, hkeeps]

/-- A new channel on an empty file fails to look it up only because of what lies beside it. -/
theorem refresh_error_of_empty {fault : StorageFault} (hf : c.frozen = none)
    (hl : c.logging = false) (ht : t.get? p = some (.file (.text "")))
    (h : c.refresh t others p = .error fault) :
    fault = .cannotOpen ∨ c.locksBeside = true ∧ fault = .unreadable := by
  have hempty : (t.tidy p).get? p = some (.file (.text "")) := by
    rw [FileTree.get?_tidy_self, ht]
  have hahead : ∃ ahead, (t.tidy p).writesAhead p = .ok ahead := by
    unfold FileTree.writesAhead
    rw [database?_of_empty hempty]
    split
    · exact ⟨true, rfl⟩
    · exact ⟨false, rfl⟩
  obtain ⟨ahead, hahead⟩ := hahead
  rw [refresh_eq, if_neg (by simp [hf]), if_neg (by simp [hl])] at h
  split at h
  · rename_i hlock
    cases h
    rw [Bool.and_eq_true] at hlock
    exact .inr ⟨hlock.1, rfl⟩
  left
  split at h
  · cases h
    rfl
  rw [hahead] at h
  dsimp only at h
  split at h
  · split at h
    · split at h
      · rename_i hopen
        cases h
        exact FileTree.openLog_error hopen
      · cases h
    · cases h
      rfl
  · cases h

/-- A new channel fails to settle on an empty file only because of what lies beside it. -/
theorem settle_error_of_empty {immutable log : Bool} {fault : StorageFault} (hf : c.frozen = none)
    (hl : c.logging = false) (hw : immutable = false → c.readOnly = false)
    (ht : t.get? p = some (.file (.text "")))
    (h : c.settle t others p immutable log = .error fault) :
    fault = .cannotOpen ∨ c.locksBeside = true ∧ fault = .unreadable := by
  unfold settle at h
  cases immutable with
  | true =>
    simp only [if_true, freeze, database?_of_empty ht, bind, Except.bind, pure, Except.pure] at h
    cases h
  | false =>
    simp only [Bool.false_eq_true, if_false, bind, Except.bind, pure, Except.pure] at h
    cases hr : c.refresh t others p with
    | error fault' =>
      rw [hr] at h
      cases h
      exact refresh_error_of_empty hf hl ht hr
    | ok r =>
      rcases r with ⟨c₁, t₁⟩
      have hread : c₁.readOnly = false := by
        rw [refresh_frame hr]
        exact hw rfl
      left
      simp only [hr, startLog, hread] at h
      split at h
      · split at h
        · cases h
        split at h
        · contradiction
        split at h
        · cases h
          rfl
        · cases h
      · cases h

end Channel

namespace Storage

variable {s s' : Storage} {handle : Nat} {target : Target} {c c' : Channel} {inMemory : Bool}

/-- What opening a channel comes to when it fails: the file could not be opened, or was opened and
found wanting. -/
theorem openChannel_error {place : Place} {fault : StorageFault}
    (h : s.openChannel handle target place inMemory = (.error fault, s')) :
    ∃ path, place = .file path ∧
      ((s.tree.openFile path target = .error fault ∧ s' = s) ∨
        ∃ tree, s.tree.openFile path target = .ok tree ∧ s' = { s with tree } ∧
          (Channel.new handle place target).settle tree (s.others handle) path target.immutable
            (!inMemory) = .error fault) := by
  unfold openChannel at h
  cases place with
  | file path =>
    refine ⟨path, rfl, ?_⟩
    dsimp only at h
    cases hopen : s.tree.openFile path target with
    | error fault' =>
      rw [hopen] at h
      cases h
      exact .inl ⟨rfl, rfl⟩
    | ok tree =>
      rw [hopen] at h
      dsimp only at h
      cases hsettle : (Channel.new handle (.file path) target).settle tree (s.others handle) path
          target.immutable (!inMemory) with
      | error fault' =>
        rw [hsettle] at h
        cases h
        exact .inr ⟨tree, rfl, rfl, hsettle⟩
      | ok r =>
        rw [hsettle] at h
        cases h
  | store name | shared system name | own number => cases h

/-- A target opens a file only under the place that its names resolve to. -/
theorem placeOf_file {path : Path} (h : s.placeOf handle target = .ok (.file path)) :
    ∃ names, target.medium = .file names ∧ s.tree.locate names = some path := by
  unfold placeOf at h
  dsimp only at h
  cases hm : target.medium with
  | file names =>
    rw [hm] at h
    dsimp only at h
    cases hl : s.tree.locate names with
    | none =>
      rw [hl] at h
      cases h
    | some path' =>
      rw [hl] at h
      cases h
      exact ⟨names, rfl, hl⟩
  | memory name | store name =>
    rw [hm] at h
    dsimp only at h
    grind
  | temporary =>
    rw [hm] at h
    cases h

/-- A new channel that does not settle on a file that was made for it could not be opened, unless the
names of its target lead to that file as before. -/
theorem settle_error_of_made {path : Path} {names : List FileName} {others : List Channel}
    {log : Bool} {fault : StorageFault} {t : FileTree} (ht : target.Retraceable)
    (hmedium : target.medium = .file names) (hcreate : target.access = .create)
    (hlocate : t.locate names = some path) (houter : path.isOuter = false)
    (h : (Channel.new handle (.file path) target).settle (t.put path (.file (.text ""))) others path
      target.immutable log = .error fault) :
    (t.put path (.file (.text ""))).locate names = some path ∨ fault = .cannotOpen := by
  have hlocks : (Channel.new handle (.file path) target).locksBeside = true →
      target.system = .dotfile := by
    intro hlocks
    simp only [Channel.new, hmedium] at hlocks
    grind
  have hwrites : target.immutable = false →
      (Channel.new handle (.file path) target).readOnly = false := by
    intro himmutable
    simp only [Channel.new, hmedium, hcreate, himmutable]
    rfl
  rcases Channel.settle_error_of_empty (frozen_new _ _ _) (logging_new _ _ _) hwrites
    (FileTree.get?_put_self houter) h with hfault | ⟨hlock, -⟩
  · exact .inr hfault
  · -- A way that does not lead through the file is still there.
    have hdirect := ht names hmedium (hlocks hlock)
    left
    refine FileTree.locateFrom_put hlocate ?_
    intro before name after heq habove
    rw [FileTree.locate_eq hlocate]
    exact hdirect before name after heq habove

/-- A handle that failed to connect fails in the same way when it tries again. -/
theorem connect_again_of_error {fault : StorageFault} (ht : target.Retraceable)
    (h : s.connect handle target inMemory = (.error fault, s')) :
    s'.connect handle target inMemory = (.error fault, s') := by
  have hfirst := h
  unfold connect at h
  split at h
  · cases h
  rename_i hnone
  split at h
  · cases h
    exact hfirst
  rename_i place hplace
  split at h
  · cases h
  rename_i hsharing
  rcases openChannel_error h with ⟨path, rfl, ⟨-, rfl⟩ | ⟨tree, hopen, rfl, hsettle⟩⟩
  · exact hfirst
  rcases FileTree.openFile_cases hopen with rfl | ⟨hmissing, hcreate, rfl⟩
  · exact hfirst
  -- The file has been made, and the second attempt finds it, if it finds the way.
  have hreopen := FileTree.openFile_again hopen
  obtain ⟨names, hmedium, hlocate⟩ := placeOf_file hplace
  have houter : path.isOuter = false :=
    FileTree.isOuter_of_get? (t := s.tree) (by simp [hmissing])
  let made : Storage := { s with tree := s.tree.put path (.file (.text "")) }
  have hchannel : made.channel? handle = none := hnone
  have hothers : made.others handle = s.others handle := rfl
  have hsharing' : made.sharing? target (.file path) = none := hsharing
  show made.connect handle target inMemory = (.error fault, made)
  cases hlocate' : made.tree.locate names with
  | some path' =>
    have hsame : path' = path := by rw [FileTree.locate_eq hlocate', FileTree.locate_eq hlocate]
    subst hsame
    have hplace' : made.placeOf handle target = .ok (.file path') := by
      simp only [placeOf, hmedium, hlocate']
    simp only [connect, hchannel, hplace', hsharing', openChannel, hothers]
    rw [hreopen]
    dsimp only
    rw [hsettle]
  | none =>
    have hplace' : made.placeOf handle target = .error .cannotOpen := by
      simp only [placeOf, hmedium, hlocate']
    rcases settle_error_of_made ht hmedium hcreate hlocate houter hsettle with hfound | hfault
    · cases hlocate'.symm.trans hfound
    · simp only [connect, hchannel, hplace', hfault]

/-- Entering a second time gives what it gave the first time: the same fault, or the same channel
with the tables that have been noted. -/
theorem enter_again (ht : target.Retraceable) (s : Storage) (handle : Nat) (inMemory : Bool) :
    ∃ known, (s.enter handle target inMemory).2.enter handle target inMemory =
      ((s.enter handle target inMemory).1.map fun c => { c with known },
        (s.enter handle target inMemory).2) := by
  rcases henter : s.enter handle target inMemory with ⟨fault | c, s'⟩
  · refine ⟨[], ?_⟩
    dsimp only [Except.map]
    rw [enter_eq] at henter ⊢
    rcases hconnect : s.connect handle target inMemory with ⟨fault' | c, s₀⟩
    · rw [hconnect] at henter
      cases henter
      rw [connect_again_of_error ht hconnect]
    · -- The channel is there now, and what is wrong with its file has not changed.
      rw [hconnect] at henter
      dsimp only at henter
      obtain ⟨-, known, hchannel, hknown⟩ := channel?_connect hconnect
      unfold ready at henter
      split at henter
      · rename_i path hpath
        split at henter
        · rename_i fault'' hrefresh
          cases henter
          rw [connect_of_channel hchannel]
          dsimp only
          rw [ready_file (c := { c with known }) hpath, Channel.refresh_known, hrefresh]
          · rfl
          · intro hfrozen _
            rcases hknown with rfl | ⟨hempty, rfl⟩
            · rfl
            · have hread : s'.read c = s'.tree.dataAt path := by
                simp only [read, hfrozen, hpath]
              rw [hempty, hread, FileTree.isLost_stores]
        · cases henter
      · cases henter
  · obtain ⟨known, hstands⟩ := stands_of_enter henter
    exact ⟨known, hstands.enter target inMemory⟩

/-! ## Writing -/

/-- What it takes to write through a channel: its data are not frozen, and to a file it writes by a
log or by a journal for which there is room. -/
structure Accepts (s : Storage) (c : Channel) : Prop where
  thawed : c.frozen = none
  file : ∀ path, c.place = .file path →
    path ≠ [] ∧ (c.logging = true ∨ s.tree.canJournal path = true)

/-- What is written to a log is seen, and the channel goes on standing. -/
theorem Stands.write_log {path : Path} (h : s.Stands handle c) (hf : c.frozen = none)
    (hplace : c.place = .file path) (hpath : path ≠ []) (hlog : c.logging = true)
    (data : Database) :
    ∃ s', s.write c data = .ok s' ∧ s'.read c = data ∧
      s'.Stands handle { c with known := data.stores } := by
  let s₁ : Storage := { s with tree := s.tree.writeLog path data }
  have hpending : s₁.tree.pending? path = some data := by
    simp only [s₁, FileTree.pending?, FileTree.get?_writeLog_log hpath]
  have hread : s₁.read c = data := by
    simp only [read, hf, hplace, FileTree.dataAt, hpending]
  refine ⟨s₁.noteTables c, write_of_logging hplace hlog data, hread, ?_⟩
  rw [← hread]
  refine stands_noteTables (contains_of_channel? h.channel) ?_
  intro path' hpath' others
  have hsame : path' = path := Place.file.inj (hpath'.symm.trans hplace)
  subst hsame
  exact Channel.refresh_log hf hlog hpending _ _

/-- What is written by way of a journal is seen, the channel goes on standing, and there is room for
the next journal. -/
theorem Stands.write_file {path : Path} (h : s.Stands handle c) (hf : c.frozen = none)
    (hplace : c.place = .file path) (hlog : c.logging = false)
    (hcan : s.tree.canJournal path = true) (data : Database) :
    ∃ s', s.write c data = .ok s' ∧ s'.read c = data ∧
      s'.Stands handle { c with known := data.stores } ∧ s'.tree.canJournal path = true := by
  let s₁ : Storage := { s with tree := s.tree.overwrite path false data }
  obtain ⟨houter, hpending, -⟩ :=
    Channel.refresh_overwrite (h.settled path hplace []) hf hlog data [] []
  have hpath := Path.ne_nil_of_isOuter houter
  have hget : (s.tree.overwrite path false data).get? path.log = s.tree.get? path.log :=
    FileTree.get?_overwrite_of_ne (Path.log_ne hpath) (Path.log_ne_journal hpath hpath)
  have hread : s₁.read c = data := by
    simp only [s₁, read, hf, hplace, FileTree.dataAt, FileTree.pending?_congr hget, hpending,
      FileTree.database?, FileTree.get?_overwrite_self houter, Content.database?]
  have hwrite : s.write c data = .ok (s₁.noteTables c) := by
    simp only [Storage.write, hplace, hlog, hcan, if_true, s₁]
    rfl
  refine ⟨s₁.noteTables c, hwrite, hread, ?_, ?_⟩
  · rw [← hread]
    refine stands_noteTables (contains_of_channel? h.channel) ?_
    intro path' hpath' others
    have hsame : path' = path := Place.file.inj (hpath'.symm.trans hplace)
    subst hsame
    exact (Channel.refresh_overwrite (h.settled path' hplace others) hf hlog data _ _).2.2
  · have hfits : path.journal.fits = true := by
      simp only [FileTree.canJournal, Bool.and_eq_true] at hcan
      exact hcan.1
    simp only [noteTables_tree, s₁, FileTree.canJournal, FileTree.isDirectory,
      FileTree.get?_overwrite_journal houter, hfits]
    rfl

/-- What is written to memory is seen, and the channel goes on standing. -/
theorem Stands.write_memory (h : s.Stands handle c) (hf : c.frozen = none)
    (hplace : ∀ path, c.place ≠ .file path) (data : Database) :
    ∃ s', s.write c data = .ok s' ∧ s'.read c = data ∧
      s'.Stands handle { c with known := data.stores } := by
  let s₁ : Storage := { s with memories := (c.place, data) :: s.memories.filter (·.1 != c.place) }
  have hread : s₁.read c = data := by
    simp [s₁, read, hf]
  have hwrite : s.write c data = .ok (s₁.noteTables c) := by
    unfold Storage.write
    split
    · rename_i path hpath
      exact absurd hpath (hplace path)
    · rfl
  refine ⟨s₁.noteTables c, hwrite, hread, ?_⟩
  rw [← hread]
  exact stands_noteTables (contains_of_channel? h.channel) fun path hpath =>
    absurd hpath (hplace path)

/-- Data written through a channel that stands are seen through it, it goes on standing, and more
can be written. -/
theorem Stands.write (h : s.Stands handle c) (ha : s.Accepts c) (data : Database) :
    ∃ s', s.write c data = .ok s' ∧ s'.read c = data ∧
      s'.Stands handle { c with known := data.stores } ∧
      s'.Accepts { c with known := data.stores } := by
  by_cases hfile : ∃ path, c.place = .file path
  · obtain ⟨path, hplace⟩ := hfile
    obtain ⟨hpath, hroom⟩ := ha.file path hplace
    cases hlog : c.logging with
    | true =>
      obtain ⟨s', hwrite, hread, hstands⟩ := h.write_log ha.thawed hplace hpath hlog data
      refine ⟨s', hwrite, hread, by simpa only [hlog] using hstands, ha.thawed, ?_⟩
      intro path' hpath'
      have hsame : path' = path := Place.file.inj (hpath'.symm.trans hplace)
      exact ⟨hsame ▸ hpath, .inl rfl⟩
    | false =>
      have hcan : s.tree.canJournal path = true := by
        rcases hroom with hlog' | hcan
        · rw [hlog] at hlog'
          cases hlog'
        · exact hcan
      obtain ⟨s', hwrite, hread, hstands, hcan'⟩ := h.write_file ha.thawed hplace hlog hcan data
      refine ⟨s', hwrite, hread, by simpa only [hlog] using hstands, ha.thawed, ?_⟩
      intro path' hpath'
      have hsame : path' = path := Place.file.inj (hpath'.symm.trans hplace)
      exact ⟨hsame ▸ hpath, .inr (hsame ▸ hcan')⟩
  · have hplace : ∀ path, c.place ≠ .file path := fun path hpath => hfile ⟨path, hpath⟩
    obtain ⟨s', hwrite, hread, hstands⟩ := h.write_memory ha.thawed hplace data
    exact ⟨s', hwrite, hread, hstands, ha.thawed, fun path hpath => absurd hpath (hplace path)⟩

end Storage

end DeliveryStore
