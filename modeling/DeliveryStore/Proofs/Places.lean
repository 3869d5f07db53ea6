import DeliveryStore.Proofs.Elsewhere
import DeliveryStore.Proofs.Mailbox
import DeliveryStore.Proofs.PlainFiles
import DeliveryStore.Proofs.Storage.Entering
import Mathlib.Data.List.Pairwise

/-!
# Places and the handles at them

What one handle does leaves the rows at all places but its own, as long as somebody else keeps a
database that is only in memory. Main statements:

* `Channel.Moves` — what one handle does to the channels, by which all others stay where they are;
* `Storage.Turns` — what becomes of the rows at each place, one law for each way of using storage;
* `Handle.spares_of_failed`, `Handle.spares_of_reading`, `Handle.turns_of_purge` — the same of calls.
-/

namespace DeliveryStore

/-! ## Rows of a database -/

/-- The rows of a database, table by table. A table that is missing has none. -/
structure Rows where
  keyPackages : List KeyPackage
  messages : List Message
  users : List User

/-- The rows of a database. -/
def Database.rows (d : Database) : Rows where
  keyPackages := d.keyPackages.getD []
  messages := d.messages.getD []
  users := d.users.getD []

/-- All rows but the messages for a recipient. -/
def Rows.without (r : Rows) (recipient : String) : Rows :=
  { r with messages := r.messages.filter (·.recipient.text != recipient) }

/-- What a purge makes of data are all rows but the messages for its recipient. -/
theorem Database.rows_of_purge {d : Database} {name : Name} {commit : Commit}
    (h : d.carryOut false (.mailbox (.purge name)) = .ok commit) :
    commit.database.rows = d.rows.without name.text := by
  obtain ⟨rows, e, htable, -, happly, rfl⟩ := onTable_map_ok h
  cases happly
  have hfilter : rows.filter (·.recipient != name) = rows.filter (·.recipient.text != name.text) := by
    refine List.filter_congr fun m _ => ?_
    rw [Bool.eq_iff_iff, bne_iff_ne, bne_iff_ne, ne_eq, ne_eq, Name.ext_iff]
  simp only [Database.rows, Rows.without, htable, Option.getD_some, hfilter]

/-- Making tables adds no row and takes none away. -/
theorem Database.rows_foldl_create (stores : List Store) (d : Database) :
    (stores.foldl create d).rows = d.rows := by
  induction stores generalizing d with
  | nil => rfl
  | cons store rest ih =>
    rw [List.foldl_cons, ih]
    cases store <;> rfl

/-! ## Who is at a place -/

namespace Channel

/-- A handle has a channel to a place. -/
def Sits (channels : List Channel) (handle : Nat) (place : Place) : Prop :=
  ∃ c ∈ channels, handle ∈ c.members ∧ c.place = place

/-- Channels that all have numbers of their own. -/
def Distinct (channels : List Channel) : Prop := channels.Pairwise (·.number ≠ ·.number)

/-- What one handle does to the channels when it connects, enters or writes: nothing, or a channel is
put in place of what it was, or the handle opens one. -/
inductive Moves (handle : Nat) (channels : List Channel) : List Channel → Prop where
  | stays : Moves handle channels channels
  | replaces {c d : Channel} (hd : d ∈ channels) (hn : c.number = d.number)
      (hp : c.place = d.place) (hm : ∀ m ∈ d.members, m ∈ c.members) :
      Moves handle channels (c :: channels.filter (·.number != c.number))
  | opens {c : Channel} (hnone : ∀ d ∈ channels, handle ∉ d.members) (hn : c.number = handle)
      (hm : handle ∈ c.members) : Moves handle channels (c :: channels.filter (·.number != c.number))

/-- Channels with numbers of their own, of which the one with the number of a handle, if there is one,
is in use by the handle. -/
structure Numbered (handle : Nat) (channels : List Channel) : Prop where
  distinct : Distinct channels
  own : ∀ c ∈ channels, c.number = handle → handle ∈ c.members

variable {handle m : Nat} {place : Place} {channels channels' : List Channel} {c d : Channel}

theorem Distinct.eq_of_number (h : Distinct channels) (hc : c ∈ channels) (hd : d ∈ channels)
    (hn : c.number = d.number) : c = d := by
  have hsymm : Std.Symm fun c d : Channel => c.number ≠ d.number := ⟨fun _ _ => Ne.symm⟩
  by_contra hne
  exact List.Pairwise.forall h hc hd hne hn

/-- Channels keep numbers of their own when one of them is put in place of what it was. -/
theorem Distinct.put (h : Distinct channels) (c : Channel) :
    Distinct (c :: channels.filter (·.number != c.number)) := by
  refine List.pairwise_cons.2 ⟨fun d hd => ?_, List.Pairwise.filter _ h⟩
  have hne : d.number ≠ c.number := by simpa using (List.mem_filter.1 hd).2
  exact hne.symm

/-- A handle stays where it is when a channel is put in place of what it was, if it stays there in
case that was its channel. -/
theorem Sits.put (h : Sits channels m place)
    (hc : ∀ d ∈ channels, d.number = c.number → m ∈ d.members → m ∈ c.members ∧ c.place = d.place) :
    Sits (c :: channels.filter (·.number != c.number)) m place := by
  obtain ⟨d, hd, hm, rfl⟩ := h
  by_cases hn : d.number = c.number
  · obtain ⟨hm', hplace⟩ := hc d hd hn hm
    exact ⟨c, List.mem_cons_self, hm', hplace⟩
  · exact ⟨d, List.mem_cons_of_mem _ (List.mem_filter.2 ⟨hd, by simpa using hn⟩), hm, rfl⟩

theorem Moves.distinct (h : Moves handle channels channels') (hs : Distinct channels) :
    Distinct channels' := by
  cases h with
  | stays => exact hs
  | replaces | opens => exact hs.put _

/-- Where one handle moves, the channel with its number is in use by it as before. -/
theorem Moves.numbered (h : Moves handle channels channels') (hs : Numbered handle channels) :
    Numbered handle channels' := by
  refine ⟨h.distinct hs.distinct, ?_⟩
  cases h with
  | stays => exact hs.own
  | replaces hd hn _ hm =>
    intro e he hown
    rcases List.mem_cons.1 he with rfl | hmem
    · exact hm _ (hs.own _ hd (hn ▸ hown))
    · exact hs.own e (List.mem_filter.1 hmem).1 hown
  | opens _ _ hm =>
    intro e he hown
    rcases List.mem_cons.1 he with rfl | hmem
    · exact hm
    · exact hs.own e (List.mem_filter.1 hmem).1 hown

/-- Where one handle moves, all others stay where they are. -/
theorem Moves.sits (h : Moves handle channels channels') (hs : Numbered handle channels)
    (hsits : Sits channels m place) : Sits channels' m place := by
  cases h with
  | stays => exact hsits
  | replaces hd hn hp hm =>
    refine hsits.put fun e he hsame hmem => ?_
    obtain rfl := hs.distinct.eq_of_number he hd (hsame.trans hn)
    exact ⟨hm _ hmem, hp⟩
  | opens hnone hn _ =>
    refine hsits.put fun e he hsame _ => ?_
    exact absurd (hs.own e he (hsame.trans hn)) (hnone e he)

end Channel

namespace Storage

variable {P : Path → Prop} {s s' : Storage} {handle : Nat} {target : Target} {c : Channel}
  {inMemory : Bool}

/-- Connecting moves nobody but the handle that connects. -/
theorem moves_connect (s : Storage) (handle : Nat) (target : Target) (inMemory : Bool) :
    Channel.Moves handle s.channels (s.connect handle target inMemory).2.channels := by
  cases hchannel : s.channel? handle with
  | some c =>
    rw [connect_of_channel hchannel]
    exact .stays
  | none =>
    have hnone : ∀ d ∈ s.channels, handle ∉ d.members := fun d hd hm =>
      List.find?_eq_none.1 hchannel d hd (List.contains_iff_mem.2 hm)
    rcases hconnect : s.connect handle target inMemory with ⟨fault | c, s'⟩
    · rcases connect_error hconnect with rfl | ⟨_, _, -, -, rfl⟩ <;> exact .stays
    rcases connect_cases hconnect with ⟨-, rfl⟩ | ⟨d, hd, rfl, rfl⟩ | ⟨place, -, hopen⟩
    · exact .stays
    · exact .replaces hd rfl rfl fun m hm => List.mem_cons_of_mem _ hm
    · have hmem : handle ∈ c.members := List.contains_iff_mem.1 (channel?_connect hconnect).1
      rcases openChannel_ok hopen with ⟨_, _, _, -, -, hsettle, rfl⟩ | ⟨-, rfl, rfl⟩
      · have hnumber : c.number = handle := by
          rw [Channel.settle_frame hsettle]
          exact number_new _ _ _
        exact .opens (c := { c with known := _ }) hnone hnumber hmem
      · exact .opens (c := { Channel.new _ _ _ with known := _ }) hnone (number_new _ _ _) hmem

/-- What entering does once there is a channel moves nobody. -/
theorem moves_ready (handle : Nat) (hc : ∃ m known, s.channel? m = some { c with known }) :
    Channel.Moves handle s.channels (s.ready c).2.channels := by
  obtain ⟨m, known, hchannel⟩ := hc
  have hmem := mem_of_channel? hchannel
  unfold ready
  split
  · split
    · exact .stays
    · rename_i c' tree hrefresh
      have hframe := Channel.refresh_frame hrefresh
      have hnumber : c'.number = c.number := by rw [hframe]
      have hplace : c'.place = c.place := by rw [hframe]
      have hmembers : c'.members = c.members := by rw [hframe]
      exact .replaces (c := { c' with known := _ }) hmem hnumber hplace fun m hm => hmembers ▸ hm
  · exact .stays

/-- Writing moves nobody. -/
theorem moves_write (handle : Nat) {m : Nat} (hc : s.channel? m = some c) {data : Database}
    (hw : s.write c data = .ok s') : Channel.Moves handle s.channels s'.channels := by
  have hnoted : ∀ known, Channel.Moves handle s.channels
      ({ c with known } :: s.channels.filter (·.number != c.number)) := fun known =>
    .replaces (c := { c with known }) (mem_of_channel? hc) rfl rfl fun _ hm => hm
  unfold Storage.write at hw
  split at hw
  · split at hw
    · cases hw
      exact hnoted _
    split at hw
    · cases hw
      exact hnoted _
    · cases hw
  · cases hw
    exact hnoted _

/-- Leaving a log leaves the channels and what is in memory. -/
theorem leaveLog_frame (s : Storage) (c : Channel) :
    (s.leaveLog c).channels = s.channels ∧ (s.leaveLog c).memories = s.memories := by
  unfold leaveLog
  split
  · split <;> exact ⟨rfl, rfl⟩
  · exact ⟨rfl, rfl⟩

/-- Letting a handle go leaves all channels numbers of their own. -/
theorem distinct_disconnect (hs : Channel.Distinct s.channels) (handle : Nat) :
    Channel.Distinct (s.disconnect handle).channels := by
  unfold disconnect
  split
  · exact hs
  dsimp only
  split
  · rw [(leaveLog_frame _ _).1]
    exact List.Pairwise.filter _ hs
  · exact hs.put _

/-- Whatever is done with storage, its channels have numbers of their own. -/
theorem invariant_distinct : Invariant (fun _ => True) fun _ s => Channel.Distinct s.channels where
  mono _ hs := hs
  connect inMemory _ _ hs := (moves_connect _ _ _ inMemory).distinct hs
  ready hc hs := (moves_ready 0 hc).distinct hs
  write hstands _ _ hw hs := (moves_write 0 hstands.channel hw).distinct hs
  disconnect handle hs := distinct_disconnect hs handle
  directories _ hs := hs

/-- Letting a handle go moves nobody else. -/
theorem sits_disconnect (hs : Channel.Distinct s.channels) {m : Nat} {place : Place}
    (hm : m ≠ handle) (hsits : Channel.Sits s.channels m place) :
    Channel.Sits (s.disconnect handle).channels m place := by
  unfold disconnect
  split
  · exact hsits
  rename_i c hchannel
  have hmem := mem_of_channel? hchannel
  dsimp only
  split
  · rename_i hempty
    rw [(leaveLog_frame _ _).1]
    obtain ⟨d, hd, hmd, rfl⟩ := hsits
    refine ⟨d, List.mem_filter.2 ⟨hd, ?_⟩, hmd, rfl⟩
    -- The channel that goes has no handle but the one that is let go.
    have hne : d.number ≠ c.number := by
      intro hn
      obtain rfl := hs.eq_of_number hd hmem hn
      have hrest : m ∈ d.members.filter (· != handle) :=
        List.mem_filter.2 ⟨hmd, by simpa using hm⟩
      rw [List.isEmpty_iff.1 hempty] at hrest
      cases hrest
    simpa using hne
  · refine hsits.put ?_
    intro d hd hn hmd
    obtain rfl := hs.eq_of_number hd hmem hn
    exact ⟨List.mem_filter.2 ⟨hmd, by simpa using hm⟩, rfl⟩

/-! ## Data at places -/

/-- The data that there are at a place. -/
def dataOf (s : Storage) : Place → Database
  | .file path => s.tree.dataAt path
  | place => (s.memories.lookup place).getD {}

/-- A place whose data are there without a handle: in a file, or in memory for another handle. -/
def Holds (s : Storage) (handle : Nat) (place : Place) : Prop :=
  (∃ path, place = .file path) ∨ ∃ m, m ≠ handle ∧ Channel.Sits s.channels m place

theorem dataOf_memory {place : Place} (h : ∀ path, place ≠ .file path) :
    s.dataOf place = (s.memories.lookup place).getD {} := by
  cases place with
  | file path => exact absurd rfl (h path)
  | store name => rfl
  | shared system name => rfl
  | own number => rfl

theorem dataOf_of_same (ht : s.tree.Same s'.tree) (hm : s'.memories = s.memories) (place : Place) :
    s'.dataOf place = s.dataOf place := by
  by_cases hfile : ∃ path, place = .file path
  · obtain ⟨path, rfl⟩ := hfile
    exact ht.dataAt_eq path
  · have hmemory : ∀ path, place ≠ .file path := fun path hpath => hfile ⟨path, hpath⟩
    rw [dataOf_memory hmemory, dataOf_memory hmemory, hm]

/-- A channel that is not frozen sees the data of its place. -/
theorem read_eq_dataOf (hf : c.frozen = none) : s.read c = s.dataOf c.place := by
  unfold read dataOf
  rw [hf]
  cases c.place <;> rfl

/-- Storage that is in order, with its channels in order for a handle. -/
structure Orderly (P : Path → Prop) (handle : Nat) (s : Storage) : Prop where
  sound : s.Sound
  kept : s.Kept P
  numbered : Channel.Numbered handle s.channels

/-- What a handle does to storage: the others stay where they are, and at every place whose data are
there without the handle the rows become others in some way. -/
structure Turns (handle : Nat) (g : Place → Rows → Rows) (s s' : Storage) : Prop where
  sits : ∀ {m place}, m ≠ handle → Channel.Sits s.channels m place →
    Channel.Sits s'.channels m place
  rows : ∀ {place}, s.Holds handle place → (s'.dataOf place).rows = g place (s.dataOf place).rows

/-- What a handle does to storage that changes no rows. -/
abbrev Spares (handle : Nat) (s s' : Storage) : Prop := s.Turns handle (fun _ r => r) s'

theorem spares_self (handle : Nat) (s : Storage) : s.Spares handle s :=
  ⟨fun _ hm => hm, fun _ => rfl⟩

theorem Turns.trans {g g' : Place → Rows → Rows} {s'' : Storage} (h : s.Turns handle g s')
    (h' : s'.Turns handle g' s'') : s.Turns handle (fun place r => g' place (g place r)) s'' := by
  refine ⟨fun hm hsits => h'.sits hm (h.sits hm hsits), fun hplace => ?_⟩
  have hholds : s'.Holds handle _ := hplace.imp id fun ⟨m, hm, hsits⟩ => ⟨m, hm, h.sits hm hsits⟩
  rw [h'.rows hholds, h.rows hplace]

theorem Readied.spares (h : s.Readied P s')
    (hsits : ∀ {m place}, Channel.Sits s.channels m place → Channel.Sits s'.channels m place) :
    s.Spares handle s' :=
  ⟨fun _ => hsits, fun _ => by rw [dataOf_of_same h.tree h.memories]⟩

/-- What is written through a channel that stands becomes the data at its place, and the others stay
as they are. -/
theorem Orderly.write (hP : Path.Apart P) (hs : s.Orderly P handle) {m : Nat}
    (hstands : s.Stands m c) (hr : c.readOnly = false) {data : Database}
    (hd : (s.read c).Becomes data) {f : Rows → Rows} (hf : data.rows = f (s.read c).rows)
    (hw : s.write c data = .ok s') :
    s'.Orderly P handle ∧
      s.Turns handle (fun place r => if place = c.place then f r else r) s' := by
  have hmoves := moves_write handle hstands.channel hw
  obtain ⟨hsound, hkept⟩ := (invariant_kept hP).write (n := 0) hstands hr hd hw ⟨hs.sound, hs.kept⟩
  refine ⟨⟨hsound, hkept, hmoves.numbered hs.numbered⟩, fun _ => hmoves.sits hs.numbered, ?_⟩
  intro place _
  have haccepts := hstands.accepts hs.sound hr hw
  by_cases hplace : place = c.place
  · rw [if_pos hplace, hplace]
    obtain ⟨s'', hw', hread, -⟩ := hstands.write haccepts data
    obtain rfl : s'' = s' := Except.ok.inj (hw'.symm.trans hw)
    rw [← read_eq_dataOf haccepts.thawed, ← read_eq_dataOf haccepts.thawed, hread, hf]
  · rw [if_neg hplace]
    by_cases hfile : ∃ path, place = .file path
    · obtain ⟨path, rfl⟩ := hfile
      have hc := hs.kept.channels c (mem_of_channel? hstands.channel)
      exact congrArg Database.rows (hs.kept.dataAt_write hP hc haccepts hw (Ne.symm hplace))
    · -- Another database in memory is found as before.
      have hmemory : ∀ path, place ≠ .file path := fun path hpath => hfile ⟨path, hpath⟩
      have hlookup : s'.memories.lookup place = s.memories.lookup place := by
        unfold Storage.write at hw
        split at hw
        · split at hw
          · cases hw
            rfl
          split at hw
          · cases hw
            rfl
          · cases hw
        · cases hw
          rw [noteTables_memories, List.lookup_cons, beq_false_of_ne hplace]
          exact FileTree.lookup_filter_ne hplace s.memories
      rw [dataOf_memory hmemory, dataOf_memory hmemory, hlookup]

end Storage

/-! ## Letting a handle go -/

namespace FileTree

variable {P : Path → Prop} {t : FileTree} {p : Path}

/-- Moving what is pending into the database leaves the data of all databases. -/
theorem Kept.dataAt_closeLog (hP : Path.Apart P) (h : t.Kept P) (hp : P p) (hne : p ≠ [])
    (q : Path) : (t.closeLog p).dataAt q = t.dataAt q := by
  have hlog : ¬P p.log := fun hq => (hP _ p hq hp).1 rfl
  have hindex : ¬P p.index := fun hq => (hP _ p hq hp).2.1 rfl
  obtain ⟨moved, hmoved, hclose⟩ : ∃ moved : FileTree,
      (t.pending? p = none ∧ moved = t ∨
        ∃ data, t.pending? p = some data ∧ moved = t.put p (.file (.database true data))) ∧
      t.closeLog p = (moved.remove p.log).removeFile p.index := by
    unfold closeLog
    cases t.pending? p with
    | none => exact ⟨t, .inl ⟨rfl, rfl⟩, rfl⟩
    | some data => exact ⟨_, .inr ⟨data, rfl, rfl⟩, rfl⟩
  have hspared : ∀ r, r ≠ p.log → r ≠ p.index → (t.closeLog p).get? r = moved.get? r := by
    intro r hr hr'
    rw [hclose, get?_removeFile_of_ne hr', get?_remove_of_ne hr]
  have hnolog : (t.closeLog p).get? p.log = none := by
    rw [hclose, get?_removeFile_of_ne (Path.log_ne_index hne hne),
      get?_remove (Path.isOuter_log hne), if_pos rfl]
  have hnoindex : dataIn ((t.closeLog p).get? p.index) = {} := by
    rw [hclose]
    rcases get?_removeFile_self (moved.remove p.log) (Path.isOuter_index hne) with hget | hget
    all_goals
      rw [hget]
      rfl
  by_cases hq : q = p
  · subst hq
    refine FileTree.dataAt_closeLog hne fun hpending => ?_
    obtain ⟨data, hdata⟩ := Option.ne_none_iff_exists'.1 hpending
    obtain ⟨-, c, hc, -⟩ := h.isSolid_of_pending hdata
    exact isOuter_of_file hc
  by_cases hempty : q = []
  · rw [hempty, dataAt_eq, dataAt_eq, get?_of_isOuter rfl, get?_of_isOuter rfl, get?_of_isOuter rfl,
      get?_of_isOuter rfl]
  have hpending : pendingIn ((t.closeLog p).get? q.log) = pendingIn (t.get? q.log) := by
    rw [hspared q.log (fun heq => hq (Path.beside_inj hempty hne heq)) (Path.log_ne_index hempty hne)]
    rcases hmoved with ⟨-, rfl⟩ | ⟨data, -, rfl⟩
    · rfl
    rcases get?_put_or t p (.file (.database true data)) q.log with hget | ⟨heq, hget⟩
    · rw [hget]
    · -- The database stands where another one would have its log, and is none.
      rw [hget, heq]
      unfold pendingIn
      split
      · rename_i hfound
        cases hfound
      split
      · rename_i hfound
        exact absurd hfound (h.not_log hP hp)
      · rfl
  have hdata : dataIn ((t.closeLog p).get? q) = dataIn (t.get? q) := by
    by_cases hqlog : q = p.log
    · rw [hqlog, hnolog, h.dataIn_beside hlog]
      rfl
    by_cases hqindex : q = p.index
    · rw [hqindex, hnoindex, h.dataIn_beside hindex]
    rw [hspared q hqlog hqindex]
    rcases hmoved with ⟨-, rfl⟩ | ⟨data, -, rfl⟩
    · rfl
    · rw [get?_put_of_ne hq]
  rw [dataAt_eq, dataAt_eq, hpending, hdata]

end FileTree

namespace Storage

variable {P : Path → Prop} {s : Storage} {handle : Nat}

/-- Letting a handle go changes no rows but those in memory that nobody else keeps. -/
theorem Orderly.disconnect (hP : Path.Apart P) (hs : s.Orderly P handle) :
    s.Spares handle (s.disconnect handle) := by
  have hsits : ∀ {m place}, m ≠ handle → Channel.Sits s.channels m place →
      Channel.Sits (s.disconnect handle).channels m place := sits_disconnect hs.numbered.distinct
  refine ⟨hsits, fun {place} hplace => congrArg Database.rows ?_⟩
  unfold Storage.disconnect at hsits ⊢
  cases hchannel : s.channel? handle with
  | none => rfl
  | some c =>
    have hmem := mem_of_channel? hchannel
    rw [hchannel] at hsits
    dsimp only at hsits ⊢
    split
    swap
    · rfl
    rename_i hempty
    rw [if_pos hempty, (leaveLog_frame _ _).1] at hsits
    by_cases hfile : ∃ path, place = .file path
    · obtain ⟨path, rfl⟩ := hfile
      unfold leaveLog
      split
      · rename_i path' hpath
        split
        · rename_i hleaves
          have hlogging : c.logging = true := by
            simp only [Bool.and_eq_true] at hleaves
            exact hleaves.1.1
          exact hs.kept.tree.dataAt_closeLog hP ((hs.kept.channels c hmem).place path' hpath)
            ((hs.sound c hmem).logging path' hpath hlogging) path
        · rfl
      · rfl
    · -- Somebody else is at the place, so that what is in memory there stays.
      obtain ⟨m, hm, hmsits⟩ := hplace.resolve_left hfile
      obtain ⟨d, hd, -, hplace'⟩ := hsits hm hmsits
      have hmemory : ∀ path, place ≠ .file path := fun path hpath => hfile ⟨path, hpath⟩
      have hkept : ((s.others c.number).any (·.place == place)) = true :=
        List.any_eq_true.2 ⟨d, hd, by simpa using hplace'⟩
      rw [dataOf_memory hmemory, dataOf_memory hmemory, (leaveLog_frame _ _).2]
      exact congrArg (fun found : Option Database => found.getD {})
        (FileTree.lookup_filter_key (f := fun q => (s.others c.number).any (·.place == q)) hkept _)

end Storage

/-! ## Operations of a handle -/

/-- A purge that passes its check is one of the name that it was given, or stops at the name. -/
theorem Call.check_purge_text {now : Moment} {name : String} {r : Request}
    (h : Call.check now (.mailbox (.purge (.text name))) = .ok r) :
    (∃ recipient : Name, recipient.text = name ∧ r = .mailbox (.purge recipient)) ∨
      ∃ request : Mailbox.Request, request.isBound = false ∧ r = .mailbox request := by
  cases hchecked : Mailbox.Call.check now (.purge (.text name)) with
  | error f =>
    rw [check, hchecked] at h
    cases h
  | ok request =>
    rw [check, hchecked] at h
    cases h
    cases hbound : request.isBound with
    | false => exact .inr ⟨request, hbound, rfl⟩
    | true =>
      obtain ⟨recipient, rfl, hname⟩ := Mailbox.check_purge hchecked hbound
      exact .inl ⟨recipient, (Name.of?_eq_some_iff.1 hname).symm, rfl⟩

/-- No database carries out what stops at an argument. -/
theorem Database.carryOut_of_not_isBound {request : Mailbox.Request}
    (h : request.isBound = false) (d : Database) (readOnly : Bool) :
    ∃ obstacle, d.carryOut readOnly (.mailbox request) = .error obstacle := by
  cases hc : d.carryOut readOnly (.mailbox request) with
  | error obstacle => exact ⟨obstacle, rfl⟩
  | ok commit =>
    obtain ⟨rows, e, -, -, happly, -⟩ := onTable_map_ok hc
    rw [Mailbox.Request.isBound_of_apply happly] at h
    cases h

namespace Handle

variable {P : Path → Prop} {h : Handle} {s : Storage} {n : Nat}

/-- Entering leaves storage in order and changes no rows. -/
theorem spares_enter (hP : Path.Apart P) (hs : s.Orderly P h.number)
    (hh : h.Admitted (Target.Within P) n) :
    (h.enter s).2.Orderly P h.number ∧ s.Spares h.number (h.enter s).2 := by
  obtain ⟨hnumbered, hsits⟩ : Channel.Numbered h.number (h.enter s).2.channels ∧
      ∀ {m place}, Channel.Sits s.channels m place →
        Channel.Sits (h.enter s).2.channels m place := by
    unfold enter
    cases h.target with
    | error refusal => exact ⟨hs.numbered, id⟩
    | ok target =>
      have hconnect := s.moves_connect h.number target h.inMemory
      have hnumbered := hconnect.numbered hs.numbered
      dsimp only
      rw [Storage.enter_eq]
      rcases hc : s.connect h.number target h.inMemory with ⟨fault | c, s₁⟩
      · rw [hc] at hconnect hnumbered
        exact ⟨hnumbered, hconnect.sits hs.numbered⟩
      · rw [hc] at hconnect hnumbered
        obtain ⟨-, known, hchannel, -⟩ := Storage.channel?_connect hc
        have hready := Storage.moves_ready h.number ⟨h.number, known, hchannel⟩
        exact ⟨hready.numbered hnumbered,
          fun hsits => hready.sits hnumbered (hconnect.sits hs.numbered hsits)⟩
  obtain ⟨hsound, hkept⟩ := (Storage.invariant_kept hP).enter hh ⟨hs.sound, hs.kept⟩
  exact ⟨⟨hsound, hkept, hnumbered⟩, (h.enter_readies hP hs.kept hh).spares hsits⟩

/-- Making tables changes no rows. -/
theorem spares_initialise (hP : Path.Apart P) (hs : s.Orderly P h.number)
    (hh : h.Admitted (Target.Within P) n) :
    (h.initialise s).storage.Orderly P h.number ∧ s.Spares h.number (h.initialise s).storage := by
  obtain ⟨hentered, hspares⟩ := spares_enter hP hs hh
  rcases h.initialise_cases s with hstorage | ⟨c, s₁, he, hr, hw, -⟩
  · rw [hstorage]
    exact ⟨hentered, hspares⟩
  rw [he] at hentered hspares
  obtain ⟨-, known, hstands⟩ := stands_of_enter he
  have hrows := (s₁.read c).rows_foldl_create h.role.stores
  obtain ⟨hwritten, hturns⟩ := hentered.write hP hstands hr (.furnished _) (f := id) hrows hw
  simp only [id, ite_self] at hturns
  exact ⟨hwritten, hspares.trans hturns⟩

/-- A call that fails changes no rows. -/
theorem spares_of_failed (hP : Path.Apart P) (hs : s.Orderly P h.number)
    (hh : h.Admitted (Target.Within P) n) {now : Moment} {c : Call} {f : Failure}
    (hf : (h.call now c s).outcome = .error f) :
    (h.call now c s).storage.Orderly P h.number ∧ s.Spares h.number (h.call now c s).storage := by
  rcases (h.call_storage now c s).2 f hf with hstorage | hstorage
  · rw [hstorage]
    exact ⟨hs, s.spares_self h.number⟩
  · rw [hstorage]
    exact spares_enter hP hs hh

/-- A call that only reads changes no rows. -/
theorem spares_of_reading (hP : Path.Apart P) (hs : s.Orderly P h.number)
    (hh : h.Admitted (Target.Within P) n) {now : Moment} {c : Call}
    (hc : ∀ r, c.check now = .ok r → r.writes = false) :
    (h.call now c s).storage.Orderly P h.number ∧ s.Spares h.number (h.call now c s).storage := by
  unfold call
  split
  swap
  · exact ⟨hs, s.spares_self h.number⟩
  cases hr : c.check now with
  | error f => exact ⟨hs, s.spares_self h.number⟩
  | ok r =>
    dsimp only
    rcases h.perform_cases c.operation r s with ⟨hstorage, -⟩ | ⟨_, _, _, -, hwrites, -⟩
    · rw [hstorage]
      exact spares_enter hP hs hh
    · rw [hc r hr] at hwrites
      cases hwrites

/-- A purge that does not fail has written what it comes to. -/
theorem written_of_purge {now : Moment} {name : String} {reply : Reply Row}
    (ho : (h.call now (.mailbox (.purge (.text name))) s).outcome = .ok reply) :
    ∃ (recipient : Name) (c : Channel) (s₁ : Storage) (commit : Commit), recipient.text = name ∧
      h.enter s = (.ok c, s₁) ∧ c.readOnly = false ∧
      Call.check now (.mailbox (.purge (.text name))) = .ok (.mailbox (.purge recipient)) ∧
      (s₁.read c).carryOut false (.mailbox (.purge recipient)) = .ok commit ∧
      s₁.write c commit.database =
        .ok (h.call now (.mailbox (.purge (.text name))) s).storage := by
  unfold call at ho ⊢
  split at ho
  swap
  · cases ho
  rename_i hoffers
  rw [if_pos hoffers]
  cases hr : Call.check now (.mailbox (.purge (.text name))) with
  | error f =>
    rw [hr] at ho
    cases ho
  | ok r =>
    rw [hr] at ho
    dsimp only at ho ⊢
    obtain ⟨recipient, rfl, rfl⟩ | ⟨request, hbound, rfl⟩ := Call.check_purge_text hr
    swap
    · obtain ⟨f, hf⟩ := h.perform_error (s := s) _ (Database.carryOut_of_not_isBound hbound)
      cases ho.symm.trans hf
    rcases h.perform_cases (Call.mailbox (.purge (.text recipient.text))).operation
        (.mailbox (.purge recipient)) s with ⟨-, hfails⟩ | ⟨c, s₁, commit, he, -, hw, hc, hwrite, -⟩
    · -- A purge that leaves storage as entering left it has failed.
      obtain ⟨f, hf⟩ := hfails rfl
      cases ho.symm.trans hf
    · exact ⟨recipient, c, s₁, commit, rfl, he, hw, rfl, hc, hwrite⟩

/-- A purge that does not fail takes away the messages for its recipient where the handle is, and
nothing else. -/
theorem turns_of_purge (hP : Path.Apart P) (hs : s.Orderly P h.number)
    (hh : h.Admitted (Target.Within P) n) {now : Moment} {name : String} {reply : Reply Row}
    (ho : (h.call now (.mailbox (.purge (.text name))) s).outcome = .ok reply) :
    ∃ c, (h.enter s).1 = .ok c ∧
      (h.call now (.mailbox (.purge (.text name))) s).storage.Orderly P h.number ∧
      s.Turns h.number (fun place r => if place = c.place then r.without name else r)
        (h.call now (.mailbox (.purge (.text name))) s).storage := by
  obtain ⟨recipient, c, s₁, commit, rfl, he, hw, hr, hc, hwrite⟩ := written_of_purge ho
  obtain ⟨hentered, hspares⟩ := spares_enter hP hs hh
  rw [he] at hentered hspares
  obtain ⟨-, known, hstands⟩ := stands_of_enter he
  obtain ⟨hwritten, hturns⟩ := hentered.write hP hstands hw (.called hr hc)
    (f := (·.without recipient.text)) (Database.rows_of_purge hc) hwrite
  exact ⟨c, congrArg Prod.fst he, hwritten, hspares.trans hturns⟩

end Handle

end DeliveryStore
