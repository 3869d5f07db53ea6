import DeliveryStore.Proofs.Mailbox
import DeliveryStore.Proofs.Packages

/-!
# Stored data

Whatever has been done in a session, the data that it has stored came about by calls that passed their
checks. A property of data that these keep is a property of all data that any handle will ever see.
Main statements:

* `Storage.invariant_all` — a property that no change of the data takes away is kept by every way of
  using storage;
* `Session.Reachable.seen` — so that it holds of whatever data a handle sees;
* `Database.WellKept.becomes` — in tables that are changed by calls alone keys differ, and every row
  has a time in the calendar.
-/

namespace DeliveryStore

/-! ## Data in files -/

/-- A content whose data have a property, if it has any data. -/
def Content.All (W : Database → Prop) : Content → Prop
  | database _ data => W data
  | log (some data) => W data
  | _ => True

/-- A node whose data have a property, if it has any data. -/
def Node.All (W : Database → Prop) : Node → Prop
  | directory => True
  | file c => c.All W

/-- Files all of whose data have a property. -/
def FileTree.All (W : Database → Prop) (t : FileTree) : Prop := ∀ e ∈ t.nodes, e.2.All W

namespace FileTree

variable {W : Database → Prop} {t t' : FileTree} {p : Path} {n : Node}

theorem All.put (h : t.All W) (hn : n.All W) : (t.put p n).All W := by
  intro e he
  rcases List.mem_cons.1 he with rfl | hmem
  · exact hn
  · exact h e (List.mem_filter.1 hmem).1

theorem All.remove (h : t.All W) : (t.remove p).All W :=
  fun e he => h e (List.mem_filter.1 he).1

theorem All.get? (h : t.All W) (hn : t.get? p = some n) : n.All W := by
  unfold FileTree.get? at hn
  split at hn
  · cases hn
    exact trivial
  · obtain ⟨before, after, hnodes, -⟩ := List.lookup_eq_some_iff.1 hn
    exact h (p, n) (by rw [hnodes]; simp)

/-- What is pending in a log has the property. -/
theorem All.pending? (h : t.All W) {data : Database} (hd : t.pending? p = some data) : W data := by
  unfold FileTree.pending? at hd
  split at hd
  · rename_i pending hlog
    subst hd
    exact h.get? hlog
  · cases hd

/-- What is read from a file has the property, if no data have it. -/
theorem All.database? (h : t.All W) (h₀ : W {}) {ahead : Bool} {data : Database}
    (hd : t.database? p = .ok (ahead, data)) : W data := by
  unfold FileTree.database? at hd
  split at hd
  · cases hd
  · cases hd
  rename_i c hc
  have hall := h.get? hc
  cases c with
  | text s =>
    simp only [Content.database?] at hd
    split at hd
    · cases hd
      exact h₀
    · cases hd
  | database writeAhead stored =>
    cases hd
    exact hall
  | log pending =>
    cases pending with
    | none =>
      cases hd
      exact h₀
    | some stored => cases hd
  | index => cases hd

theorem All.dataAt (h : t.All W) (h₀ : W {}) (p : Path) : W (t.dataAt p) := by
  unfold FileTree.dataAt
  cases hpending : t.pending? p with
  | some data => exact h.pending? hpending
  | none =>
    rcases hd : t.database? p with fault | ⟨ahead, data⟩
    · exact h₀
    · exact h.database? h₀ hd

theorem All.tidy (h : t.All W) : (t.tidy p).All W := by
  by_cases hp : p = []
  · rw [hp, FileTree.tidy_nil]
    exact h
  have hjournal : (if t.dropsJournal p then t.remove p.journal else t).All W := by
    split
    · exact h.remove
    · exact h
  rw [FileTree.tidy_eq hp]
  dsimp only
  split
  · exact hjournal.remove
  · exact hjournal

theorem All.openLog (h : t.All W) {indexed : Bool} (ho : t.openLog p indexed = .ok t') :
    t'.All W := by
  obtain ⟨u, hu, hindex⟩ := openLog_cases ho
  have hall : u.All W := by
    rcases hu with ⟨rfl, -⟩ | ⟨rfl, -⟩
    · exact h
    · exact h.put trivial
  rcases hindex with rfl | rfl
  · exact hall
  · exact hall.put trivial

theorem All.overwrite (h : t.All W) {data : Database} (hd : W data) (ahead : Bool) :
    (t.overwrite p ahead data).All W :=
  (h.put (n := .file (.database ahead data)) hd).remove

theorem All.writeLog (h : t.All W) {data : Database} (p : Path) (hd : W data) :
    (t.writeLog p data).All W := by
  have hlogged := h.put (p := p.log) (n := .file (.log (some data))) hd
  unfold FileTree.writeLog
  dsimp only
  split
  · exact hlogged.put (n := .file (.database true data)) hd
  · exact hlogged

theorem All.removeFile (h : t.All W) : (t.removeFile p).All W := by
  unfold FileTree.removeFile
  split
  · exact h
  · exact h.remove

theorem All.closeLog (h : t.All W) : (t.closeLog p).All W := by
  unfold FileTree.closeLog
  cases hpending : t.pending? p with
  | none => exact h.remove.removeFile
  | some data =>
    have hmoved : (t.put p (.file (.database true data))).All W := h.put (h.pending? hpending)
    exact hmoved.remove.removeFile

theorem All.openFile (h : t.All W) {target : Target} (ho : t.openFile p target = .ok t') :
    t'.All W := by
  rcases openFile_cases ho with rfl | ⟨-, -, rfl⟩
  · exact h
  · exact h.put (n := .file (.text "")) trivial

theorem All.makeAlong (h : t.All W) (done : List FileName) (made : Bool) (names : List FileName) :
    (t.makeAlong done made names).2.All W := by
  induction names generalizing t done made with
  | nil => exact h
  | cons name rest ih =>
    unfold FileTree.makeAlong
    dsimp only
    split
    · exact h
    split
    · exact ih h _ _
    · exact h
    · exact ih (h.put (n := .directory) trivial) _ _

theorem All.makeDirectories (h : t.All W) (names : List FileName) :
    (t.makeDirectories names).2.All W := by
  unfold FileTree.makeDirectories
  split
  · exact h
  · exact h.makeAlong _ _ _

theorem All.writeText (h : t.All W) {names : List FileName} {text : String}
    (hw : t.writeText names text = .ok t') : t'.All W := by
  unfold FileTree.writeText at hw
  cases hwalk : t.walk names with
  | error fault =>
    rw [hwalk] at hw
    cases hw
  | ok place =>
    simp only [hwalk, bind, Except.bind, pure, Except.pure] at hw
    have hput : (t.put place (.file (.text text))).All W := h.put trivial
    split at hw
    · cases hw
    · cases hw
      exact hput
    · split at hw
      · cases hw
        exact hput
      · cases hw

end FileTree

/-! ## Data in storage -/

/-- A channel that is frozen, if it is, on data that have a property. -/
def Channel.All (W : Database → Prop) (c : Channel) : Prop := ∀ data, c.frozen = some data → W data

/-- Storage all of whose data have a property: those in files, those in memory, and those that a
channel found before it was frozen. -/
structure Storage.All (W : Database → Prop) (s : Storage) : Prop where
  tree : s.tree.All W
  memories : ∀ m ∈ s.memories, W m.2
  channels : ∀ c ∈ s.channels, c.All W

namespace Channel

variable {W : Database → Prop} {c c' : Channel} {t t' : FileTree} {others : List Channel} {p : Path}

theorem All.refresh (hc : c.All W) (ht : t.All W) (hr : c.refresh t others p = .ok (c', t')) :
    c'.All W ∧ t'.All W := by
  rcases refresh_cases hr with ⟨rfl, rfl, -⟩ | ⟨rfl, -, hopen, -⟩ | ⟨rfl, rfl, -⟩
  · exact ⟨hc, ht⟩
  · exact ⟨hc, ht.tidy.openLog hopen⟩
  · exact ⟨hc, ht.tidy⟩

theorem All.settle (h₀ : W {}) (hc : c.All W) (ht : t.All W) {immutable log : Bool}
    (hs : c.settle t others p immutable log = .ok (c', t')) : c'.All W ∧ t'.All W := by
  rcases settle_cases hs with ⟨-, rfl, ahead, data, hdata, rfl⟩ | ⟨-, hr⟩ |
    ⟨-, c₁, t₁, hr, -, -, -, rfl, rfl⟩
  · refine ⟨?_, ht⟩
    intro found hfound
    cases hfound
    exact ht.database? h₀ hdata
  · exact hc.refresh ht hr
  · obtain ⟨hc₁, ht₁⟩ := hc.refresh ht hr
    exact ⟨hc₁, ht₁.overwrite (ht₁.dataAt h₀ p) true⟩

theorem all_new (W : Database → Prop) (handle : Nat) (place : Place) (target : Target) :
    (Channel.new handle place target).All W := by
  intro data hdata
  rw [Storage.frozen_new] at hdata
  cases hdata

end Channel

namespace Storage

variable {W : Database → Prop} {s s' : Storage} {handle : Nat} {c : Channel}

theorem All.withTree (hs : s.All W) {tree : FileTree} (ht : tree.All W) :
    Storage.All W { s with tree } :=
  ⟨ht, hs.memories, hs.channels⟩

theorem All.putChannel (hs : s.All W) (hc : c.All W) : (s.putChannel c).All W := by
  refine ⟨hs.tree, hs.memories, ?_⟩
  intro d hd
  rcases List.mem_cons.1 hd with rfl | hmem
  · exact hc
  · exact hs.channels d (List.mem_filter.1 hmem).1

theorem All.noteTables (hs : s.All W) (hc : c.All W) : (s.noteTables c).All W :=
  hs.putChannel hc

/-- What a channel sees has the property. -/
theorem All.read (hs : s.All W) (h₀ : W {}) (hc : c.All W) : W (s.read c) := by
  unfold Storage.read
  split
  · rename_i data hfrozen
    exact hc data hfrozen
  · exact hs.tree.dataAt h₀ _
  · rename_i place
    cases hlookup : s.memories.lookup c.place with
    | none => exact h₀
    | some data =>
      obtain ⟨before, after, hmemories, -⟩ := List.lookup_eq_some_iff.1 hlookup
      exact hs.memories (c.place, data) (by rw [hmemories]; simp)

/-- A property that holds where there are no data, and that no change of the data takes away, is kept
by every way of using storage. -/
theorem invariant_all (h₀ : W {}) (hW : ∀ {d d' : Database}, W d → d.Becomes d' → W d') :
    Invariant (fun _ => True) fun _ => Storage.All W where
  mono _ hs := hs
  connect := by
    intro n s target handle inMemory _ _ hs
    rcases hconnect : s.connect handle target inMemory with ⟨fault | c, s'⟩
    · rcases connect_error hconnect with rfl | ⟨path, tree, -, hopen, rfl⟩
      · exact hs
      · exact hs.withTree (hs.tree.openFile hopen)
    rcases connect_cases hconnect with ⟨-, rfl⟩ | ⟨d, hd, rfl, rfl⟩ | ⟨place, hplace, hopen⟩
    · exact hs
    · exact hs.putChannel (hs.channels d hd)
    · have hnew := Channel.all_new W handle place target
      rcases openChannel_ok hopen with ⟨path, tree, tree', rfl, hfile, hsettle, rfl⟩ | ⟨-, rfl, rfl⟩
      · obtain ⟨hc, ht⟩ := hnew.settle h₀ (hs.tree.openFile hfile) hsettle
        exact (hs.withTree ht).noteTables hc
      · exact hs.noteTables hnew
  ready := by
    rintro n s c ⟨handle, known, hchannel⟩ hs
    have hknown := hs.channels _ (mem_of_channel? hchannel)
    have hc : c.All W := hknown
    unfold ready
    split
    · split
      · exact hs
      · rename_i c' tree hrefresh
        obtain ⟨hc', ht⟩ := hc.refresh hs.tree hrefresh
        exact (hs.withTree ht).noteTables hc'
    · exact hs
  write := by
    intro n s s' handle c data hstands _ hbecomes hwrite hs
    have hc := hs.channels c (mem_of_channel? hstands.channel)
    have hdata : W data := hW (hs.read h₀ hc) hbecomes
    unfold Storage.write at hwrite
    split at hwrite
    · split at hwrite
      · cases hwrite
        exact (hs.withTree (hs.tree.writeLog _ hdata)).noteTables hc
      split at hwrite
      · cases hwrite
        exact (hs.withTree (hs.tree.overwrite hdata false)).noteTables hc
      · cases hwrite
    · cases hwrite
      refine All.noteTables (s := { s with memories := _ }) ⟨hs.tree, ?_, hs.channels⟩ hc
      intro m hm
      rcases List.mem_cons.1 hm with rfl | hmem
      · exact hdata
      · exact hs.memories m (List.mem_filter.1 hmem).1
  disconnect := by
    intro n s handle hs
    unfold Storage.disconnect
    split
    · exact hs
    rename_i c hchannel
    have hc := hs.channels c (mem_of_channel? hchannel)
    dsimp only
    split
    · have hleft : Storage.All W { s with
          channels := s.others c.number
          memories := s.memories.filter fun m => (s.others c.number).any (·.place == m.1) } :=
        ⟨hs.tree, fun m hm => hs.memories m (List.mem_filter.1 hm).1,
          fun d hd => hs.channels d (List.mem_filter.1 hd).1⟩
      unfold leaveLog
      split
      · split
        · exact hleft.withTree hs.tree.closeLog
        · exact hleft
      · exact hleft
    · exact hs.putChannel hc
  directories names hs := hs.withTree (hs.tree.makeDirectories names)

end Storage

namespace Session

variable {W : Database → Prop} {s : Session} {h : Handle}

/-- All data of a reachable session have a property that holds where there are no data, and that no
change of the data takes away. -/
theorem Reachable.all (hs : s.Reachable) (h₀ : W {})
    (hW : ∀ {d d' : Database}, W d → d.Becomes d' → W d') : s.host.storage.All W := by
  have hbegin : Storage.All W {} := by
    refine ⟨?_, ?_, ?_⟩
    · intro e he
      cases he
    · intro m hm
      cases hm
    · intro c hc
      cases hc
  exact (hs.keeps (Storage.invariant_all h₀ hW) hbegin
    fun htree hs => hs.withTree (hs.tree.writeText htree)).storage

/-- Whatever data a handle sees in a reachable session, they have such a property. -/
theorem Reachable.seen (hs : s.Reachable) (h₀ : W {})
    (hW : ∀ {d d' : Database}, W d → d.Becomes d' → W d') {d : Database}
    (hd : (s.host.view h id).outcome = .ok d) : W d := by
  have hall := hs.all h₀ hW
  have hentered : (h.enter s.host.storage).2.All W :=
    (Storage.invariant_all h₀ hW).enter ⟨Nat.lt_succ_self _, fun _ _ => trivial⟩ hall
  rw [Host.view, Host.settle_outcome] at hd
  unfold Handle.view at hd
  rcases he : h.enter s.host.storage with ⟨refusal | c, storage⟩
  · rw [he] at hd
    cases hd
  · rw [he] at hd hentered
    cases hd
    obtain ⟨-, known, hstands⟩ := Handle.stands_of_enter he
    have hknown := hentered.channels _ (Storage.mem_of_channel? hstands.channel)
    have hc : c.All W := hknown
    exact hentered.read h₀ hc

end Session

/-! ## Tables that are well kept -/

namespace Table

variable {ρ κ : Type} {key : ρ → κ} {sound : ρ → Prop} {rows rows' new : List ρ}

/-- A table in which no two rows have one key, and every row is sound. -/
structure WellKept (key : ρ → κ) (sound : ρ → Prop) (rows : List ρ) : Prop where
  keys : (rows.map key).Nodup
  rows : ∀ r ∈ rows, sound r

theorem wellKept_nil : WellKept key sound [] :=
  ⟨List.nodup_nil, fun _ hr => absurd hr List.not_mem_nil⟩

theorem wellKept_singleton {r : ρ} (h : sound r) : WellKept key sound [r] := by
  refine ⟨by simp, ?_⟩
  intro r' hr'
  rwa [List.mem_singleton.1 hr']

theorem WellKept.filter (h : WellKept key sound rows) (keep : ρ → Bool) :
    WellKept key sound (rows.filter keep) :=
  ⟨h.keys.sublist (List.filter_sublist.map _), fun r hr => h.rows r (List.mem_filter.1 hr).1⟩

/-- New rows under keys of their own leave a table well kept, since keys in use are refused. -/
theorem WellKept.insert [BEq κ] [LawfulBEq κ] {fits : ρ → Bool} (h : WellKept key sound rows)
    (hn : WellKept key sound new) (hi : Table.insert key fits rows new = .ok rows') :
    WellKept key sound rows' := by
  obtain ⟨hfree, rfl⟩ := insert_eq_ok_iff.1 hi
  constructor
  · rw [List.map_append, List.nodup_append]
    refine ⟨h.keys, hn.keys, ?_⟩
    intro a ha b hb heq
    obtain ⟨r, hr, rfl⟩ := List.mem_map.1 ha
    obtain ⟨r', hr', rfl⟩ := List.mem_map.1 hb
    have hholds : holds key rows (key r') = true := List.any_eq_true.2 ⟨r, hr, beq_iff_eq.2 heq⟩
    rw [(hfree r' hr').1] at hholds
    cases hholds
  · intro r hr
    rcases List.mem_append.1 hr with hold | hnew
    · exact h.rows r hold
    · exact hn.rows r hnew

end Table

/-- A text that is the stored form of an instant. -/
def IsStamp (text : String) : Prop := ∃ i : Instant, i.stamp? = some text

/-- Data whose tables are well kept, each under its key. -/
structure Database.WellKept (d : Database) : Prop where
  keyPackages : ∀ rows, d.keyPackages = some rows →
    Table.WellKept KeyPackage.id (fun p => IsStamp p.createdAt) rows
  messages : ∀ rows, d.messages = some rows →
    Table.WellKept Mailbox.key (fun m => IsStamp m.createdAt) rows
  users : ∀ rows, d.users = some rows → Table.WellKept User.name (fun _ => True) rows

section Requests

variable {now : Moment}

/-- A call to the store of key packages that passes its checks leaves the table well kept. -/
theorem KeyPackages.wellKept_of_apply {c : Call} {r : Request} {rows : List KeyPackage}
    {e : Effect KeyPackage} (hc : c.check now = .ok r) (he : r.apply rows = .ok e)
    (h : Table.WellKept KeyPackage.id (fun p => IsStamp p.createdAt) rows) :
    Table.WellKept KeyPackage.id (fun p => IsStamp p.createdAt) e.rows := by
  have hbound := Request.isBound_of_apply he
  by_cases hw : r.writes = true
  swap
  · rwa [Request.apply_rows (by simpa using hw) he]
  cases c with
  | publish id client package createdAt =>
    obtain ⟨p, rfl, -, -, -, i, -, hstamp⟩ := check_publish hc hbound
    simp only [Request.apply] at he
    split at he
    · cases he
    rename_i hinsert
    cases he
    exact h.insert (Table.wellKept_singleton ⟨i, hstamp⟩) hinsert
  | remove id =>
    obtain ⟨key, rfl, -⟩ := check_remove hc
    cases he
    exact h.filter _
  | getById v | listByClient v | oldestForClient v | countByClient v =>
    have hreads := check_reading hc (by simp) (by simp)
    rw [hreads] at hw
    cases hw

/-- A call to the mailbox that passes its checks leaves the table well kept. -/
theorem Mailbox.wellKept_of_apply {c : Call} {r : Request} {rows : List Message}
    {e : Effect Message} (hc : c.check now = .ok r) (he : r.apply rows = .ok e)
    (h : Table.WellKept Mailbox.key (fun m => IsStamp m.createdAt) rows) :
    Table.WellKept Mailbox.key (fun m => IsStamp m.createdAt) e.rows := by
  have hbound := Request.isBound_of_apply he
  cases c with
  | enqueue id recipient content createdAt =>
    obtain ⟨m, rfl, -, -, -, i, -, hstamp⟩ := check_enqueue hc hbound
    simp only [Request.apply] at he
    split at he
    · cases he
    rename_i hinsert
    cases he
    exact h.insert (Table.wellKept_singleton ⟨i, hstamp⟩) hinsert
  | fanOut id recipients content createdAt =>
    obtain ⟨vid, names, vcontent, vcreated, rfl, -, -, ⟨given, -, hnames⟩, i, -, hstamp⟩ :=
      check_fanOut hc hbound
    simp only [Request.apply] at he
    split at he
    · cases he
    rename_i hinsert
    cases he
    have hnew : Table.WellKept Mailbox.key (fun m => IsStamp m.createdAt)
        (names.map fun n => ⟨vid, n, vcontent, vcreated⟩) := by
      constructor
      · -- The names were taken once each, so the new keys differ.
        have hdistinct : names.Nodup := hnames ▸ List.nodup_eraseDups given
        rw [List.map_map]
        refine List.pairwise_map.2 (hdistinct.imp ?_)
        intro a b hne heq
        exact hne (Prod.mk.inj heq).2
      · intro r hr
        obtain ⟨n, -, rfl⟩ := List.mem_map.1 hr
        exact ⟨i, hstamp⟩
    exact h.insert hnew hinsert
  | fetch recipient limit => rwa [Request.apply_rows (check_fetch hc) he]
  | pendingCount recipient => rwa [Request.apply_rows (check_pendingCount hc) he]
  | acknowledge id recipient =>
    obtain ⟨vid, name, rfl, -⟩ := check_acknowledge hc hbound
    cases he
    exact h.filter _
  | purge recipient =>
    obtain ⟨name, rfl, -⟩ := check_purge hc hbound
    cases he
    exact h.filter _

/-- A request to the store of identities leaves the table well kept. -/
theorem Identities.wellKept_of_apply {r : Request} {rows : List User} {e : Effect User}
    (he : r.apply rows = .ok e) (h : Table.WellKept User.name (fun _ => True) rows) :
    Table.WellKept User.name (fun _ => True) e.rows := by
  cases r with
  | create u =>
    simp only [Request.apply] at he
    split at he
    · cases he
    rename_i hinsert
    cases he
    exact h.insert (Table.wellKept_singleton trivial) hinsert
  | get name => rwa [Request.apply_rows rfl he]
  | delete name =>
    cases he
    exact h.filter _
  | unbound why => cases he

end Requests

namespace Database

variable {d d' : Database}

theorem wellKept_empty : ({} : Database).WellKept := by
  refine ⟨?_, ?_, ?_⟩
  all_goals
    intro rows hrows
    cases hrows

theorem WellKept.create (h : d.WellKept) (store : Store) : (d.create store).WellKept := by
  have hempty : ∀ {ρ κ : Type} {key : ρ → κ} {sound : ρ → Prop} {table : Option (List ρ)},
      (∀ rows, table = some rows → Table.WellKept key sound rows) →
        Table.WellKept key sound (table.getD []) := by
    intro ρ κ key sound table htable
    cases table with
    | none => exact Table.wellKept_nil
    | some rows => exact htable rows rfl
  cases store with
  | keyPackages =>
    refine ⟨?_, h.messages, h.users⟩
    intro rows hrows
    cases hrows
    exact hempty h.keyPackages
  | mailbox =>
    refine ⟨h.keyPackages, ?_, h.users⟩
    intro rows hrows
    cases hrows
    exact hempty h.messages
  | identities =>
    refine ⟨h.keyPackages, h.messages, ?_⟩
    intro rows hrows
    cases hrows
    exact hempty h.users

/-- Data that are well kept stay so, whatever call is carried out on them and whatever tables are
made. -/
theorem WellKept.becomes (h : d.WellKept) (hd : d.Becomes d') : d'.WellKept := by
  cases hd with
  | furnished stores =>
    induction stores generalizing d with
    | nil => exact h
    | cons first rest ih => exact ih (h.create first)
  | @called now c r commit hcheck hr =>
    cases c with
    | keyPackages c =>
      simp only [Call.check, Except.map] at hcheck
      split at hcheck
      · cases hcheck
      rename_i request hrequest
      cases hcheck
      obtain ⟨rows, e, htable, -, happly, rfl⟩ := onTable_map_ok hr
      refine ⟨?_, h.messages, h.users⟩
      intro rows' hrows'
      cases hrows'
      exact KeyPackages.wellKept_of_apply hrequest happly (h.keyPackages rows htable)
    | mailbox c =>
      simp only [Call.check, Except.map] at hcheck
      split at hcheck
      · cases hcheck
      rename_i request hrequest
      cases hcheck
      obtain ⟨rows, e, htable, -, happly, rfl⟩ := onTable_map_ok hr
      refine ⟨h.keyPackages, ?_, h.users⟩
      intro rows' hrows'
      cases hrows'
      exact Mailbox.wellKept_of_apply hrequest happly (h.messages rows htable)
    | identities c =>
      simp only [Call.check, Except.map] at hcheck
      split at hcheck
      · cases hcheck
      rename_i request hrequest
      cases hcheck
      obtain ⟨rows, e, htable, -, happly, rfl⟩ := onTable_map_ok hr
      refine ⟨h.keyPackages, h.messages, ?_⟩
      intro rows' hrows'
      cases hrows'
      exact Identities.wellKept_of_apply happly (h.users rows htable)

end Database

/-- Whatever data a handle sees in a reachable session, they are well kept. -/
theorem Session.Reachable.wellKept {s : Session} {h : Handle} (hs : s.Reachable) {d : Database}
    (hd : (s.host.view h id).outcome = .ok d) : d.WellKept :=
  hs.seen Database.wellKept_empty (fun hw hb => hw.becomes hb) hd

end DeliveryStore
