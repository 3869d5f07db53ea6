import DeliveryStore.Proofs.Storage.Apart

/-!
# The data of a database that is entered

Opening a database in a file, looking it up, keeping a log for it and closing that log leave its data
as they are, whatever else there is in storage; or the file is blank, and there are no data after.
Main statements:

* `FileTree.dataAt_tidy`, `FileTree.dataAt_closeLog` — what tidying up and closing a log come to;
* `Storage.dataAt_enter`, `Storage.dataAt_disconnect` — what entering and letting a handle go come to.
-/

namespace DeliveryStore

namespace FileTree

variable {t t' : FileTree} {p : Path}

/-- Data are those that stand at a place and in the log beside it. -/
theorem dataAt_congr (h : t'.get? p = t.get? p)
    (hl : pendingIn (t'.get? p.log) = pendingIn (t.get? p.log)) : t'.dataAt p = t.dataAt p := by
  rw [dataAt_eq, dataAt_eq, h, hl]

/-- There are no data in what is blank. -/
theorem dataIn_of_isBlank (h : t.isBlank p = true) : dataIn (t.get? p) = {} := by
  refine dataIn_of_ne fun ahead data hdata => ?_
  rw [isBlank, hdata] at h
  cases h

/-- Opening a file leaves its data, of which there are none in a file that is made. -/
theorem dataAt_openFile {target : Target} (h : t.openFile p target = .ok t') :
    t'.dataAt p = t.dataAt p := by
  rcases openFile_cases h with rfl | ⟨hnone, -, rfl⟩
  · rfl
  have hp : p.isOuter = false := isOuter_of_get? (t := t) (by simp [hnone])
  rw [dataAt_eq, dataAt_eq, get?_put_self hp, get?_put_of_ne (Path.log_ne (Path.ne_nil_of_isOuter hp)),
    hnone]
  rfl

/-- Tidying up leaves the data, or takes the log of a blank file away. -/
theorem dataAt_tidy (t : FileTree) (p : Path) :
    (t.tidy p).dataAt p = t.dataAt p ∨ (t.tidy p).dataAt p = {} := by
  by_cases hp : p = []
  · rw [hp, tidy_nil]
    exact .inl rfl
  have hlog := get?_tidy (t := t) hp (Path.isOuter_log hp)
  by_cases hdrops : t.dropsLog p = true
  · right
    have hblank : t.isBlank p = true := by
      by_contra hsolid
      rw [dropsLog_of_isBlank (by simpa using hsolid)] at hdrops
      cases hdrops
    rw [if_pos (.inr ⟨hdrops, rfl⟩)] at hlog
    rw [dataAt_eq, hlog, get?_tidy_self, dataIn_of_isBlank hblank]
    rfl
  · left
    rw [if_neg] at hlog
    · exact dataAt_congr (get?_tidy_self t p) (congrArg pendingIn hlog)
    · rintro (⟨-, hjournal⟩ | ⟨hdrops', -⟩)
      · exact Path.log_ne_journal hp hp hjournal
      · exact hdrops hdrops'

/-- Opening a log leaves the data. -/
theorem dataAt_openLog (hp : p ≠ []) {indexed : Bool} (h : t.openLog p indexed = .ok t') :
    t'.dataAt p = t.dataAt p := by
  refine dataAt_congr (get?_openLog h (Path.log_ne hp).symm (Path.index_ne hp).symm) ?_
  have hindex : ∀ u : FileTree, (u.put p.index (.file .index)).get? p.log = u.get? p.log :=
    fun u => get?_put_of_ne (Path.log_ne_index hp hp)
  obtain ⟨u, hu, ht'⟩ := openLog_cases h
  have hlog : t'.get? p.log = u.get? p.log := by
    rcases ht' with rfl | rfl
    · rfl
    · exact hindex u
  rw [hlog]
  rcases hu with ⟨rfl, -⟩ | ⟨rfl, hpending, -⟩
  · rfl
  · rw [get?_put_self (Path.isOuter_log hp)]
    exact hpending.symm

/-- Writing the data of a database into its file leaves them. -/
theorem dataAt_overwrite (t : FileTree) (p : Path) (ahead : Bool) :
    (t.overwrite p ahead (t.dataAt p)).dataAt p = t.dataAt p := by
  by_cases hp : p.isOuter = true
  · -- What leads out of the files stays what it is.
    have hself : (t.overwrite p ahead (t.dataAt p)).get? p = t.get? p := by
      rw [get?_of_isOuter hp, get?_of_isOuter hp]
    by_cases hnil : p = []
    · subst hnil
      exact dataAt_congr hself (congrArg pendingIn hself)
    · exact dataAt_congr hself (congrArg pendingIn
        (get?_overwrite_of_ne (Path.log_ne hnil) (Path.log_ne_journal hnil hnil)))
  have houter : p.isOuter = false := by simpa using hp
  have hne := Path.ne_nil_of_isOuter houter
  rw [dataAt_eq (t.overwrite p ahead (t.dataAt p)), get?_overwrite_self houter,
    get?_overwrite_of_ne (Path.log_ne hne) (Path.log_ne_journal hne hne)]
  cases hpending : pendingIn (t.get? p.log) with
  | none => rfl
  | some data =>
    rw [dataAt_eq, hpending]
    rfl

/-- Closing the log of a database leaves its data. -/
theorem dataAt_closeLog (hp : p ≠ []) (hfile : t.pending? p ≠ none → p.isOuter = false) :
    (t.closeLog p).dataAt p = t.dataAt p := by
  have hfound : (t.closeLog p).get? p.log = none := by
    unfold closeLog
    dsimp only
    rw [get?_removeFile_of_ne (Path.log_ne_index hp hp), get?_remove (Path.isOuter_log hp),
      if_pos rfl]
  have hpending : t.pending? p = pendingIn (t.get? p.log) := rfl
  rw [dataAt_eq, dataAt_eq, hfound]
  unfold closeLog
  dsimp only
  rw [get?_removeFile_of_ne (Path.index_ne hp).symm, get?_remove_of_ne (Path.log_ne hp).symm]
  rw [hpending] at hfile ⊢
  cases hdata : pendingIn (t.get? p.log) with
  | none => rfl
  | some data =>
    rw [get?_put_self (hfile (by simp [hdata]))]
    rfl

end FileTree

namespace Channel

variable {c c' : Channel} {t t' : FileTree} {others : List Channel} {p : Path}

/-- Looking a database up leaves its data, or there are none after. -/
theorem dataAt_refresh (h : c.refresh t others p = .ok (c', t')) :
    t'.dataAt p = t.dataAt p ∨ t'.dataAt p = {} := by
  rcases refresh_cases h with ⟨-, rfl, -⟩ | ⟨-, -, hopen, -⟩ | ⟨-, rfl, -⟩
  · exact .inl rfl
  · have hp : p ≠ [] := by
      rintro rfl
      exact FileTree.get?_log_of_openLog hopen (FileTree.get?_of_isOuter rfl)
    rw [FileTree.dataAt_openLog hp hopen]
    exact t.dataAt_tidy p
  · exact t.dataAt_tidy p

/-- The first look at a database leaves its data, or there are none after. -/
theorem dataAt_settle {immutable log : Bool} (h : c.settle t others p immutable log = .ok (c', t')) :
    t'.dataAt p = t.dataAt p ∨ t'.dataAt p = {} := by
  rcases settle_cases h with ⟨-, rfl, -⟩ | ⟨-, hrefresh⟩ | ⟨-, c₁, t₁, hrefresh, -, -, -, -, rfl⟩
  · exact .inl rfl
  · exact dataAt_refresh hrefresh
  · rw [FileTree.dataAt_overwrite]
    exact dataAt_refresh hrefresh

end Channel

namespace Storage

variable {s s' : Storage} {handle : Nat} {target : Target} {c : Channel} {inMemory : Bool} {p : Path}

/-- Connecting to a database in a file leaves its data, or there are none after. -/
theorem dataAt_connect (h : s.connect handle target inMemory = (.ok c, s'))
    (hc : c.place = .file p) :
    s'.tree.dataAt p = s.tree.dataAt p ∨ s'.tree.dataAt p = {} := by
  rcases connect_cases h with ⟨-, rfl⟩ | ⟨_, -, -, rfl⟩ | ⟨place, -, hopened⟩
  · exact .inl rfl
  · exact .inl rfl
  rcases openChannel_ok hopened with ⟨path, tree, tree', rfl, hfile, hsettle, rfl⟩ | ⟨-, -, rfl⟩
  · have hplace : c.place = .file path := by
      rw [Channel.settle_frame hsettle]
      exact place_new _ _ _
    obtain rfl : path = p := Place.file.inj (hplace.symm.trans hc)
    rw [noteTables_tree, ← FileTree.dataAt_openFile hfile]
    exact Channel.dataAt_settle hsettle
  · exact .inl rfl

/-- Entering a database in a file leaves its data, or there are none after. -/
theorem dataAt_enter (h : s.enter handle target inMemory = (.ok c, s')) (hc : c.place = .file p) :
    s'.tree.dataAt p = s.tree.dataAt p ∨ s'.tree.dataAt p = {} := by
  rw [enter_eq] at h
  rcases hconnect : s.connect handle target inMemory with ⟨fault | d, s₁⟩
  · rw [hconnect] at h
    cases h
  rw [hconnect] at h
  dsimp only at h
  unfold ready at h
  split at h
  swap
  · cases h
    exact dataAt_connect hconnect hc
  rename_i path hpath
  split at h
  · cases h
  rename_i c' tree hrefresh
  cases h
  have hplace : c.place = .file path := by
    rw [Channel.refresh_frame hrefresh]
    exact hpath
  obtain rfl : path = p := Place.file.inj (hplace.symm.trans hc)
  rw [noteTables_tree]
  rcases Channel.dataAt_refresh hrefresh with hsame | hnone
  · dsimp only
    rw [hsame]
    exact dataAt_connect hconnect hpath
  · exact .inr hnone

/-- Letting a handle go leaves the data of its database. -/
theorem dataAt_disconnect (hc : s.channel? handle = some c) (hplace : c.place = .file p)
    (hsolid : s.tree.IsSolid p) : (s.disconnect handle).tree.dataAt p = s.tree.dataAt p := by
  have hne := hsolid.ne_nil
  obtain ⟨content, hfile, -⟩ := hsolid
  have hclose : (s.tree.closeLog p).dataAt p = s.tree.dataAt p :=
    FileTree.dataAt_closeLog hne fun _ => FileTree.isOuter_of_file hfile
  unfold disconnect
  rw [hc]
  dsimp only
  split
  swap
  · rfl
  unfold leaveLog
  rw [hplace]
  dsimp only
  split
  · exact hclose
  · rfl

end Storage

end DeliveryStore
