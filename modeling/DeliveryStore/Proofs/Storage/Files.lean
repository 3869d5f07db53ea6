import DeliveryStore.Storage.Channel
import Mathlib.Data.List.Basic
import Mathlib.Tactic.Common

/-!
# Laws of file trees

What putting a file, taking one away and looking for one have to do with each other, and how the
files beside a database — its log, the index of the log and its journal — are told apart from it and
from each other. Main statements:

* `get?_put`, `get?_remove` — what stands at a place after a change;
* `locate_eq`, `locateFrom_put`, `look_put` — what written paths lead to after a change;
* `Path.log_ne`, `Path.journal_ne`, `Path.log_ne_journal`, … — the side files are places of their own;
* `tidy_tidy`, `get?_tidy_self` — tidying up is done once, and spares the database.
-/

namespace DeliveryStore

/-- Texts with the same bytes are the same. -/
theorem FileName.ofText_inj {a b : String} (h : FileName.ofText a = FileName.ofText b) : a = b := by
  have hbytes : a.toList.utf8Encode = b.toList.utf8Encode := congrArg List.toByteArray h
  rw [String.utf8Encode_toList, String.utf8Encode_toList] at hbytes
  exact String.toByteArray_inj.1 hbytes

/-! ## Files beside a file -/

namespace Path

variable {p q : Path} {more other : String}

theorem beside_eq (hp : p ≠ []) :
    p.beside more = p.dropLast ++ [p.getLast hp ++ FileName.ofText more] := by
  simp [beside, List.getLast?_eq_some_getLast hp]

theorem beside_ne_nil (hp : p ≠ []) : p.beside more ≠ [] := by
  simp [beside_eq hp]

theorem getLast_beside (more : String) (hp : p ≠ []) :
    (p.beside more).getLast (beside_ne_nil hp) = p.getLast hp ++ FileName.ofText more := by
  simp [beside_eq hp]

theorem dropLast_beside (more : String) (hp : p ≠ []) :
    (p.beside more).dropLast = p.dropLast := by
  simp [beside_eq hp]

/-- A file beside another one is not that file. -/
theorem beside_ne (hp : p ≠ []) (hm : FileName.ofText more ≠ []) : p.beside more ≠ p := by
  intro h
  have hlast := getLast_beside more hp
  simp only [h] at hlast
  exact hm (List.self_eq_append_right.1 hlast)

/-- Files with one ending lie beside one file only. -/
theorem beside_inj (hp : p ≠ []) (hq : q ≠ []) (h : p.beside more = q.beside more) : p = q := by
  have hinit : p.dropLast = q.dropLast := by
    rw [← dropLast_beside more hp, ← dropLast_beside more hq, h]
  have hlast : p.getLast hp = q.getLast hq := by
    have hp' := getLast_beside more hp
    have hq' := getLast_beside more hq
    simp only [h] at hp'
    exact List.append_cancel_right (hp'.symm.trans hq')
  rw [← List.dropLast_append_getLast hp, ← List.dropLast_append_getLast hq, hinit, hlast]

/-- Two endings neither of which ends in the other make different files, whatever they are beside. -/
theorem beside_ne_beside (hp : p ≠ []) (hq : q ≠ [])
    (h : ∀ a b : List UInt8, a ++ FileName.ofText more ≠ b ++ FileName.ofText other) :
    p.beside more ≠ q.beside other := by
  intro heq
  have hp' := getLast_beside more hp
  simp only [heq, getLast_beside other hq] at hp'
  exact h _ _ hp'.symm

/-- A file whose name goes on beyond two bytes is neither the working directory nor above it. -/
theorem isOuter_beside (hp : p ≠ []) (hm : 2 < (FileName.ofText more).length) :
    (p.beside more).isOuter = false := by
  have hlong : 2 < (p.getLast hp ++ FileName.ofText more).length := by
    rw [List.length_append]
    omega
  have habove : p.getLast hp ++ FileName.ofText more ≠ above := by
    intro h
    simp [h, above] at hlong
  have htop : p.getLast hp ++ FileName.ofText more ≠ top := by
    intro h
    simp [h, top] at hlong
  simp [isOuter, beside_eq hp, habove, htop]

theorem ofText_wal : FileName.ofText "-wal" = [0x2d, 0x77, 0x61, 0x6c] := by decide +kernel

theorem ofText_shm : FileName.ofText "-shm" = [0x2d, 0x73, 0x68, 0x6d] := by decide +kernel

theorem ofText_journal :
    FileName.ofText "-journal" = [0x2d, 0x6a, 0x6f, 0x75, 0x72, 0x6e, 0x61, 0x6c] := by
  decide +kernel

/-- Rows of bytes that end differently differ. -/
private theorem append_ne_append {a b s t : List UInt8} {n : Nat} (hs : n < s.length)
    (ht : n < t.length) (h : s.reverse[n]? ≠ t.reverse[n]?) : a ++ s ≠ b ++ t := by
  intro heq
  have hrev : s.reverse ++ a.reverse = t.reverse ++ b.reverse := by
    rw [← List.reverse_append, ← List.reverse_append, heq]
  have hn : (s.reverse ++ a.reverse)[n]? = (t.reverse ++ b.reverse)[n]? := by rw [hrev]
  rw [List.getElem?_append_left (by simpa using hs),
    List.getElem?_append_left (by simpa using ht)] at hn
  exact h hn

theorem log_ne (hp : p ≠ []) : p.log ≠ p := beside_ne hp (by simp [ofText_wal])

theorem index_ne (hp : p ≠ []) : p.index ≠ p := beside_ne hp (by simp [ofText_shm])

theorem journal_ne (hp : p ≠ []) : p.journal ≠ p := beside_ne hp (by simp [ofText_journal])

theorem log_ne_index (hp : p ≠ []) (hq : q ≠ []) : p.log ≠ q.index := by
  refine beside_ne_beside hp hq fun a b => ?_
  rw [ofText_wal, ofText_shm]
  exact append_ne_append (n := 0) (by decide) (by decide) (by decide)

theorem log_ne_journal (hp : p ≠ []) (hq : q ≠ []) : p.log ≠ q.journal := by
  refine beside_ne_beside hp hq fun a b => ?_
  rw [ofText_wal, ofText_journal]
  exact append_ne_append (n := 2) (by decide) (by decide) (by decide)

theorem isOuter_log (hp : p ≠ []) : p.log.isOuter = false :=
  isOuter_beside hp (by simp [ofText_wal])

theorem isOuter_index (hp : p ≠ []) : p.index.isOuter = false :=
  isOuter_beside hp (by simp [ofText_shm])

theorem isOuter_journal (hp : p ≠ []) : p.journal.isOuter = false :=
  isOuter_beside hp (by simp [ofText_journal])

theorem ne_nil_of_isOuter (h : p.isOuter = false) : p ≠ [] := by
  rintro rfl
  simp [isOuter] at h

end Path

/-! ## Changes at one place -/

namespace FileTree

variable {t : FileTree} {p q : Path}

theorem get?_of_isOuter (h : q.isOuter = true) : t.get? q = some .directory := by
  simp [get?, h]

/-- What stands at a place after something has been put at another or at this one. -/
theorem get?_put {n : Node} (hq : q.isOuter = false) :
    (t.put p n).get? q = if q = p then some n else t.get? q := by
  by_cases h : q = p
  · subst h
    rw [if_pos rfl, get?_put_self hq]
  · rw [if_neg h, get?_put_of_ne h]

theorem lookup_filter_self (p : Path) (nodes : List (Path × Node)) :
    (nodes.filter (·.1 != p)).lookup p = none := by
  rw [List.lookup_eq_none_iff]
  intro e he
  have hne : e.1 ≠ p := by simpa using (List.mem_filter.1 he).2
  simpa using hne.symm

/-- What stands at a place after something has been taken away there or elsewhere. -/
theorem get?_remove (hq : q.isOuter = false) :
    (t.remove p).get? q = if q = p then none else t.get? q := by
  by_cases h : q = p
  · subst h
    rw [if_pos rfl]
    simp [get?, hq, remove, lookup_filter_self]
  · rw [if_neg h, get?_remove_of_ne h]

theorem get?_removeFile_of_ne (h : q ≠ p) : (t.removeFile p).get? q = t.get? q := by
  unfold removeFile
  split
  · rfl
  · exact get?_remove_of_ne h

/-- Where a file is taken away, there is a directory that has stayed, or nothing. -/
theorem get?_removeFile_self (t : FileTree) (hp : p.isOuter = false) :
    (t.removeFile p).get? p = some .directory ∨ (t.removeFile p).get? p = none := by
  unfold removeFile
  split
  · rename_i hdirectory
    exact .inl (by simpa [isDirectory] using hdirectory)
  · exact .inr (by rw [get?_remove hp, if_pos rfl])

/-- The working directory and all above it are directories, whatever the tree. -/
theorem isOuter_of_get? (h : t.get? p ≠ some .directory) : p.isOuter = false := by
  by_contra ho
  exact h (get?_of_isOuter (by simpa using ho))

theorem isOuter_of_file {c : Content} (h : t.get? p = some (.file c)) : p.isOuter = false :=
  isOuter_of_get? (t := t) (by simp [h])

theorem ne_nil_of_file {c : Content} (h : t.get? p = some (.file c)) : p ≠ [] :=
  Path.ne_nil_of_isOuter (isOuter_of_file h)

/-- What stands at a place after something has been put somewhere: what was there, or that. -/
theorem get?_put_or (t : FileTree) (q : Path) (n : Node) (r : Path) :
    (t.put q n).get? r = t.get? r ∨ r = q ∧ (t.put q n).get? r = some n := by
  by_cases ho : r.isOuter = true
  · left
    rw [get?_of_isOuter ho, get?_of_isOuter ho]
  · rw [get?_put (by simpa using ho)]
    by_cases hr : r = q
    · exact .inr ⟨hr, if_pos hr⟩
    · exact .inl (if_neg hr)

/-- What stands at a place after something has been taken away: what was there, or nothing. -/
theorem get?_remove_or (t : FileTree) (q r : Path) :
    (t.remove q).get? r = t.get? r ∨ r = q ∧ (t.remove q).get? r = none := by
  by_cases ho : r.isOuter = true
  · left
    rw [get?_of_isOuter ho, get?_of_isOuter ho]
  · rw [get?_remove (by simpa using ho)]
    by_cases hr : r = q
    · exact .inr ⟨hr, if_pos hr⟩
    · exact .inl (if_neg hr)

/-! ## Finding a place -/

/-- Names lead nowhere but to the place that they resolve to. -/
theorem locateFrom_eq {names : List FileName} (h : t.locateFrom p names = some q) :
    q = names.foldl Path.descend p := by
  induction names generalizing p with
  | nil =>
    cases h
    rfl
  | cons name rest ih =>
    unfold locateFrom at h
    split at h
    · cases h
    · exact ih h

theorem locate_eq {names : List FileName} (h : t.locate names = some p) :
    p = Path.resolve names := locateFrom_eq h

/-- Names lead to the same place as before if something is put at a place that they do not lead
through. -/
theorem locateFrom_put {names : List FileName} {n : Node} {r : Path}
    (h : t.locateFrom p names = some q)
    (hr : ∀ before name after, names = before ++ name :: after → name ≠ Path.above →
      before.foldl Path.descend p ≠ r) :
    (t.put r n).locateFrom p names = some q := by
  induction names generalizing p with
  | nil => exact h
  | cons name rest ih =>
    unfold locateFrom at h ⊢
    split at h
    · cases h
    rename_i hpass
    have hrest := ih h fun before other after heq =>
      hr (name :: before) other after (by rw [heq]; rfl)
    rw [if_neg ?_, hrest]
    rintro ⟨habove, hfile⟩
    have hne : p ≠ r := hr [] name rest rfl habove
    have hsame : (t.put r n).isFile p = t.isFile p := by
      simp only [isFile, get?_put_of_ne hne]
    rw [hsame] at hfile
    exact hpass ⟨habove, hfile⟩

/-- A walk that ends where something stands does not pass a place where nothing stands. -/
theorem walkFrom_put {whole : String} {names : List FileName} {n : Node} {r : Path}
    (h : t.walkFrom whole p names = .ok q) (hr : t.get? r = none) :
    (t.put r n).walkFrom whole p names = .ok q := by
  induction names generalizing p with
  | nil => exact h
  | cons name rest ih =>
    have hp : p ≠ r ∨ t.get? p = none := by
      by_cases heq : p = r
      · exact .inr (heq ▸ hr)
      · exact .inl heq
    unfold walkFrom at h ⊢
    -- The walk goes on from a directory only, so it has not come to the place.
    rcases hp with hne | hnone
    · rw [get?_put_of_ne hne]
      split at h
      · cases h
      · cases h
      split at h
      · cases h
      · rename_i hdir hlong
        rw [if_neg hlong]
        exact ih h
    · rw [hnone] at h
      cases h

/-- What is found by a written path is found again after something has been put where nothing
was. -/
theorem look_put {path : String} {n : Node} {r : Path} (h : t.look path ≠ none)
    (hr : t.get? r = none) : (t.put r n).look path ≠ none := by
  unfold look walk at h ⊢
  cases hw : t.walkFrom (Path.written (Path.namesOfText path)) [] (Path.namesOfText path) with
  | error fault => simp only [hw, ne_eq, not_true] at h
  | ok q =>
    simp only [hw] at h
    rw [walkFrom_put hw hr]
    have hne : q ≠ r := by
      rintro rfl
      exact h hr
    dsimp only
    rwa [get?_put_of_ne hne]

/-! ## What is seen of a database -/

/-- Whether the database at a place is in a file that is more than blank. -/
def IsSolid (t : FileTree) (p : Path) : Prop :=
  ∃ c : Content, t.get? p = some (.file c) ∧ c.isBlank = false

theorem isBlank_congr {t u : FileTree} (h : t.get? p = u.get? p) : t.isBlank p = u.isBlank p := by
  simp only [isBlank, h]

theorem pending?_congr {t u : FileTree} (h : t.get? p.log = u.get? p.log) :
    t.pending? p = u.pending? p := by
  simp only [pending?, h]

theorem hasLog_congr {t u : FileTree} (h : t.get? p.log = u.get? p.log) :
    t.hasLog p = u.hasLog p := by
  simp only [hasLog, h]

theorem IsSolid.isBlank (h : t.IsSolid p) : t.isBlank p = false := by
  obtain ⟨c, hc, hb⟩ := h
  simp only [FileTree.isBlank, hc, hb]

theorem IsSolid.ne_nil (h : t.IsSolid p) : p ≠ [] := by
  obtain ⟨c, hc, -⟩ := h
  exact ne_nil_of_file hc

theorem pending?_nil (t : FileTree) : t.pending? [] = none := by
  simp [pending?, Path.log, Path.beside, get?, Path.isOuter]

/-- A text read as a database has no data. -/
theorem dataAt_of_text {s : String} (h : t.get? p = some (.file (.text s)))
    (hpending : t.pending? p = none) : t.dataAt p = {} := by
  have hdata : t.database? p = (Content.text s).database? := by
    simp only [database?, h]
  rw [dataAt, hpending, hdata, Content.database?]
  cases Image.fault? (Text.Utf8.encode s.toList) <;> rfl

/-! ## Tidying up -/

/-- Whether tidying up takes the journal away that is beside a database. -/
def dropsJournal (t : FileTree) (p : Path) : Bool :=
  match t.get? p.journal with
  | some (.file c) => !c.isEmpty && (t.isBlank p || c.isHot)
  | _ => false

/-- Whether tidying up takes the log away that is beside a database. -/
def dropsLog (t : FileTree) (p : Path) : Bool :=
  match t.get? p.log with
  | some (.file c) => t.isBlank p && !c.isEmpty
  | _ => false

theorem tidy_nil (t : FileTree) : t.tidy [] = t := by
  simp [tidy, Path.journal, Path.log, Path.beside, get?, Path.isOuter]

/-- Tidying up takes away what it takes away, the log in the same way as the journal. -/
theorem tidy_eq (hp : p ≠ []) :
    t.tidy p =
      let t' := if t.dropsJournal p then t.remove p.journal else t
      if t.dropsLog p then t'.remove p.log else t' := by
  -- The log is looked for after the journal has gone, and is where it was before.
  have hlog : ∀ t', (t' = t ∨ t' = t.remove p.journal) → t'.get? p.log = t.get? p.log := by
    rintro t' (rfl | rfl)
    · rfl
    · exact get?_remove_of_ne (Path.log_ne_journal hp hp)
  have hjournal : (match t.get? p.journal with
      | some (.file c) => if !c.isEmpty && (t.isBlank p || c.isHot) then t.remove p.journal else t
      | _ => t) = if t.dropsJournal p then t.remove p.journal else t := by
    unfold dropsJournal
    split
    · rfl
    · simp
  have hshape : t.tidy p =
      (let t' := if t.dropsJournal p then t.remove p.journal else t
       match t'.get? p.log with
       | some (.file c) => if t.isBlank p && !c.isEmpty then t'.remove p.log else t'
       | _ => t') := by
    rw [← hjournal]
    rfl
  rw [hshape]
  dsimp only
  generalize ht' : (if t.dropsJournal p then t.remove p.journal else t) = t'
  have hget : t'.get? p.log = t.get? p.log := by
    apply hlog
    rw [← ht']
    split
    · exact .inr rfl
    · exact .inl rfl
  unfold dropsLog
  rw [hget]
  split
  · rfl
  · simp

/-- What stands at a place after tidying up beside a database. -/
theorem get?_tidy (hp : p ≠ []) (hq : q.isOuter = false) :
    (t.tidy p).get? q =
      if t.dropsJournal p = true ∧ q = p.journal ∨ t.dropsLog p = true ∧ q = p.log then none
      else t.get? q := by
  rw [tidy_eq hp]
  dsimp only
  by_cases hj : t.dropsJournal p = true
  · by_cases hl : t.dropsLog p = true
    · rw [if_pos hj, if_pos hl, get?_remove hq, get?_remove hq]
      grind
    · rw [if_pos hj, if_neg hl, get?_remove hq]
      grind
  · by_cases hl : t.dropsLog p = true
    · rw [if_neg hj, if_pos hl, get?_remove hq]
      grind
    · rw [if_neg hj, if_neg hl]
      grind

/-- Tidying up touches nothing but the journal and the log. -/
theorem get?_tidy_of_ne (hp : p ≠ []) (hj : q ≠ p.journal) (hl : q ≠ p.log) :
    (t.tidy p).get? q = t.get? q := by
  by_cases hq : q.isOuter = true
  · rw [get?_of_isOuter hq, get?_of_isOuter hq]
  · rw [get?_tidy hp (by simpa using hq), if_neg (by simp [hj, hl])]

theorem get?_tidy_self (t : FileTree) (p : Path) : (t.tidy p).get? p = t.get? p := by
  by_cases hp : p = []
  · rw [hp, tidy_nil]
  · exact get?_tidy_of_ne hp (Path.journal_ne hp).symm (Path.log_ne hp).symm

/-- After tidying up there is nothing left to take away. -/
theorem tidy_tidy (t : FileTree) (p : Path) : (t.tidy p).tidy p = t.tidy p := by
  by_cases hp : p = []
  · subst hp
    rw [tidy_nil, tidy_nil]
  · have hblank : (t.tidy p).isBlank p = t.isBlank p := isBlank_congr (get?_tidy_self t p)
    have hj : (t.tidy p).dropsJournal p = false := by
      have hget := get?_tidy (t := t) hp (Path.isOuter_journal hp)
      by_cases h : t.dropsJournal p = true
      · rw [if_pos (.inl ⟨h, rfl⟩)] at hget
        simp only [dropsJournal, hget]
      · have hne := Path.log_ne_journal hp hp
        rw [if_neg (by grind)] at hget
        simp only [dropsJournal, hget, hblank]
        simpa [dropsJournal] using h
    have hl : (t.tidy p).dropsLog p = false := by
      have hget := get?_tidy (t := t) hp (Path.isOuter_log hp)
      by_cases h : t.dropsLog p = true
      · rw [if_pos (.inr ⟨h, rfl⟩)] at hget
        simp only [dropsLog, hget]
      · have hne := Path.log_ne_journal hp hp
        rw [if_neg (by grind)] at hget
        simp only [dropsLog, hget, hblank]
        simpa [dropsLog] using h
    rw [tidy_eq (t := t.tidy p) hp, hj, hl]
    rfl

/-- A database that is more than blank keeps its log when its surroundings are tidied up. -/
theorem dropsLog_of_isBlank (h : t.isBlank p = false) : t.dropsLog p = false := by
  unfold dropsLog
  split <;> simp [h]

/-- Beside a blank database nothing is left of a log that had anything in it. -/
theorem hasLog_tidy_of_isBlank (hp : p ≠ []) (h : t.isBlank p = true)
    (hd : t.get? p.log ≠ some .directory) : (t.tidy p).hasLog p = false := by
  have hget := get?_tidy (t := t) hp (Path.isOuter_log hp)
  have hne := Path.log_ne_journal hp hp
  by_cases hdrop : t.dropsLog p = true
  · rw [if_pos (.inr ⟨hdrop, rfl⟩)] at hget
    simp only [hasLog, hget]
  · rw [if_neg (by grind)] at hget
    simp only [hasLog, hget]
    simp only [dropsLog, h] at hdrop
    split
    · rfl
    · exact absurd (by assumption) hd
    · rename_i c hc
      simp only [hc] at hdrop
      simpa using hdrop

end FileTree

end DeliveryStore
