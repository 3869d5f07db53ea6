import DeliveryStore.Proofs.Storage.Ways

/-!
# Which directories can be made

Directories are made from the top down, and the first name at which one cannot be made stops the walk.
In a tree in which everything stands in a directory nothing stands below a place where nothing is, so
that names none of which leads up meet a file, if at all, before a directory is made. Main statements:

* `FileTree.makeDirectories_eq_none_iff` — directories can be made if the names are not too long and
  no file is on their way, and only then;
* `FileTree.makeDirectories_of_grounded` — directories of names that fit are all made or none is;
* `FileTree.Grounded.makeDirectories` — everything still stands in a directory when more are made.
-/

namespace DeliveryStore

/-! ## Names that lead down -/

namespace Path

variable {names : List FileName} {p q : Path}

/-- A name that does not lead up leads one name down. -/
theorem descend_of_ne {name : FileName} (h : name ≠ above) (p : Path) :
    descend p name = p ++ [name] := if_neg h

/-- Names none of which leads up lead to the place that they spell. -/
theorem resolve_of_not_mem (h : above ∉ names) : resolve names = names := by
  induction names using List.reverseRecOn with
  | nil => rfl
  | append_singleton names name ih =>
    rw [List.mem_append, List.mem_singleton, not_or] at h
    rw [resolve_concat, ih h.1, descend_of_ne (Ne.symm h.2)]

/-- On the way of such names are the places above the one that they spell, and that one. -/
theorem along_iff_of_not_mem (h : above ∉ names) : Along names q ↔ q <+: names := by
  constructor
  · rintro ⟨before, after, hnames, hq⟩
    rw [hnames, List.mem_append, not_or] at h
    rw [resolve_of_not_mem h.1] at hq
    exact ⟨after, by rw [hnames, hq]⟩
  · rintro ⟨after, rfl⟩
    rw [List.mem_append, not_or] at h
    exact ⟨q, after, rfl, resolve_of_not_mem h.1⟩

/-- Names none of which is too long, in a path that is not too long. -/
structure Fits (names : List FileName) : Prop where
  each : ∀ name ∈ names, name.length ≤ greatestName
  whole : Text.Utf8.size (written names) ≤ greatestLength

end Path

/-! ## Trees in which everything stands in a directory -/

namespace FileTree

variable {t : FileTree} {p q : Path} {done names : List FileName} {made : Bool}

/-- Whatever stands at a place stands in a directory. -/
def Grounded (t : FileTree) : Prop :=
  ∀ p n, t.get? p = some n → t.get? p.dropLast = some .directory

theorem isOuter_dropLast (h : p.isOuter = true) : Path.isOuter p.dropLast = true := by
  rw [Path.isOuter, List.all_eq_true] at h ⊢
  exact fun name hname => h name ((List.dropLast_subset p) hname)

theorem grounded_empty : Grounded {} := by
  intro p n h
  cases houter : p.isOuter with
  | true => exact get?_of_isOuter (isOuter_dropLast houter)
  | false => simp [get?, houter] at h

/-- Nothing stands below a place where nothing is. -/
theorem Grounded.get?_eq_none (ht : t.Grounded) (hq : q <+: p) (h : t.get? q = none) :
    t.get? p = none := by
  induction p using List.reverseRecOn with
  | nil => rwa [List.prefix_nil.1 hq] at h
  | append_singleton p name ih =>
    rcases List.prefix_concat_iff.1 hq with rfl | hup
    · exact h
    · cases hn : t.get? (p ++ [name]) with
      | none => rfl
      | some n =>
        have hdirectory := ht _ n hn
        rw [List.dropLast_concat, ih hup] at hdirectory
        cases hdirectory

/-- A directory where nothing was is no file, and changes no file. -/
theorem isFile_put_directory (h : t.get? p = none) (q : Path) :
    (t.put p .directory).isFile q = t.isFile q := by
  by_cases hq : q = p
  · subst hq
    have houter : q.isOuter = false := isOuter_of_get? (t := t) (by simp [h])
    rw [isFile_of_directory (get?_put_self houter)]
    simp only [isFile, h]
  · simp only [isFile, get?_put_of_ne hq]

/-- Everything still stands in a directory when a directory is made in one. -/
theorem Grounded.put_directory (ht : t.Grounded) (hp : t.get? p.dropLast = some .directory)
    (hfree : t.get? p = none) : (t.put p .directory).Grounded := by
  have houter : p.isOuter = false := isOuter_of_get? (t := t) (by simp [hfree])
  have hkept : ∀ q, t.get? q = some .directory → (t.put p .directory).get? q = some .directory := by
    intro q hq
    by_cases heq : q = p
    · rw [heq, get?_put_self houter]
    · rwa [get?_put_of_ne heq]
  intro q n hn
  by_cases heq : q = p
  · rw [heq]
    exact hkept _ hp
  · rw [get?_put_of_ne heq] at hn
    exact hkept _ (ht q n hn)

/-! ## Making directories -/

/-- The directories along a path can be made if no name is too long and no file is on the way, and only
then. -/
theorem makeAlong_eq_none_iff : (t.makeAlong done made names).1 = none ↔
    (∀ name ∈ names, name.length ≤ Path.greatestName) ∧
      ∀ before after, names = before ++ after → before ≠ [] →
        t.isFile (Path.resolve (done ++ before)) = false := by
  induction names generalizing t done made with
  | nil =>
    refine iff_of_true rfl ⟨by simp, ?_⟩
    intro before after hnames hbefore
    exact absurd (List.append_eq_nil_iff.1 hnames.symm).1 hbefore
  | cons name rest ih =>
    -- The way goes through the first place, and from there on through the rest.
    have hway : (∀ before after, name :: rest = before ++ after → before ≠ [] →
          t.isFile (Path.resolve (done ++ before)) = false) ↔
        t.isFile (Path.resolve (done ++ [name])) = false ∧
          ∀ before after, rest = before ++ after → before ≠ [] →
            t.isFile (Path.resolve (done ++ [name] ++ before)) = false := by
      constructor
      · intro h
        refine ⟨h [name] rest rfl (by simp), fun before after hrest _ => ?_⟩
        rw [List.append_assoc]
        exact h (name :: before) after (by rw [hrest]; rfl) (by simp)
      · rintro ⟨hfirst, hlater⟩ before after hnames hbefore
        obtain _ | ⟨first, more⟩ := before
        · exact absurd rfl hbefore
        obtain ⟨rfl, hrest⟩ := List.cons.inj hnames
        by_cases hmore : more = []
        · rw [hmore]
          exact hfirst
        · have hclear := hlater more after hrest hmore
          rwa [List.append_assoc] at hclear
    rw [hway, List.forall_mem_cons]
    unfold makeAlong
    dsimp only
    split
    · rename_i hlong
      exact iff_of_false (by simp) fun h => absurd h.1.1 (by omega)
    rename_i hshort
    have hfits : name.length ≤ Path.greatestName := by omega
    split
    · rename_i hplace
      rw [ih]
      simp only [hfits, isFile_of_directory hplace, true_and]
    · rename_i c hplace
      have hfile := isFile_eq_true_iff.2 ⟨c, hplace⟩
      exact iff_of_false (by simp) fun h => by simp [hfile] at h
    · rename_i hplace
      have hclear : t.isFile (Path.resolve (done ++ [name])) = false := by simp only [isFile, hplace]
      rw [ih]
      simp only [hfits, hclear, isFile_put_directory hplace, true_and]

/-- Directories can be made if their names fit and no file is on their way, and only then. -/
theorem makeDirectories_eq_none_iff : (t.makeDirectories names).1 = none ↔
    Path.Fits names ∧ ∀ q, Path.Along names q → t.isFile q = false := by
  have hway : (∀ before after, names = before ++ after → before ≠ [] →
        t.isFile (Path.resolve ([] ++ before)) = false) ↔
      ∀ q, Path.Along names q → t.isFile q = false := by
    constructor
    · rintro h q ⟨before, after, hnames, rfl⟩
      by_cases hbefore : before = []
      · rw [hbefore]
        exact isFile_of_directory (get?_of_isOuter rfl)
      · exact h before after hnames hbefore
    · intro h before after hnames _
      exact h _ ⟨before, after, hnames, rfl⟩
  unfold makeDirectories
  split
  · rename_i hlong
    exact iff_of_false (by simp) fun h => absurd h.1.whole (by omega)
  · rename_i hshort
    rw [makeAlong_eq_none_iff, hway]
    exact ⟨fun h => ⟨⟨h.1, by omega⟩, h.2⟩, fun h => ⟨h.1.each, h.2⟩⟩

/-- Where everything stands in a directory, a walk along names that fit meets a file, if at all, before
it makes a directory. -/
theorem makeAlong_of_grounded (ht : t.Grounded) (hup : Path.above ∉ done ++ names)
    (hfits : ∀ name ∈ names, name.length ≤ Path.greatestName)
    (h : (t.makeAlong done made names).1 ≠ none) : (t.makeAlong done made names).2 = t := by
  induction names generalizing done made with
  | nil => rfl
  | cons name rest ih =>
    have hup' : Path.above ∉ done ++ [name] ++ rest := by rwa [List.append_assoc]
    have hfits' : ∀ name ∈ rest, name.length ≤ Path.greatestName :=
      fun other hother => hfits other (List.mem_cons_of_mem _ hother)
    unfold makeAlong at h ⊢
    dsimp only at h ⊢
    split
    · rfl
    rename_i hshort
    rw [if_neg hshort] at h
    split
    · rename_i hplace
      rw [hplace] at h
      exact ih hup' hfits' h
    · rfl
    · -- A file further on would stand below a place where nothing is.
      rename_i hplace
      rw [hplace] at h
      refine absurd (makeAlong_eq_none_iff.2 ⟨hfits', fun before after hrest _ => ?_⟩) h
      rw [isFile_put_directory hplace]
      have hnone : t.get? (Path.resolve (done ++ [name] ++ before)) = none := by
        refine ht.get?_eq_none ?_ hplace
        rw [hrest, ← List.append_assoc, List.mem_append, not_or] at hup'
        rw [Path.resolve_of_not_mem hup'.1,
          Path.resolve_of_not_mem fun hmem => hup'.1 (List.mem_append_left _ hmem)]
        exact List.prefix_append _ _
      simp only [isFile, hnone]

/-- Where everything stands in a directory, all of the missing directories are made or none is, if no
name is too long and none leads up. -/
theorem makeDirectories_of_grounded (ht : t.Grounded) (hup : Path.above ∉ names)
    (hfits : ∀ name ∈ names, name.length ≤ Path.greatestName)
    (h : (t.makeDirectories names).1 ≠ none) : (t.makeDirectories names).2 = t := by
  unfold makeDirectories at h ⊢
  split
  · rfl
  · rename_i hshort
    rw [if_neg hshort] at h
    exact makeAlong_of_grounded ht hup hfits h

/-- Everything still stands in a directory when directories have been made along a path. -/
theorem Grounded.makeAlong (ht : t.Grounded) (hdone : t.get? (Path.resolve done) = some .directory) :
    (t.makeAlong done made names).2.Grounded := by
  induction names generalizing t done made with
  | nil => exact ht
  | cons name rest ih =>
    unfold FileTree.makeAlong
    dsimp only
    split
    · exact ht
    split
    · rename_i hplace
      exact ih ht hplace
    · exact ht
    · rename_i hplace
      have houter : (Path.resolve (done ++ [name])).isOuter = false :=
        isOuter_of_get? (t := t) (by simp [hplace])
      refine ih (ht.put_directory ?_ hplace) (get?_put_self houter)
      -- Where nothing is, the name has led one name down, since above a directory there are others.
      rw [Path.resolve_concat] at hplace ⊢
      rcases Path.descend_cases (Path.resolve done) name with heq | heq | heq
      · rw [heq, hdone] at hplace
        cases hplace
      · rw [heq, ht _ _ hdone] at hplace
        cases hplace
      · rw [heq, List.dropLast_concat]
        exact hdone

/-- Everything still stands in a directory when more directories have been made. -/
theorem Grounded.makeDirectories (ht : t.Grounded) (names : List FileName) :
    (t.makeDirectories names).2.Grounded := by
  unfold FileTree.makeDirectories
  split
  · exact ht
  · exact ht.makeAlong (get?_of_isOuter rfl)

/-! ### Nested calls -/

/-- No call is nested where the first of some names is too long. -/
theorem callsFor_of_long_name {name : FileName} {rest : List FileName}
    (hname : Path.greatestName < name.length) : t.callsFor (name :: rest) = 0 := by
  unfold callsFor missingAlong
  simp only [hname, if_true, ite_self]

/-- Where nothing stands for the first of some names, a call is nested for each of them. -/
theorem callsFor_of_missing {name : FileName} {rest : List FileName}
    (hsize : Text.Utf8.size (Path.written (name :: rest)) ≤ Path.greatestLength)
    (hname : name.length ≤ Path.greatestName) (hget : t.get? (Path.resolve [name]) = none) :
    t.callsFor (name :: rest) = rest.length + 1 := by
  unfold callsFor missingAlong
  rw [if_neg (Nat.not_lt.2 hsize)]
  simp only [Nat.not_lt.2 hname, if_false, List.nil_append, hget]

end FileTree

end DeliveryStore
