import DeliveryStore.Proofs.Storage.Files
import Mathlib.Data.List.Induction

/-!
# Ways to a place

Names lead from the working directory through one place after another. What the way may meet decides
whether a place is found by its names, and whether the directories on the way can be made. Main
statements:

* `Path.along_upward` — the places above one that names lead to are places on their way;
* `FileTree.locate_of_locate` — what has been found is found again if no file has come in the way;
* `FileTree.get?_makeDirectories`, `FileTree.get?_of_along` — making directories makes those on the
  way, and leaves all else as it was;
* `FileTree.makeDirectories_again` — directories that have been made can be made again.
-/

namespace DeliveryStore

namespace Path

variable {names : List FileName} {p q : Path}

/-- A place on the way of names, which leads from the working directory to where they end. -/
def Along (names : List FileName) (q : Path) : Prop :=
  ∃ before after, names = before ++ after ∧ resolve before = q

theorem resolve_append (before after : List FileName) :
    resolve (before ++ after) = after.foldl descend (resolve before) := by
  simp only [resolve, List.foldl_append]

theorem resolve_concat (names : List FileName) (name : FileName) :
    resolve (names ++ [name]) = descend (resolve names) name := by
  rw [resolve_append]
  rfl

theorem Along.concat (h : Along names q) (name : FileName) : Along (names ++ [name]) q := by
  obtain ⟨before, after, rfl, hq⟩ := h
  exact ⟨before, after ++ [name], by rw [List.append_assoc], hq⟩

theorem along_end (names : List FileName) : Along names (resolve names) :=
  ⟨names, [], (List.append_nil _).symm, rfl⟩

/-- What stands before a name is on the way of the names without the last. -/
theorem along_dropLast {before after : List FileName} (hn : names = before ++ after)
    (ha : after ≠ []) : Along names.dropLast (resolve before) := by
  refine ⟨before, after.dropLast, ?_, rfl⟩
  rw [hn, List.dropLast_append_of_ne_nil ha]

/-- The ways in which a name leads on: to the same place, to the one above, or one name down. -/
theorem descend_cases (p : Path) (name : FileName) :
    descend p name = p ∨ descend p name = p.dropLast ∨ descend p name = p ++ [name] := by
  unfold descend
  split
  · rename_i hname
    cases hlast : p.getLast? with
    | none =>
      rw [List.getLast?_eq_none_iff] at hlast
      subst hlast
      exact .inr (.inr (by rw [hname]; rfl))
    | some last =>
      dsimp only
      split
      · exact .inl rfl
      split
      · exact .inr (.inr (by rw [hname]))
      · exact .inr (.inl rfl)
  · exact .inr (.inr rfl)

/-- The places above one that names lead to are places on their way. -/
theorem along_upward (h : q <+: resolve names) : Along names q := by
  induction names using List.reverseRecOn generalizing q with
  | nil =>
    rw [List.prefix_nil.1 h]
    exact along_end []
  | append_singleton names name ih =>
    rw [resolve_concat] at h
    rcases descend_cases (resolve names) name with heq | heq | heq
    · rw [heq] at h
      exact (ih h).concat name
    · rw [heq] at h
      exact (ih (h.trans <| List.dropLast_prefix _)).concat name
    · rw [heq] at h
      rcases List.prefix_concat_iff.1 h with rfl | hup
      · rw [← heq, ← resolve_concat]
        exact along_end _
      · exact (ih hup).concat name

/-- The places above one that names lead to, and that one itself, lead to themselves. -/
theorem resolve_upward (h : q <+: resolve names) : resolve q = q := by
  induction names using List.reverseRecOn generalizing q with
  | nil =>
    rw [List.prefix_nil.1 h]
    rfl
  | append_singleton names name ih =>
    rw [resolve_concat] at h
    rcases descend_cases (resolve names) name with heq | heq | heq
    · rw [heq] at h
      exact ih h
    · rw [heq] at h
      exact ih (h.trans <| List.dropLast_prefix _)
    · rw [heq] at h
      rcases List.prefix_concat_iff.1 h with rfl | hup
      · -- One name further down than a place that leads to itself.
        rw [resolve_concat, ih (List.prefix_refl _), heq]
      · exact ih hup

/-- Where the names of a resolved place lead before they end, the names that were resolved lead
before they end. -/
theorem along_dropLast_of_resolve {before after : List FileName} {name : FileName}
    (h : resolve names = before ++ name :: after) : Along names.dropLast (resolve before) := by
  have hbefore : before <+: resolve names := ⟨name :: after, h.symm⟩
  obtain ⟨first, rest, hnames, hfirst⟩ := along_upward hbefore
  rw [resolve_upward hbefore, ← hfirst]
  refine along_dropLast hnames ?_
  rintro rfl
  rw [List.append_nil] at hnames
  rw [hnames, hfirst] at h
  simp at h

end Path

namespace FileTree

variable {t u : FileTree} {p q : Path} {names : List FileName}

theorem isFile_eq_true_iff : t.isFile p = true ↔ ∃ c, t.get? p = some (.file c) := by
  unfold isFile
  split
  · rename_i c hc
    exact ⟨fun _ => ⟨c, hc⟩, fun _ => rfl⟩
  · rename_i hother
    constructor
    · intro h
      cases h
    · rintro ⟨c, hc⟩
      exact absurd hc (hother c)

theorem isFile_of_directory (h : t.get? p = some .directory) : t.isFile p = false := by
  simp only [isFile, h]

/-! ## Finding a place again -/

/-- What names have led to they lead to again, if no file has come in their way. -/
theorem locateFrom_of_locateFrom (h : t.locateFrom p names = some q)
    (hu : ∀ before name after, names = before ++ name :: after →
      u.isFile (before.foldl Path.descend p) = true →
        t.isFile (before.foldl Path.descend p) = true) :
    u.locateFrom p names = some q := by
  induction names generalizing p with
  | nil => exact h
  | cons name rest ih =>
    unfold locateFrom at h ⊢
    split at h
    · cases h
    rename_i hpass
    rw [if_neg ?_]
    · refine ih h fun before other after heq => ?_
      exact hu (name :: before) other after (by rw [heq]; rfl)
    · rintro ⟨habove, hlong | hfile⟩
      · exact hpass ⟨habove, .inl hlong⟩
      · exact hpass ⟨habove, .inr (hu [] name rest rfl hfile)⟩

theorem locate_of_locate (h : t.locate names = some p)
    (hu : ∀ before name after, names = before ++ name :: after →
      u.isFile (Path.resolve before) = true → t.isFile (Path.resolve before) = true) :
    u.locate names = some p := locateFrom_of_locateFrom h hu

/-! ## Making directories -/

variable {done : List FileName} {made : Bool}

/-- Making directories leaves every place as it was, unless there was nothing at a place on the way,
and a directory is there now. -/
theorem get?_makeAlong (t : FileTree) (done : List FileName) (made : Bool) (names : List FileName)
    (q : Path) :
    (t.makeAlong done made names).2.get? q = t.get? q ∨
      t.get? q = none ∧ (t.makeAlong done made names).2.get? q = some .directory ∧
        ∃ before after, names = before ++ after ∧ Path.resolve (done ++ before) = q := by
  induction names generalizing t done made with
  | nil => exact .inl rfl
  | cons name rest ih =>
    -- What is on the rest of the way is on the whole of it.
    have hway : (∃ before after, rest = before ++ after ∧
          Path.resolve ((done ++ [name]) ++ before) = q) →
        ∃ before after, name :: rest = before ++ after ∧ Path.resolve (done ++ before) = q := by
      rintro ⟨before, after, hrest, hq⟩
      exact ⟨name :: before, after, by rw [hrest]; rfl, by rw [← hq, List.append_assoc]; rfl⟩
    unfold makeAlong
    dsimp only
    split
    · exact .inl rfl
    split
    · rcases ih t (done ++ [name]) made with hsame | ⟨hnone, hmade, hon⟩
      · exact .inl hsame
      · exact .inr ⟨hnone, hmade, hway hon⟩
    · exact .inl rfl
    · rename_i hplace
      have houter : (Path.resolve (done ++ [name])).isOuter = false :=
        isOuter_of_get? (t := t) (by simp [hplace])
      rcases ih (t.put (Path.resolve (done ++ [name])) .directory) (done ++ [name]) true with
        hsame | ⟨hnone, hmade, hon⟩
      · by_cases hq : q = Path.resolve (done ++ [name])
        · subst hq
          rw [get?_put_self houter] at hsame
          exact .inr ⟨hplace, hsame, [name], rest, rfl, rfl⟩
        · rw [get?_put_of_ne hq] at hsame
          exact .inl hsame
      · by_cases hq : q = Path.resolve (done ++ [name])
        · subst hq
          rw [get?_put_self houter] at hnone
          cases hnone
        · rw [get?_put_of_ne hq] at hnone
          exact .inr ⟨hnone, hmade, hway hon⟩

/-- Directories stay directories when more are made. -/
theorem get?_makeAlong_of_directory (h : t.get? q = some .directory) :
    (t.makeAlong done made names).2.get? q = some .directory := by
  rcases get?_makeAlong t done made names q with hsame | ⟨hnone, -⟩
  · rw [hsame, h]
  · rw [h] at hnone
    cases hnone

/-- After directories have been made, each place on the way is one. -/
theorem isDirectory_of_makeAlong (h : (t.makeAlong done made names).1 = none)
    {before after : List FileName} (hn : names = before ++ after) (hb : before ≠ []) :
    (t.makeAlong done made names).2.get? (Path.resolve (done ++ before)) = some .directory := by
  induction names generalizing t done made before with
  | nil => exact absurd (List.append_eq_nil_iff.1 hn.symm).1 hb
  | cons name rest ih =>
    obtain ⟨more, rfl⟩ : ∃ more, before = name :: more := by
      cases before with
      | nil => exact absurd rfl hb
      | cons first more => exact ⟨more, by rw [(List.cons.inj hn).1]⟩
    have hrest : rest = more ++ after := (List.cons.inj hn).2
    unfold makeAlong at h ⊢
    dsimp only at h ⊢
    split at h
    · cases h
    rename_i hfits
    rw [if_neg hfits]
    -- The first place is a directory once it is passed; the others are so by induction.
    have hlater : ∀ v : FileTree, ∀ made' : Bool,
        (v.makeAlong (done ++ [name]) made' rest).1 = none →
        v.get? (Path.resolve (done ++ [name])) = some .directory →
        (v.makeAlong (done ++ [name]) made' rest).2.get? (Path.resolve (done ++ name :: more)) =
          some .directory := by
      intro v made' hmade hplace
      cases more with
      | nil => exact get?_makeAlong_of_directory hplace
      | cons second more =>
        have hsplit : done ++ name :: second :: more = (done ++ [name]) ++ second :: more := by
          rw [List.append_assoc]
          rfl
        rw [hsplit]
        exact ih hmade hrest (by simp)
    split at h
    · rename_i hplace
      exact hlater t made h hplace
    · cases h
    · rename_i hplace
      refine hlater _ true h (get?_put_self ?_)
      exact isOuter_of_get? (t := t) (by simp [hplace])

/-- Directories that have been made can be made again, if no file has come in the way. -/
theorem makeAlong_again (h : (t.makeAlong done made names).1 = none) (made' : Bool)
    (hu : ∀ before after, names = before ++ after →
      u.isFile (Path.resolve (done ++ before)) = false) :
    (u.makeAlong done made' names).1 = none := by
  induction names generalizing t u done made made' with
  | nil => rfl
  | cons name rest ih =>
    have hrest : ∀ before after, rest = before ++ after →
        u.isFile (Path.resolve ((done ++ [name]) ++ before)) = false := by
      intro before after heq
      have hclear := hu (name :: before) after (by rw [heq]; rfl)
      rwa [List.append_assoc]
    have hplace : u.isFile (Path.resolve (done ++ [name])) = false := hu [name] rest rfl
    unfold makeAlong at h ⊢
    dsimp only at h ⊢
    split at h
    · cases h
    rename_i hfits
    rw [if_neg hfits]
    -- The walk went on to the rest, whatever stood at the first place.
    have hon : ∃ (v : FileTree) (made'' : Bool),
        (v.makeAlong (done ++ [name]) made'' rest).1 = none := by
      split at h
      · exact ⟨_, _, h⟩
      · cases h
      · exact ⟨_, _, h⟩
    obtain ⟨v, made'', hv⟩ := hon
    cases hu' : u.get? (Path.resolve (done ++ [name])) with
    | none =>
      refine ih hv true fun before after heq => ?_
      by_cases hsame : Path.resolve ((done ++ [name]) ++ before) = Path.resolve (done ++ [name])
      · refine isFile_of_directory ?_
        rw [hsame]
        exact get?_put_self (isOuter_of_get? (t := u) (by simp [hu']))
      · have hclear := hrest before after heq
        simp only [isFile, get?_put_of_ne hsame] at hclear ⊢
        exact hclear
    | some n =>
      cases n with
      | directory => exact ih hv made' hrest
      | file c =>
        rw [isFile_eq_true_iff.2 ⟨c, hu'⟩] at hplace
        cases hplace

/-! ## Making directories for a place -/

/-- Making directories leaves every place as it was, unless there was nothing at a place on the way,
and a directory is there now. -/
theorem get?_makeDirectories (t : FileTree) (names : List FileName) (q : Path) :
    (t.makeDirectories names).2.get? q = t.get? q ∨
      t.get? q = none ∧ (t.makeDirectories names).2.get? q = some .directory ∧
        Path.Along names q := by
  unfold makeDirectories
  split
  · exact .inl rfl
  · rcases get?_makeAlong t [] false names q with hsame | ⟨hnone, hmade, before, after, hnames, hq⟩
    · exact .inl hsame
    · exact .inr ⟨hnone, hmade, before, after, hnames, hq⟩

/-- After directories have been made, they are there. -/
theorem get?_of_along (h : (t.makeDirectories names).1 = none) (hq : Path.Along names q) :
    (t.makeDirectories names).2.get? q = some .directory := by
  obtain ⟨before, after, hnames, rfl⟩ := hq
  unfold makeDirectories at h ⊢
  split at h
  · cases h
  rename_i hshort
  rw [if_neg hshort]
  cases before with
  | nil => exact get?_of_isOuter rfl
  | cons first more => exact isDirectory_of_makeAlong h hnames (by simp)

/-- Directories that have been made can be made again, if no file has come in the way. -/
theorem makeDirectories_again (h : (t.makeDirectories names).1 = none)
    (hu : ∀ q, Path.Along names q → u.isFile q = false) : (u.makeDirectories names).1 = none := by
  unfold makeDirectories at h ⊢
  split at h
  · cases h
  rename_i hshort
  rw [if_neg hshort]
  exact makeAlong_again h false fun before after hnames =>
    hu _ ⟨before, after, hnames, rfl⟩

end FileTree

end DeliveryStore
