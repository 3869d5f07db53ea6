import Mathlib.Data.List.Basic
import Mathlib.Data.List.DropRight
import Mathlib.Tactic.Common

/-!
# Lists

Facts about lists that have nothing to do with the stores:

* `List.nodup_eraseDups` — what is left when repetitions are dropped has none;
* `List.mergeSort_filter` — sorting and leaving things out may change places;
* `List.mem_of_mem_intercalate` — what stands in lists that are joined;
* `List.rtakeWhile_append_of_not` — what is taken from the end of a list;
* `List.lookup_eq_some_iff_mem` — what is found under a key that is there once.
-/

namespace List

variable {α : Type}

/-- What is left when repetitions are dropped has none. -/
theorem nodup_eraseDups [BEq α] [LawfulBEq α] (l : List α) : l.eraseDups.Nodup := by
  -- The list gets shorter by all occurrences of its head, so the induction is on its length.
  induction hn : l.length using Nat.strongRecOn generalizing l with
  | ind n ih =>
    cases l with
    | nil => simp
    | cons a as =>
      rw [eraseDups_cons, nodup_cons]
      have hlength : (as.filter fun b => !b == a).length < n := by
        have := length_filter_le (fun b => !b == a) as
        simp only [length_cons] at hn
        omega
      refine ⟨?_, ih _ hlength _ rfl⟩
      rw [mem_eraseDups, mem_filter]
      simp

section Sorting

variable {le : α → α → Bool}

/-- There is one place only to cut a list such that the elements before it pass a test and those
after it fail. -/
theorem append_inj_of_forall {p : α → Bool} {before after before' after' : List α}
    (h : before ++ after = before' ++ after') (hb : ∀ x ∈ before, p x = true)
    (ha : ∀ x ∈ after, p x = false) (hb' : ∀ x ∈ before', p x = true)
    (ha' : ∀ x ∈ after', p x = false) : before = before' ∧ after = after' := by
  have hcut : ∀ {b a : List α}, (∀ x ∈ b, p x = true) → (∀ x ∈ a, p x = false) →
      (b ++ a).filter p = b := by
    intro b a hb ha
    rw [filter_append, filter_eq_self.2 hb, filter_eq_nil_iff.2 fun x hx => by simp [ha x hx],
      append_nil]
  have hbefore : before = before' := by rw [← hcut hb ha, h, hcut hb' ha']
  subst hbefore
  exact ⟨rfl, append_cancel_left h⟩

/-- Sorting and leaving things out may change places. -/
theorem mergeSort_filter (htrans : ∀ a b c, le a b = true → le b c = true → le a c = true)
    (htotal : ∀ a b, (le a b || le b a) = true) (p : α → Bool) (l : List α) :
    (l.filter p).mergeSort le = (l.mergeSort le).filter p := by
  induction l with
  | nil => simp
  | cons a l ih =>
    -- The first is put between those that come before it and those that do not.
    have hplace : ∀ {l early late : List α}, (a :: l).mergeSort le = early ++ a :: late →
        ∀ b ∈ late, le a b = true := by
      intro l early late h
      have hsorted := pairwise_mergeSort htrans htotal (a :: l)
      rw [h] at hsorted
      exact (pairwise_cons.1 (pairwise_append.1 hsorted).2.1).1
    obtain ⟨early, late, hall, hrest, hearly⟩ := mergeSort_cons htrans htotal a l
    rw [hall, filter_append]
    rw [hrest, filter_append] at ih
    by_cases ha : p a = true
    · obtain ⟨early', late', hall', hrest', hearly'⟩ := mergeSort_cons htrans htotal a (l.filter p)
      rw [filter_cons_of_pos ha, filter_cons_of_pos ha, hall']
      have hsame := append_inj_of_forall (p := fun b => !le a b) (hrest'.symm.trans ih) hearly'
        (fun b hb => by simp [hplace hall' b hb]) (fun b hb => hearly b (mem_filter.1 hb).1)
        (fun b hb => by simp [hplace hall b (mem_filter.1 hb).1])
      rw [hsame.1, hsame.2]
    · rw [filter_cons_of_neg ha, filter_cons_of_neg ha, ih]

end Sorting

/-- What stands in lists joined by a separator stands in the separator or in one of them. -/
theorem mem_of_mem_intercalate {a : α} {between : List α} {parts : List (List α)}
    (h : a ∈ between.intercalate parts) : a ∈ between ∨ ∃ part ∈ parts, a ∈ part := by
  induction parts with
  | nil => cases h
  | cons part rest ih =>
    cases rest with
    | nil => exact .inr ⟨part, by simpa using h⟩
    | cons next more =>
      rw [intercalate_cons_cons, mem_append, mem_append] at h
      rcases h with (hpart | hbetween) | hrest
      · exact .inr ⟨part, mem_cons_self, hpart⟩
      · exact .inl hbetween
      · exact (ih hrest).imp_right fun ⟨part', hmem, ha⟩ => ⟨part', mem_cons_of_mem _ hmem, ha⟩

/-- What stands behind the last element that fails a test is what is taken from the end. -/
theorem rtakeWhile_append_of_not {p : α → Bool} {before after : List α} {a : α}
    (ha : p a = false) (hafter : ∀ x ∈ after, p x = true) :
    (before ++ a :: after).rtakeWhile p = after := by
  have hreverse : (before ++ a :: after).reverse = after.reverse ++ a :: before.reverse := by simp
  rw [rtakeWhile, hreverse,
    takeWhile_append_of_pos fun x hx => hafter x (mem_reverse.1 hx),
    takeWhile_cons_of_neg (by simp [ha]), append_nil, reverse_reverse]

/-- Where no key is twice, what is found under a key is what stands beside it. -/
theorem lookup_eq_some_iff_mem {xs : List (String × α)} (h : (xs.map Prod.fst).Nodup)
    {k : String} {v : α} : xs.lookup k = some v ↔ (k, v) ∈ xs := by
  induction xs with
  | nil => simp
  | cons x rest ih =>
    obtain ⟨key, value⟩ := x
    rw [map_cons, nodup_cons] at h
    rw [lookup_cons, mem_cons, Prod.mk.injEq, ← ih h.2]
    by_cases hkey : k = key
    · subst hkey
      have hrest : rest.lookup k ≠ some v := fun hv =>
        h.1 (mem_map.2 ⟨(k, v), (ih h.2).1 hv, rfl⟩)
      simp [hrest, eq_comm]
    · have hbeq : (k == key) = false := beq_false_of_ne hkey
      simp [hkey, hbeq]

end List
