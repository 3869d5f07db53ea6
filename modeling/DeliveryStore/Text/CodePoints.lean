/-!
# Sets of code points

A set of code points is kept as the ascending list of the points at which membership changes: the
set begins at the first, ends before the second, begins again at the third. A code point belongs
to the set when an odd number of changes lie at or before it.
-/

namespace DeliveryStore.Text

/-- A set of code points, as the ascending points at which membership changes. -/
structure CodePoints where
  changes : List Nat

namespace CodePoints

/-- Whether an odd number of changes lie at or before `n`, in an ascending list. -/
def oddUpTo (n : Nat) : List Nat → Bool
  | [] => false
  | p :: rest => if n < p then false else !oddUpTo n rest

/-- Membership of a code point. -/
def contains (s : CodePoints) (n : Nat) : Bool := oddUpTo n s.changes

/-- Nothing below the first change belongs to the set. -/
theorem contains_of_lt {p n : Nat} {rest : List Nat} (h : n < p) :
    (CodePoints.mk (p :: rest)).contains n = false := by
  simp [contains, oddUpTo, h]

end CodePoints

end DeliveryStore.Text
