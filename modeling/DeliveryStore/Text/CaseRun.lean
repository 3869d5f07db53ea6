/-!
# Runs of characters that change case alike

The case mappings of Unicode move most characters by a distance that whole runs of them share. A
`CaseRun` is such a run, and a list of runs is a mapping of single characters.
-/

namespace DeliveryStore.Text

/-- `count` characters, `stride` apart from `first` on, whose other case lies `distance` away. -/
structure CaseRun where
  first : Nat
  count : Nat
  stride : Nat
  distance : Int

namespace CaseRun

/-- A run holds the characters at a whole number of strides from its first. -/
def contains (r : CaseRun) (n : Nat) : Bool :=
  r.first ≤ n && (n - r.first) % r.stride == 0 && (n - r.first) / r.stride < r.count

/-- A character moved by the run that holds it, or left where it is. -/
def move (runs : List CaseRun) (c : Char) : Char :=
  match runs.find? (·.contains c.toNat) with
  | some run => Char.ofNat (c.toNat + run.distance).toNat
  | none => c

/-- A character that no run holds stays. -/
theorem move_nil (c : Char) : move [] c = c := rfl

end CaseRun

end DeliveryStore.Text
