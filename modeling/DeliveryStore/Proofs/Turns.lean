import DeliveryStore.Proofs.Delivery

/-!
# Keys and turns

A table whose rows have keys is a partial map from keys to rows. A row comes under a key only if there
is none, and goes when it is deleted; each of the two is a turn for that key, and the last turn in a
history says what is under the key in the end. Main statements:

* `Table.Shows.insert_eq` — whether a row is inserted under its key;
* `Table.Shows.append`, `Table.Shows.delete` — what is under each key after a row has been inserted or
  deleted;
* `lastTurn_cons`, `lastTurn_concat` — how a history goes on from what was there.
-/

namespace DeliveryStore

/-! ## Rows under keys -/

namespace Table

variable {ρ κ : Type} [DecidableEq κ] {key : ρ → κ} {fits : ρ → Bool} {rows : List ρ} {k : κ}
  {at? : κ → Option ρ}

/-- A key is in use if there is a row under it. -/
theorem holds_eq_isSome_find? : holds key rows k = (find? key k rows).isSome :=
  List.isSome_find?.symm

/-- A row behind the others is found under its key, if nothing else is. -/
theorem find?_append (row : ρ) :
    find? key k (rows ++ [row]) = (find? key k rows).or (if key row = k then some row else none) := by
  unfold find?
  rw [List.find?_append, List.find?_singleton]
  simp only [beq_iff_eq]

/-- Once the rows under a key are deleted nothing is found under it, and under others what was. -/
theorem find?_filter (deleted : κ) :
    find? key k (rows.filter fun r => key r != deleted) =
      if k = deleted then none else find? key k rows := by
  unfold find?
  rw [List.find?_filter]
  split
  · rename_i heq
    subst heq
    rw [List.find?_eq_none]
    intro r _
    simp
  · rename_i hne
    congr 1
    funext r
    grind

/-- Under each key a table has the row that is said to be there, or none. -/
def Shows (key : ρ → κ) (rows : List ρ) (at? : κ → Option ρ) : Prop :=
  ∀ k, find? key k rows = at? k

/-- A row is refused if its key is taken, whatever its size, or if it is too big. -/
theorem Shows.insert_eq (h : Shows key rows at?) (row : ρ) :
    insert key fits rows [row] =
      if (at? (key row)).isSome then .error .taken
      else if fits row then .ok (rows ++ [row])
      else .error (.unusable (.storage .tooBig)) := by
  have hholds : holds key rows (key row) = (at? (key row)).isSome := by
    rw [holds_eq_isSome_find?, h]
  rw [insert, refusal?, List.findSome?_singleton, hholds]
  cases (at? (key row)).isSome <;> cases fits row <;> rfl

/-- A row behind the others is under its key from then on, if nothing was there. -/
theorem Shows.append (h : Shows key rows at?) {row : ρ} (hfree : at? (key row) = none) :
    Shows key (rows ++ [row]) fun k => if key row = k then some row else at? k := by
  intro k
  rw [find?_append, h]
  -- Nothing was found under the key of the new row.
  by_cases hk : key row = k
  · rw [← hk, hfree]
    simp
  · simp [hk]

/-- What is under a key goes, and nothing else. -/
theorem Shows.delete (h : Shows key rows at?) (deleted : κ) :
    Shows key (rows.filter fun r => key r != deleted) fun k => if k = deleted then none else at? k := by
  intro k
  rw [find?_filter, h]

end Table

/-! ## Turns -/

variable {ρ : Type} {turn? : Event → Option (Option ρ)} {was : Option ρ}

/-- What there is once these events have happened to what was there: some events are turns, which say
what there is from then on, and the last of them decides. -/
def lastTurn (turn? : Event → Option (Option ρ)) (was : Option ρ) (events : List Event) : Option ρ :=
  ((events.filterMap turn?).getLast?).getD was

theorem lastTurn_cons (e : Event) (later : List Event) :
    lastTurn turn? was (e :: later) = lastTurn turn? ((turn? e).getD was) later := by
  unfold lastTurn
  rw [List.filterMap_cons]
  cases turn? e with
  | none => rfl
  | some turn => simp only [List.getLast?_cons, Option.getD_some]

theorem lastTurn_concat (events : List Event) (e : Event) :
    lastTurn turn? was (events ++ [e]) = (turn? e).getD (lastTurn turn? was events) := by
  unfold lastTurn
  rw [List.filterMap_append]
  cases h : turn? e with
  | none => simp [h]
  | some turn => simp [h]

end DeliveryStore
