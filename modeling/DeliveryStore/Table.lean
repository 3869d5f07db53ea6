import DeliveryStore.Failure

/-!
# Tables

A table is the list of its rows in the order in which they were written. The three stores each keep
one. This module has what they share: what a request replies, what the log says of it, why a table
can refuse it, and how rows are written under a key.
-/

namespace DeliveryStore

/-- What a request replies, over rows of one type. -/
inductive Reply (ρ : Type) where
  | nothing
  | row (r : ρ)
  | rows (rs : List ρ)
  | count (n : Nat)
deriving DecidableEq, Repr

/-- A reply with its rows seen as rows of another type. -/
def Reply.map {ρ σ : Type} (f : ρ → σ) : Reply ρ → Reply σ
  | nothing => .nothing
  | row r => .row (f r)
  | rows rs => .rows (rs.map f)
  | count n => .count n

/-- What the log says of a request: the operation, and what it was addressed to or came to. -/
structure Note where
  operation : String
  details : List (String × String) := []
deriving DecidableEq, Repr

/-- What a request comes to: the rows after it, the reply, and the note if it is one to log. -/
structure Effect (ρ : Type) where
  rows : List ρ
  reply : Reply ρ
  note : Option Note := none

/-- Why a table refuses a request: a key is taken, nothing was found, a limit is beyond what the
database counts, or a field or row is none that it can take. -/
inductive Refusal where
  | taken
  | absent (what : Absence)
  | limitTooLarge
  | unusable (why : Unusable)
deriving DecidableEq, Repr

namespace Table

variable {ρ κ : Type} [BEq κ]

/-- The row under a key. -/
def find? (key : ρ → κ) (k : κ) (rows : List ρ) : Option ρ := rows.find? (key · == k)

/-- Whether a key is in use. -/
def holds (key : ρ → κ) (rows : List ρ) (k : κ) : Bool := rows.any (key · == k)

/-- How much room all rows of a table take, if the table is there. -/
def room (size : ρ → Nat) (rows : Option (List ρ)) : Nat :=
  (rows.getD []).foldr (fun r sum => size r + sum) 0

/-- Why new rows are refused: the first that cannot be written has a key in use, or is too big. -/
def refusal? (key : ρ → κ) (fits : ρ → Bool) (rows new : List ρ) : Option Refusal :=
  new.findSome? fun r =>
    if holds key rows (key r) then some .taken
    else if fits r then none
    else some (.unusable (.storage .tooBig))

/-- Writes new rows behind the others, all of them or, if one is refused, none. -/
def insert (key : ρ → κ) (fits : ρ → Bool) (rows new : List ρ) : Except Refusal (List ρ) :=
  match refusal? key fits rows new with
  | some r => .error r
  | none => .ok (rows ++ new)

variable {key : ρ → κ} {fits : ρ → Bool} {rows new rows' : List ρ}

theorem refusal?_eq_none_iff :
    refusal? key fits rows new = none ↔
      ∀ r ∈ new, holds key rows (key r) = false ∧ fits r = true := by
  unfold refusal?
  rw [List.findSome?_eq_none_iff]
  refine forall_congr' fun r => forall_congr' fun _ => ?_
  cases holds key rows (key r) <;> cases fits r <;> simp

/-- The first that is found depends on what is found of each element. -/
theorem findSome?_congr {α β : Type} {f g : α → Option β} {l : List α} (h : ∀ a ∈ l, f a = g a) :
    l.findSome? f = l.findSome? g := by
  induction l with
  | nil => rfl
  | cons a rest ih =>
    rw [List.findSome?_cons, List.findSome?_cons, h a List.mem_cons_self,
      ih fun b hb => h b (List.mem_cons_of_mem _ hb)]

/-- Where the same keys of new rows are in use, the rows are refused for the same reason. -/
theorem refusal?_congr (h : ∀ r ∈ new, holds key rows (key r) = holds key rows' (key r)) :
    refusal? key fits rows new = refusal? key fits rows' new :=
  findSome?_congr fun r hr => by rw [h r hr]

/-- New rows are written behind the others exactly if no key is in use and each is small enough. -/
theorem insert_eq_ok_iff :
    insert key fits rows new = .ok rows' ↔
      (∀ r ∈ new, holds key rows (key r) = false ∧ fits r = true) ∧ rows' = rows ++ new := by
  rw [← refusal?_eq_none_iff]
  unfold insert
  cases refusal? key fits rows new <;> simp [eq_comm]

/-- Rows are refused because a key is in use, or because one is too big. -/
theorem refusal_of_insert {refusal : Refusal} (h : insert key fits rows new = .error refusal) :
    (refusal = .taken ∧ ∃ r ∈ new, holds key rows (key r) = true) ∨
      refusal = .unusable (.storage .tooBig) ∧ ∃ r ∈ new, fits r = false := by
  have hsome : refusal? key fits rows new = some refusal := by
    unfold insert at h
    split at h
    · cases h
      assumption
    · cases h
  obtain ⟨r, hr, hrefused⟩ := List.exists_of_findSome?_eq_some hsome
  split at hrefused
  · rename_i hholds
    cases hrefused
    exact .inl ⟨rfl, r, hr, hholds⟩
  · split at hrefused
    · cases hrefused
    · rename_i hfits
      cases hrefused
      exact .inr ⟨rfl, r, hr, by simpa using hfits⟩

/-- Rows are never refused as what cannot be handed over. -/
theorem insert_ne_unfit (what : Unfit) :
    insert key fits rows new ≠ .error (.unusable (.unfit what)) := by
  intro h
  rcases refusal_of_insert h with ⟨heq, -⟩ | ⟨heq, -⟩ <;> cases heq

/-- Where all new rows are small enough, a key in use is what they are refused for. -/
theorem insert_eq_taken (hfits : ∀ r ∈ new, fits r = true)
    (htaken : ∃ r ∈ new, holds key rows (key r) = true) :
    insert key fits rows new = .error .taken := by
  obtain ⟨r, hr, hholds⟩ := htaken
  cases h : insert key fits rows new with
  | ok rows' => simp [(insert_eq_ok_iff.1 h).1 r hr] at hholds
  | error refusal =>
    rcases refusal_of_insert h with ⟨rfl, -⟩ | ⟨-, q, hq, hbig⟩
    · rfl
    · simp [hfits q hq] at hbig

end Table

end DeliveryStore
