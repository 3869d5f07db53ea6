/-!
# Leaving actions out

Some actions of a run are hidden from an observer. If every hidden action keeps what the observer can
tell, and every other action comes to the same where nothing else can be told, then the observer sees
what would be seen if the hidden actions had been left out. Main statements:

* `Unwinds` — a relation between states that hidden actions keep on one side, and others on both;
* `Unwinds.purge` — what is seen of a run is the run without the hidden actions.
-/

namespace DeliveryStore

variable {σ α β : Type}

/-- What actions come to one after the other. -/
def outputs (step : σ → α → β × σ) (s : σ) : List α → List β
  | [] => []
  | a :: rest => (step s a).1 :: outputs step (step s a).2 rest

/-- Of what actions come to that of the actions which are not hidden. -/
def seen (hidden : α → Bool) (actions : List α) (results : List β) : List β :=
  ((actions.zip results).filter fun m => !hidden m.1).map (·.2)

theorem seen_cons (hidden : α → Bool) (a : α) (b : β) (actions : List α) (results : List β) :
    seen hidden (a :: actions) (b :: results) =
      if hidden a then seen hidden actions results else b :: seen hidden actions results := by
  unfold seen
  rw [List.zip_cons_cons, List.filter_cons]
  cases hidden a <;> rfl

/-- A relation between a state and one in which hidden actions have been left out, given the actions
that are still to come. -/
structure Unwinds (step : σ → α → β × σ) (hidden : α → Bool) (R : List α → σ → σ → Prop) :
    Prop where
  hides : ∀ {a rest s s'}, hidden a = true → R (a :: rest) s s' → R rest (step s a).2 s'
  shows : ∀ {a rest s s'}, hidden a = false → R (a :: rest) s s' →
    (step s a).1 = (step s' a).1 ∧ R rest (step s a).2 (step s' a).2

variable {step : σ → α → β × σ} {hidden : α → Bool} {R : List α → σ → σ → Prop}

/-- What is seen of a run is what the actions that are not hidden come to by themselves. -/
theorem Unwinds.purge (h : Unwinds step hidden R) {actions : List α} {s s' : σ}
    (hs : R actions s s') :
    seen hidden actions (outputs step s actions) =
      outputs step s' (actions.filter fun a => !hidden a) := by
  induction actions generalizing s s' with
  | nil => rfl
  | cons a rest ih =>
    rw [outputs, seen_cons, List.filter_cons]
    cases ha : hidden a with
    | true => exact ih (h.hides ha hs)
    | false =>
      obtain ⟨hresult, hafter⟩ := h.shows ha hs
      simp only [Bool.false_eq_true, if_false, Bool.not_false, if_true, outputs]
      rw [hresult, ih hafter]

end DeliveryStore
