import DeliveryStore.Host

/-!
# Remarks

A completed operation prints its note, if it has one, and nothing else. The headers of a group are
printed before its first note in a thread, and never again. Main statements:

* `Host.settle_eq` — what is settled has the outcome of the operation and prints its note;
* `Log.Thread.knows_announce`, `Log.Thread.announce_of_knows` — headers are printed once;
* `Log.Thread.Knows.remark` — what a thread has printed it knows from then on.
-/

namespace DeliveryStore

/-! ## Headers -/

namespace Log

variable {above : Option String} {depth : Nat} {printed names : List String} {t : Thread}
  {group other : String}

/-- The paths of the headers for the rest of a path below `above`. -/
def headers (above : Option String) : List String → List String
  | [] => []
  | name :: rest => below above name :: headers (some (below above name)) rest

/-- Printing headers forgets none of those that were printed. -/
theorem subset_announce (above : Option String) (depth : Nat) (printed names : List String) :
    printed ⊆ (announce above depth printed names).2 := by
  induction names generalizing above depth printed with
  | nil => exact fun _ h => h
  | cons name rest ih =>
    unfold announce
    dsimp only
    split
    · exact ih _ _ _
    · exact fun path h => ih _ _ _ (List.mem_append_left _ h)

/-- After headers have been printed, all of them have been. -/
theorem headers_subset_announce (above : Option String) (depth : Nat)
    (printed names : List String) :
    headers above names ⊆ (announce above depth printed names).2 := by
  induction names generalizing above depth printed with
  | nil => exact List.nil_subset _
  | cons name rest ih =>
    intro path hpath
    unfold announce
    dsimp only
    rcases List.mem_cons.1 hpath with rfl | hrest
    · -- The first header had been printed before, or is printed now.
      split
      · rename_i hprinted
        exact subset_announce _ _ _ _ (by simpa using hprinted)
      · exact subset_announce _ _ _ _ (by simp)
    · split
      · exact ih _ _ _ hrest
      · exact ih _ _ _ hrest

/-- Headers all of which have been printed are not printed again. -/
theorem announce_of_headers (h : headers above names ⊆ printed) :
    announce above depth printed names = ("", printed) := by
  induction names generalizing above depth with
  | nil => rfl
  | cons name rest ih =>
    have hfirst : printed.contains (below above name) = true := by
      simpa using h List.mem_cons_self
    unfold announce
    dsimp only
    rw [hfirst, if_pos rfl]
    exact ih fun path hpath => h (List.mem_cons_of_mem _ hpath)

/-- A thread that has printed the headers of a group. -/
def Thread.Knows (t : Thread) (group : String) : Prop :=
  headers none (components group) ⊆ t.printed

theorem Thread.knows_announce (t : Thread) (group : String) :
    (t.announce (some group)).2.Knows group :=
  headers_subset_announce _ _ _ _

theorem Thread.Knows.announce (h : t.Knows group) (other : Option String) :
    (t.announce other).2.Knows group := by
  cases other with
  | none => exact h
  | some other => exact fun path hpath => subset_announce _ _ _ _ (h hpath)

theorem Thread.announce_of_knows (h : t.Knows group) : t.announce (some group) = ("", t) := by
  have hnothing : Log.announce none 0 t.printed (components group) = ("", t.printed) :=
    announce_of_headers h
  simp only [Thread.announce, hnothing]

/-- Logs the note of an operation on a database, if it has one: what is printed, and the thread after
it. -/
def Thread.remark (t : Thread) (name : Option String) (note : Option (String × Note)) :
    String × Thread :=
  match note with
  | none => ("", t)
  | some (group, n) => t.write (Host.entry group name n)

theorem Thread.knows_remark (t : Thread) (name : Option String) (group : String) (n : Note) :
    (t.remark name (some (group, n))).2.Knows group := t.knows_announce group

theorem Thread.Knows.remark (h : t.Knows group) (name : Option String)
    (note : Option (String × Note)) : (t.remark name note).2.Knows group := by
  cases note with
  | none => exact h
  | some n => exact h.announce (some n.1)

/-- A note in a group whose headers have been printed leaves the thread as it was. -/
theorem Thread.Knows.remark_eq (h : t.Knows group) (name : Option String) (n : Note) :
    (t.remark name (some (group, n))).2 = t := by
  have hnothing := announce_of_knows h
  simp only [Thread.remark, Thread.write, Host.entry, hnothing]

end Log

/-- A completed operation prints its note and nothing else. -/
theorem Host.settle_eq {α : Type} (host : Host) (name : Option String) (c : Completion α) :
    host.settle name c =
      { outcome := c.outcome
        text := (host.log.remark name c.note).1
        host := { host with storage := c.storage, log := (host.log.remark name c.note).2 } } := by
  unfold settle Log.Thread.remark
  dsimp only
  cases c.note <;> rfl

/-- What is settled leaves the settings as they are. -/
@[simp] theorem Host.settle_settings {α : Type} (host : Host) (name : Option String)
    (c : Completion α) : (host.settle name c).host.settings = host.settings := by
  rw [settle_eq]

/-- What is settled gives no handle a number. -/
@[simp] theorem Host.settle_asked {α : Type} (host : Host) (name : Option String)
    (c : Completion α) : (host.settle name c).host.asked = host.asked := by
  rw [settle_eq]

end DeliveryStore
