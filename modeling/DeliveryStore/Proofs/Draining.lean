import DeliveryStore.Proofs.Accounting
import DeliveryStore.Proofs.Commuting
import DeliveryStore.Proofs.Lists
import Mathlib.Algebra.Order.Floor.Div

/-!
# Consumers

A consumer takes the messages of one recipient in batches: it fetches as many as it can carry and
acknowledges each of them, over and over, until nothing is fetched any more. This comes to an end
because acknowledging the beginning of a queue leaves exactly the rest of it. Main statements:

* `Mailbox.queue_filter`, `Mailbox.queue_without` — what is left of a queue when messages go;
* `Consumer.round` — what one round of a consumer comes to;
* `Consumer.drains_of_servesDesk` — by induction on the queue, all its rounds;
* `drained_in_batches` — a consumer empties its mailbox, and each message is fetched once and in order.
-/

namespace DeliveryStore

/-! ## Queues from which messages are taken -/

namespace Mailbox

variable {r : Name} {rows batch : List Message}

/-- What waits when rows have been left out is what waited, without these. -/
theorem queue_filter (p : Message → Bool) (r : Name) (rows : List Message) :
    queue r (rows.filter p) = (queue r rows).filter p := by
  have htrans : ∀ a b c : Message, before a b = true → before b c = true → before a c = true := by
    intro a b c hab hbc
    simp only [before, decide_eq_true_eq] at *
    exact String.le_trans hab hbc
  have htotal : ∀ a b : Message, (before a b || before b a) = true := by
    intro a b
    simp only [before, Bool.or_eq_true, decide_eq_true_eq]
    exact String.le_total a.createdAt b.createdAt
  have hswap : (rows.filter p).filter (·.recipient == r) = (rows.filter (·.recipient == r)).filter p := by
    rw [List.filter_filter, List.filter_filter]
    exact List.filter_congr fun m _ => Bool.and_comm _ _
  rw [queue, hswap, List.mergeSort_filter htrans htotal, ← queue]

/-- The rows without those of a recipient that have been taken. -/
def without (r : Name) (taken rows : List Message) : List Message :=
  rows.filter fun m => !taken.any fun t => key m == (t.id, r)

/-- The queues of others do not change when messages of one recipient are taken. -/
theorem filter_without {n : Name} (hn : n ≠ r) (taken rows : List Message) :
    (without r taken rows).filter (·.recipient == n) = rows.filter (·.recipient == n) := by
  rw [without, List.filter_filter]
  refine List.filter_congr fun m _ => ?_
  by_cases hm : m.recipient = n
  · have hkept : (taken.any fun t => key m == (t.id, r)) = false := by
      rw [List.any_eq_false]
      intro t _
      simp [key, hm, hn]
    simp [hm, hkept]
  · simp [hm]

/-- When the first messages of a queue have been taken, the rest of it is left. -/
theorem queue_without (hkeys : (rows.map key).Nodup) (n : Nat) :
    queue r (without r ((queue r rows).take n) rows) = (queue r rows).drop n := by
  rw [without, queue_filter]
  have hnodup : (queue r rows).Nodup := by
    rw [queue, List.nodup_mergeSort]
    exact (List.Nodup.of_map _ hkeys).filter _
  -- The messages in the queue are all for the recipient, so that their identifiers tell them apart.
  have hself : ∀ m ∈ queue r rows, key m = (m.id, r) := by
    intro m hm
    rw [key, (mem_queue.1 hm).2]
  have hsame : ∀ m ∈ queue r rows, ∀ t ∈ queue r rows, key m = (t.id, r) → m = t := by
    intro m hm t ht heq
    refine List.inj_on_of_nodup_map hkeys (mem_queue.1 hm).1 (mem_queue.1 ht).1 ?_
    rw [heq, hself t ht]
  generalize queue r rows = waiting at hnodup hself hsame
  have hcut := List.take_append_drop n waiting
  have hapart : ∀ m ∈ waiting.drop n, m ∉ waiting.take n := by
    rw [← hcut] at hnodup
    exact fun m hlate hearly => (List.disjoint_of_nodup_append hnodup) hearly hlate
  have hgone : (waiting.take n).filter
      (fun m => !(waiting.take n).any fun t => key m == (t.id, r)) = [] := by
    rw [List.filter_eq_nil_iff]
    intro m hm
    have htaken : ((waiting.take n).any fun t => key m == (t.id, r)) = true :=
      List.any_eq_true.2 ⟨m, hm, beq_iff_eq.2 (hself m (List.mem_of_mem_take hm))⟩
    simp [htaken]
  have hleft : (waiting.drop n).filter
      (fun m => !(waiting.take n).any fun t => key m == (t.id, r)) = waiting.drop n := by
    rw [List.filter_eq_self]
    intro m hm
    have hkept : ((waiting.take n).any fun t => key m == (t.id, r)) = false := by
      rw [List.any_eq_false]
      intro t ht heq
      have hmt := hsame m (List.mem_of_mem_drop hm) t (List.mem_of_mem_take ht) (beq_iff_eq.1 heq)
      exact hapart m hm (hmt ▸ ht)
    simp [hkept]
  calc waiting.filter (fun m => !(waiting.take n).any fun t => key m == (t.id, r))
      = (waiting.take n ++ waiting.drop n).filter
          (fun m => !(waiting.take n).any fun t => key m == (t.id, r)) := by rw [hcut]
    _ = waiting.drop n := by rw [List.filter_append, hgone, hleft, List.nil_append]

end Mailbox

/-! ## Consumers -/

/-- A consumer: the handle that it uses, whose messages it takes, and how many at a time. -/
structure Consumer where
  handle : String
  recipient : Name
  most : Int

namespace Consumer

/-- The call that looks for the next messages. -/
def fetch (c : Consumer) : Mailbox.Call := .fetch (.text c.recipient.text) (.int c.most)

/-- The call that acknowledges a message. -/
def acknowledge (c : Consumer) (m : Message) : Mailbox.Call :=
  .acknowledge (.bytes .fixed m.id.bytes) (.text c.recipient.text)

/-- The step of a session that makes a call for a consumer. -/
def step (c : Consumer) (call : Mailbox.Call) : Step := .call c.handle (.mailbox call)

/-- A consumer empties its mailbox in rounds: in each of them it fetches messages and acknowledges
them all, and it stops when nothing is fetched. The batches are what it fetched, round by round. -/
inductive Drains (c : Consumer) : Session → List (List Message) → Session → Prop where
  | done {s : Session} (hf : (s.step (c.step c.fetch)).1.outcome = .done (.reply (.rows []))) :
      c.Drains s [] (s.step (c.step c.fetch)).2
  | round {s after : Session} {batch : List Message} {later : List (List Message)}
      (hb : batch ≠ [])
      (hf : (s.step (c.step c.fetch)).1.outcome = .done (.reply (.rows (batch.map .message))))
      (ha : (s.step (c.step c.fetch)).2.outcomes (batch.map fun m => c.step (c.acknowledge m)) =
        batch.map fun _ => .done (.reply .nothing))
      (hl : c.Drains
        ((s.step (c.step c.fetch)).2.run (batch.map fun m => c.step (c.acknowledge m))).2
        later after) :
      c.Drains s (batch :: later) after

variable {c : Consumer} {s : Session} {k : Desk} {rows : List Message}

/-- There is one way only in which a consumer empties its mailbox. -/
theorem Drains.unique {batches batches' : List (List Message)} {after after' : Session}
    (h : c.Drains s batches after) (h' : c.Drains s batches' after') :
    batches' = batches ∧ after' = after := by
  induction h generalizing batches' after' with
  | done hf =>
    cases h' with
    | done => exact ⟨rfl, rfl⟩
    | round hb hf' =>
      rw [hf] at hf'
      simp only [Outcome.done.injEq, Result.reply.injEq, Reply.rows.injEq] at hf'
      exact absurd (List.map_eq_nil_iff.1 hf'.symm) hb
  | @round s after batch later hb hf ha hl ih =>
    cases h' with
    | done hf' =>
      rw [hf] at hf'
      simp only [Outcome.done.injEq, Result.reply.injEq, Reply.rows.injEq] at hf'
      exact absurd (List.map_eq_nil_iff.1 hf') hb
    | @round _ _ batch' later' hb' hf' ha' hl' =>
      rw [hf] at hf'
      simp only [Outcome.done.injEq, Result.reply.injEq, Reply.rows.injEq] at hf'
      obtain rfl : batch = batch' := List.map_injective_iff.2 (fun _ _ => Row.message.inj) hf'
      obtain ⟨rfl, rfl⟩ := ih hl'
      exact ⟨rfl, rfl⟩

/-! ## One round -/

/-- At the desk of a server a consumer fetches the beginning of the queue. -/
theorem serve_fetch (hr : k.role = .server) (hd : k.data.messages = some rows)
    (hone : 1 ≤ c.most) (hmost : c.most ≤ 2 ^ 63 - 1) :
    k.serve (Desk.mail c.fetch) =
      (.done (.reply (.rows
          (((Mailbox.queue c.recipient rows).take c.most.toNat).map .message))),
        k.withMessages rows) := by
  have hlimit : Argument.limit (.int c.most) = .ok (some c.most.toNat) := by
    simp only [Argument.limit, hone, if_true]
  have hcheck := Mailbox.check_fetch_text k.now c.recipient hlimit
  have hgreatest : c.most.toNat ≤ Mailbox.greatestLimit := by
    have : (Mailbox.greatestLimit : Int) = 2 ^ 63 - 1 := by decide
    omega
  have hon : c.fetch.on k.readOnly k.now rows =
      (.ok (.rows ((Mailbox.queue c.recipient rows).take c.most.toNat)), rows) := by
    simp only [Mailbox.Call.on, fetch, hcheck, Mailbox.Request.writes, Bool.false_and,
      Bool.false_eq_true, if_false, Mailbox.Request.apply, hgreatest, if_true]
  rw [Desk.serve_mail hr hd, hon]
  rfl

/-- At a desk that can be written an acknowledgement deletes the message. -/
theorem serve_acknowledge (hr : k.role = .server) (hw : k.readOnly = false)
    (hd : k.data.messages = some rows) (m : Message) :
    k.serve (Desk.mail (c.acknowledge m)) =
      (.done (.reply .nothing), k.withMessages (Mailbox.without c.recipient [m] rows)) := by
  have hid : Argument.identifier (.bytes .fixed m.id.bytes) "message_id" = .ok m.id := by
    simp only [Argument.identifier, Identifier.ofBytes?_bytes]
  have hcheck : (c.acknowledge m).check k.now = .ok (.acknowledge m.id c.recipient) := by
    simp only [acknowledge, Mailbox.Call.check, hid, Argument.name_text, bind, Except.bind, pure,
      Except.pure, Except.map, Mailbox.Request.ofBound]
  have hrows : Mailbox.without c.recipient [m] rows =
      rows.filter (Mailbox.key · != (m.id, c.recipient)) := by
    simp only [Mailbox.without, List.any_cons, List.any_nil, Bool.or_false]
    rfl
  rw [Desk.serve_mail hr hd, hrows]
  simp only [Mailbox.Call.on, hcheck, hw, Bool.and_false, Bool.false_eq_true, if_false,
    Mailbox.Request.apply]
  rfl

/-- Acknowledging messages one by one deletes them all. -/
theorem run_acknowledgements (hr : k.role = .server) (hw : k.readOnly = false)
    (hd : k.data.messages = some rows) (batch : List Message) :
    k.run (batch.map fun m => Desk.mail (c.acknowledge m)) =
      (batch.map fun _ => .done (.reply .nothing),
        k.withMessages (Mailbox.without c.recipient batch rows)) := by
  induction batch generalizing k rows with
  | nil =>
    have hall : Mailbox.without c.recipient [] rows = rows := by simp [Mailbox.without]
    have hsame : k.withMessages rows = k := by
      unfold Desk.withMessages
      rw [← hd]
    rw [hall, hsame]
    rfl
  | cons m rest ih =>
    have htwice : Mailbox.without c.recipient rest (Mailbox.without c.recipient [m] rows) =
        Mailbox.without c.recipient (m :: rest) rows := by
      simp only [Mailbox.without, List.filter_filter, List.any_cons, List.any_nil, Bool.or_false,
        Bool.not_or, Bool.and_comm]
    rw [List.map_cons, Desk.run, serve_acknowledge hr hw hd,
      ih (k := k.withMessages (Mailbox.without c.recipient [m] rows)) hr hw rfl, htwice]
    rfl

/-- What one round of a consumer comes to: it fetches the beginning of the queue, all its
acknowledgements succeed, and the messages that it has fetched are gone then. -/
theorem round (hs : s.ServesDesk c.handle k) (hr : k.role = .server) (hw : k.readOnly = false)
    (hd : k.data.messages = some rows) (hone : 1 ≤ c.most) (hmost : c.most ≤ 2 ^ 63 - 1) :
    let batch := (Mailbox.queue c.recipient rows).take c.most.toNat
    let fetched := s.step (c.step c.fetch)
    let steps := batch.map fun m => c.step (c.acknowledge m)
    fetched.1.outcome = .done (.reply (.rows (batch.map .message))) ∧
      fetched.2.outcomes steps = batch.map (fun _ => .done (.reply .nothing)) ∧
      fetched.2.ServesDesk c.handle (k.withMessages rows) ∧
      (fetched.2.run steps).2.ServesDesk c.handle
        (k.withMessages (Mailbox.without c.recipient batch rows)) := by
  intro batch fetched steps
  obtain ⟨houtcome, hfetched⟩ := hs.step (Desk.mail c.fetch)
  rw [serve_fetch hr hd hone hmost] at houtcome hfetched
  have hsteps : steps =
      (batch.map fun m => Desk.mail (c.acknowledge m)).map (·.step c.handle) := by
    rw [List.map_map]
    rfl
  have hrun := hfetched.run (batch.map fun m => Desk.mail (c.acknowledge m))
  rw [← hsteps, run_acknowledgements (k := k.withMessages rows) hr hw rfl] at hrun
  exact ⟨houtcome, hrun.1, hfetched, hrun.2⟩

/-! ## All rounds -/

/-- One batch more is needed than for what the first batch leaves. -/
theorem ceilDiv_sub_add_one {n most : Nat} (hn : 0 < n) (hmost : 0 < most) :
    (n - most) ⌈/⌉ most + 1 = n ⌈/⌉ most := by
  rw [Nat.ceilDiv_eq_add_pred_div, Nat.ceilDiv_eq_add_pred_div]
  rcases Nat.lt_or_ge most n with hmore | hall
  · rw [← Nat.add_div_right _ hmost]
    congr 1
    omega
  · rw [Nat.sub_eq_zero_of_le hall, Nat.zero_add, Nat.div_eq_of_lt (by omega)]
    exact (Nat.div_eq_of_lt_le (by omega) (by omega)).symm

/-- A consumer of a server that can be written empties its mailbox: its batches are the queue in
pieces, none larger than it can carry, and as few as there can be. In the end nothing waits for the
recipient, and for others what waited for them. -/
theorem drains_of_servesDesk (hs : s.ServesDesk c.handle k) (hr : k.role = .server)
    (hw : k.readOnly = false) (hd : k.data.messages = some rows)
    (hkeys : (rows.map Mailbox.key).Nodup) (hone : 1 ≤ c.most) (hmost : c.most ≤ 2 ^ 63 - 1) :
    ∃ batches after rows', c.Drains s batches after ∧
      batches.flatten = Mailbox.queue c.recipient rows ∧
      batches.length = (Mailbox.queue c.recipient rows).length ⌈/⌉ c.most.toNat ∧
      (∀ batch ∈ batches, batch ≠ [] ∧ batch.length ≤ c.most.toNat) ∧
      after.ServesDesk c.handle (k.withMessages rows') ∧
      Mailbox.queue c.recipient rows' = [] ∧ SameQueuesFor (· ≠ c.recipient) rows' rows := by
  -- The induction is on the length of the queue, which each round but the last makes shorter.
  induction hn : (Mailbox.queue c.recipient rows).length using Nat.strongRecOn
    generalizing s k rows with
  | ind n ih =>
    obtain ⟨hfetch, hacknowledge, hfetched, hround⟩ := round hs hr hw hd hone hmost
    by_cases hempty : Mailbox.queue c.recipient rows = []
    · rw [hempty, List.take_nil, List.map_nil] at hfetch
      rw [hempty] at hn ⊢
      refine ⟨[], _, rows, .done hfetch, rfl, ?_, by simp, hfetched, hempty, fun _ _ => rfl⟩
      rw [← hn, List.length_nil, List.length_nil, zero_ceilDiv]
    have hbatch : (Mailbox.queue c.recipient rows).take c.most.toNat ≠ [] := by
      rw [Ne, List.take_eq_nil_iff, not_or]
      exact ⟨by omega, hempty⟩
    have hkept : ((Mailbox.without c.recipient
        ((Mailbox.queue c.recipient rows).take c.most.toNat) rows).map Mailbox.key).Nodup :=
      hkeys.sublist (List.filter_sublist.map _)
    have hrest := Mailbox.queue_without (r := c.recipient) hkeys c.most.toNat
    have hpositive : 0 < (Mailbox.queue c.recipient rows).length := List.length_pos_iff.2 hempty
    obtain ⟨later, after, rows', hdrains, hflatten, hlength, hlarge, hdesk, hnone, hothers⟩ :=
      ih _ (by rw [hrest, List.length_drop]; omega) hround hr hw rfl hkept rfl
    rw [hrest] at hflatten hlength
    refine ⟨_ :: later, after, rows', .round hbatch hfetch hacknowledge hdrains, ?_, ?_, ?_, hdesk,
      hnone, ?_⟩
    · rw [List.flatten_cons, hflatten, List.take_append_drop]
    · rw [List.length_cons, hlength, List.length_drop, hn]
      exact ceilDiv_sub_add_one (by omega) (by omega)
    · intro batch hmem
      rcases List.mem_cons.1 hmem with rfl | hmem
      · exact ⟨hbatch, List.length_take_le _ _⟩
      · exact hlarge batch hmem
    · intro n hne
      rw [hothers n hne, Mailbox.filter_without hne]

end Consumer

/-- A consumer of an initialised server, which takes from one message to the greatest limit at a time,
empties its mailbox, and in one way only. It fetches what a fetch without a limit would have returned
at the start, each message once and in order, in as few batches as there can be. In the end no message
waits for its recipient, and what the others would fetch has not changed. -/
theorem drained_in_batches {s : Session} {name : String} {d : Database} (hs : s.Initialised name d)
    (r : Name) {most : Int} (hone : 1 ≤ most) (hmost : most ≤ 2 ^ 63 - 1) :
    let c : Consumer := ⟨name, r, most⟩
    let ask (s : Session) (call : Mailbox.Call) : Outcome :=
      (s.step (.call name (.mailbox call))).1.outcome
    ∃ (batches : List (List Message)) (after : Session),
      (∀ batches' after', c.Drains s batches' after' ↔ batches' = batches ∧ after' = after) ∧
      (∀ batch ∈ batches, batch ≠ [] ∧ batch.length ≤ most.toNat) ∧
      (batches.flatten.map (·.id)).Nodup ∧
      ask s (.fetch (.text r.text) .null) = .done (.reply (.rows (batches.flatten.map .message))) ∧
      ask s (.pendingCount (.text r.text)) = .done (.reply (.count batches.flatten.length)) ∧
      batches.length = batches.flatten.length ⌈/⌉ most.toNat ∧
      ask after (.pendingCount (.text r.text)) = .done (.reply (.count 0)) ∧
      ∀ n : Name, n ≠ r → ∀ limit : Value,
        ask after (.fetch (.text n.text) limit) = ask s (.fetch (.text n.text) limit) := by
  intro c ask
  have hdesk := hs.servesDesk
  obtain ⟨rows, hrows⟩ : ∃ rows, d.messages = some rows :=
    Option.isSome_iff_exists.1 (hs.tables .mailbox (by decide))
  obtain ⟨h, -, -, hview⟩ := hs.handle
  have hkeys : (rows.map Mailbox.key).Nodup :=
    ((hs.reachable.wellKept hview).messages rows hrows).keys
  obtain ⟨batches, after, rows', hdrains, hflatten, hlength, hlarge, hafter, hnone, hothers⟩ :=
    c.drains_of_servesDesk hdesk rfl rfl hrows hkeys hone hmost
  have hname : ∀ n : Name, (Value.text n.text).name? = some n := fun n => Name.of?_eq_some_iff.2 rfl
  have hpending : ∀ {s : Session} {k : Desk} {rows : List Message}, s.ServesDesk name k →
      k.role = .server → k.data.messages = some rows →
      ask s (.pendingCount (.text r.text)) =
        .done (.reply (.count (Mailbox.queue r rows).length)) := by
    intro s k rows hdesk hr hd
    rw [Mailbox.length_queue]
    exact hdesk.replies hr hd (Mailbox.check_pendingCount_of_name (hname r) _) rfl rfl
  refine ⟨batches, after, ?unique, hlarge, ?nodup, ?fetched, ?counted, ?length, ?empty, ?others⟩
  case unique =>
    intro batches' after'
    constructor
    · exact hdrains.unique
    · rintro ⟨rfl, rfl⟩
      exact hdrains
  case nodup =>
    -- In a queue all rows have the same recipient, so that their identifiers are their keys.
    rw [hflatten]
    refine List.Nodup.of_map (fun id => (id, r)) ?_
    have hkey : (Mailbox.queue r rows).map Mailbox.key =
        ((Mailbox.queue r rows).map (·.id)).map fun id => (id, r) := by
      rw [List.map_map]
      refine List.map_congr_left fun m hm => ?_
      rw [Mailbox.key, (Mailbox.mem_queue.1 hm).2]
      rfl
    rw [← hkey, Mailbox.queue]
    have hsorted := (List.mergeSort_perm (rows.filter (·.recipient == r)) Mailbox.before).map Mailbox.key
    exact hsorted.nodup_iff.2 (hkeys.sublist (List.filter_sublist.map _))
  case fetched =>
    rw [hflatten]
    have hcheck : (Mailbox.Call.fetch (.text r.text) .null).check s.host.now = .ok (.fetch r none) :=
      Mailbox.check_fetch_text _ r rfl
    exact hdesk.replies rfl hrows hcheck rfl rfl
  case counted =>
    rw [hflatten]
    exact hpending hdesk rfl hrows
  case length =>
    rw [hlength, hflatten]
  case empty =>
    have hcount := hpending hafter rfl rfl
    rwa [hnone] at hcount
  case others =>
    intro n hn limit
    have hother : ∀ m ∈ (Mailbox.Call.fetch (.text n.text) limit).addressees, m ≠ r := by
      simpa [Mailbox.Call.addressees, hname] using hn
    have hsame := (Mailbox.Call.on_congr (.fetch (.text n.text) limit) false s.host.now hothers
      hother).1
    have hthen := (hafter.step (Desk.mail (.fetch (.text n.text) limit))).1
    have hnow := (hdesk.step (Desk.mail (.fetch (.text n.text) limit))).1
    rw [Desk.serve_mail rfl rfl] at hthen
    rw [Desk.serve_mail rfl hrows] at hnow
    refine hthen.trans (Eq.trans ?_ hnow.symm)
    exact congrArg (fun e => Outcome.of .reply (e.map (·.map .message))) hsame

/-- Three messages for one recipient, taken two at a time, and one of them for another recipient too. -/
theorem drained_in_batches_of_three :
    let id (n : UInt8) : Value := .bytes .fixed (List.replicate 16 n)
    let content : Value := .bytes .fixed [1]
    let posts : List Errand := ([.fanOut (id 1) (.list [.text "ann", .text "bob"]) content .null,
      .enqueue (id 2) (.text "ann") content .null,
      .enqueue (id 3) (.text "ann") content .null] : List Mailbox.Call).map fun c => .call (.mailbox c)
    let begun := ((Session.start []).run [.opening "db"
        { role := .server, address := some (.text "sqlite+aiosqlite:///:memory:") },
      .initialise "db"]).2
    let s := (begun.run (posts.map (·.step "db"))).2
    let r : Name := ⟨"ann", by decide⟩
    let c : Consumer := ⟨"db", r, 2⟩
    let ask (s : Session) (call : Mailbox.Call) : Outcome :=
      (s.step (.call "db" (.mailbox call))).1.outcome
    (∃ d, s.Initialised "db" d) ∧ (1 : Int) ≤ 2 ∧ (2 : Int) ≤ 2 ^ 63 - 1 ∧
      (ask s (.pendingCount (.text "ann"))).number = 3 ∧
      ∃ (batches : List (List Message)) (after : Session),
        (∀ batches' after', c.Drains s batches' after' ↔ batches' = batches ∧ after' = after) ∧
        (∀ batch ∈ batches, batch ≠ [] ∧ batch.length ≤ (2 : Int).toNat) ∧
        (batches.flatten.map (·.id)).Nodup ∧
        ask s (.fetch (.text r.text) .null) =
          .done (.reply (.rows (batches.flatten.map .message))) ∧
        ask s (.pendingCount (.text r.text)) = .done (.reply (.count batches.flatten.length)) ∧
        batches.length = batches.flatten.length ⌈/⌉ (2 : Int).toNat ∧
        ask after (.pendingCount (.text r.text)) = .done (.reply (.count 0)) ∧
        ∀ n : Name, n ≠ r → ∀ limit : Value,
          ask after (.fetch (.text n.text) limit) = ask s (.fetch (.text n.text) limit) := by
  intro id content posts begun s r c ask
  have hbegun : begun.Initialised "db" { keyPackages := some [], messages := some [] } :=
    Session.initialised_in_memory
  obtain ⟨d, hs⟩ : ∃ d, s.Initialised "db" d := hbegun.run posts
  have hcount : (ask s (.pendingCount (.text "ann"))).number = 3 := by decide +kernel
  -- How the server came to be initialised does not matter any more.
  clear_value s
  have hone : (1 : Int) ≤ 2 := by decide
  have hmost : (2 : Int) ≤ 2 ^ 63 - 1 := by decide
  exact ⟨⟨d, hs⟩, hone, hmost, hcount, drained_in_batches hs r hone hmost⟩

end DeliveryStore
