import DeliveryStore.Proofs.Queues

/-!
# Fan-out

A fan-out writes one row for each recipient, or none at all. The order in which the rows of different
recipients stand in the table shows nowhere: `SameQueues` relates tables that differ in that order
only, `Desk.Alike` the desks over them, and alike desks answer alike. Main statements:

* `Desk.Alike.serve`, `Desk.Alike.run` — alike desks answer alike and stay alike;
* `Desk.run_enqueues` — single insertions under free keys, in any order;
* `fanOut_refines_enqueues` — a fan-out fails if one recipient has the message, and otherwise cannot
  be told from single insertions.
-/

namespace DeliveryStore

/-! ## Tables with the same queues -/

/-- Tables in which the same messages wait for every recipient, written in the same order. -/
def SameQueues (rows rows' : List Message) : Prop :=
  ∀ r : Name, rows.filter (·.recipient == r) = rows'.filter (·.recipient == r)

namespace SameQueues

variable {rows rows' : List Message}

theorem append (h : SameQueues rows rows') {new new' : List Message} (hn : SameQueues new new') :
    SameQueues (rows ++ new) (rows' ++ new') := by
  intro r
  rw [List.filter_append, List.filter_append, h r, hn r]

end SameQueues

/-! ## Alike data and desks -/

/-- Data of a server that differ at most in how the queues are interleaved. -/
structure Database.Alike (d d' : Database) : Prop where
  keyPackages : d.keyPackages = d'.keyPackages
  users : d.users = d'.users
  messages : ∃ rows rows', d.messages = some rows ∧ d'.messages = some rows' ∧
    SameQueues rows rows'

/-- Desks of a server over alike data, which may be used in the same way at the same time. -/
structure Desk.Alike (k k' : Desk) : Prop where
  role : k.role = .server
  role_eq : k.role = k'.role
  readOnly_eq : k.readOnly = k'.readOnly
  now_eq : k.now = k'.now
  data : k.data.Alike k'.data

namespace Desk

variable {k k' : Desk}

/-- Alike desks are alike for all recipients, and desks that are so are alike. -/
theorem alike_iff : k.Alike k' ↔ k.AlikeFor (fun _ => True) k' := by
  constructor
  · rintro ⟨hrole, hrole', hreadOnly, hnow, hpackages, husers, rows, rows', hrows, hrows', hsame⟩
    exact ⟨hrole, hrole', hreadOnly, hnow, hpackages, husers, rows, rows', hrows, hrows',
      fun n _ => hsame n⟩
  · rintro ⟨hrole, hrole', hreadOnly, hnow, hpackages, husers, rows, rows', hrows, hrows', hsame⟩
    exact ⟨hrole, hrole', hreadOnly, hnow, hpackages, husers, rows, rows', hrows, hrows',
      fun n => hsame n trivial⟩

/-- An errand comes to the same at alike desks, and they stay alike. -/
theorem Alike.serve (h : k.Alike k') (e : Errand) :
    (k.serve e).1 = (k'.serve e).1 ∧ (k.serve e).2.Alike (k'.serve e).2 := by
  obtain ⟨houtcome, hafter⟩ := (alike_iff.1 h).serve (e := e) fun _ _ _ _ => trivial
  exact ⟨houtcome, alike_iff.2 hafter⟩

/-- Errands come to the same at alike desks. -/
theorem Alike.run (h : k.Alike k') (errands : List Errand) :
    (k.run errands).1 = (k'.run errands).1 := by
  induction errands generalizing k k' with
  | nil => rfl
  | cons e rest ih =>
    obtain ⟨houtcome, hafter⟩ := h.serve e
    unfold Desk.run
    rw [houtcome, ih hafter]

end Desk

/-! ## Insertions one by one -/

namespace Desk

variable {k : Desk} {rows : List Message} {id content createdAt recipients : Value}
  {key : Identifier} {payload : Payload} {time : String} {given order : List Name}

/-- The desk with another table of messages. -/
def withMessages (k : Desk) (rows : List Message) : Desk :=
  { k with data := { k.data with messages := some rows } }

/-- The errand that inserts one message for one recipient. -/
def enqueueFor (id content createdAt : Value) (n : Name) : Errand :=
  .call (.mailbox (.enqueue id (.text n.text) content createdAt))

/-- The desk of a server that can write its messages, and arguments that pass their checks there. -/
structure Posts (k : Desk) (rows : List Message) (id content createdAt : Value) (key : Identifier)
    (payload : Payload) (time : String) : Prop where
  role : k.role = .server
  writable : k.readOnly = false
  rows_eq : k.data.messages = some rows
  id_ok : Argument.identifier id "message_id" = .ok key
  content_ok : Argument.payload content "content" = .ok (.ok payload)
  time_ok : Argument.stamp k.now createdAt = .ok time

/-- A call to the mailbox that passes its checks is carried out on the table, or refused by it. -/
theorem Posts.serve (hk : k.Posts rows id content createdAt key payload time)
    {c : Mailbox.Call} {r : Mailbox.Request} (hc : c.check k.now = .ok r) :
    k.serve (.call (.mailbox c)) =
      match r.apply rows with
      | .ok e => (.done (.reply (e.reply.map .message)), k.withMessages e.rows)
      | .error refusal => (.failed ((Obstacle.refusal refusal).failure c.operation), k) := by
  have hallowed : ¬(r.writes && k.readOnly) = true := by simp [hk.writable]
  have hanswer := Database.answer_mailbox k.readOnly k.now hk.role hk.rows_eq c
  rw [hc] at hanswer
  dsimp only at hanswer
  rw [if_neg hallowed] at hanswer
  cases happly : r.apply rows with
  | ok e =>
    rw [happly] at hanswer
    simp only [Desk.serve, hanswer]
    rfl
  | error refusal =>
    rw [happly] at hanswer
    simp only [Desk.serve, hanswer]
    rfl

/-- A message under a free key is inserted, if it is small enough for a row. -/
theorem Posts.enqueue (hk : k.Posts rows id content createdAt key payload time) {n : Name}
    (hfits : Message.fits ⟨key, n, payload, time⟩ = true)
    (hn : Table.holds Mailbox.key rows (key, n) = false) :
    k.serve (enqueueFor id content createdAt n) =
      (.done (.reply (.row (.message ⟨key, n, payload, time⟩))),
        k.withMessages (rows ++ [⟨key, n, payload, time⟩])) := by
  have hname := Argument.name_text n "recipient"
  have hcheck : (Mailbox.Call.enqueue id (.text n.text) content createdAt).check k.now =
      .ok (.enqueue ⟨key, n, payload, time⟩) := by
    simp only [Mailbox.Call.check, hk.id_ok, hname, hk.content_ok, hk.time_ok, bind, Except.bind,
      pure, Except.pure, Mailbox.Request.ofBound]
  have hinsert : Table.insert Mailbox.key Message.fits rows [⟨key, n, payload, time⟩] =
      .ok (rows ++ [⟨key, n, payload, time⟩]) := by
    refine Table.insert_eq_ok_iff.2 ⟨fun m hm => ?_, rfl⟩
    rw [List.mem_singleton.1 hm]
    exact ⟨hn, hfits⟩
  have happly : (Mailbox.Request.enqueue ⟨key, n, payload, time⟩).apply rows = .ok
      { rows := rows ++ [⟨key, n, payload, time⟩]
        reply := .row ⟨key, n, payload, time⟩
        note := some ⟨"ENQUEUE", [("message_id", key.hex), ("recipient", n.text)]⟩ } := by
    simp only [Mailbox.Request.apply, hinsert]
  rw [enqueueFor, hk.serve hcheck, happly]
  rfl

/-- Messages under free keys are inserted one by one, if each is small enough for a row. -/
theorem run_enqueues (hk : k.Posts rows id content createdAt key payload time)
    (ho : order.Nodup) (hfits : ∀ n ∈ order, Message.fits ⟨key, n, payload, time⟩ = true)
    (hfree : ∀ n ∈ order, Table.holds Mailbox.key rows (key, n) = false) :
    k.run (order.map (enqueueFor id content createdAt)) =
      (order.map fun n => .done (.reply (.row (.message ⟨key, n, payload, time⟩))),
        k.withMessages (rows ++ order.map fun n => ⟨key, n, payload, time⟩)) := by
  induction order generalizing k rows with
  | nil =>
    have hsame : k.withMessages rows = k := by
      unfold withMessages
      rw [← hk.rows_eq]
    simp only [List.map_nil, List.append_nil, hsame]
    rfl
  | cons n rest ih =>
    have hn := hfree n List.mem_cons_self
    have hnext : (k.withMessages (rows ++ [⟨key, n, payload, time⟩])).Posts
        (rows ++ [⟨key, n, payload, time⟩]) id content createdAt key payload time :=
      ⟨hk.role, hk.writable, rfl, hk.id_ok, hk.content_ok, hk.time_ok⟩
    -- The keys of the others are still free, since the names differ.
    have hrest : ∀ n' ∈ rest, Table.holds Mailbox.key (rows ++ [⟨key, n, payload, time⟩]) (key, n') =
        false := by
      intro n' hn'
      have hne : n ≠ n' := by
        rintro rfl
        exact (List.nodup_cons.1 ho).1 hn'
      have hold := hfree n' (List.mem_cons_of_mem _ hn')
      unfold Table.holds at hold ⊢
      rw [List.any_append, hold]
      simp [Mailbox.key, hne]
    rw [List.map_cons, run, hk.enqueue (hfits n List.mem_cons_self) hn,
      ih hnext (List.nodup_cons.1 ho).2 (fun n' hn' => hfits n' (List.mem_cons_of_mem _ hn')) hrest]
    simp only [List.map_cons, List.append_assoc, List.singleton_append]
    rfl

/-! ## Fan-outs -/

theorem Posts.check_fanOut (hk : k.Posts rows id content createdAt key payload time)
    (hr : Argument.recipients recipients = .ok (order, none)) :
    (Mailbox.Call.fanOut id recipients content createdAt).check k.now =
      .ok (.fanOut key order payload time) := by
  simp only [Mailbox.Call.check, hk.id_ok, hr, hk.content_ok, hk.time_ok, bind, Except.bind, pure,
    Except.pure, Mailbox.Request.ofFanOut]

/-- A fan-out under free keys inserts all its messages at once, if each is small enough for a row. -/
theorem Posts.fanOut (hk : k.Posts rows id content createdAt key payload time)
    (hr : Argument.recipients recipients = .ok (order, none))
    (hfits : ∀ n ∈ order, Message.fits ⟨key, n, payload, time⟩ = true)
    (hfree : ∀ n ∈ order, Table.holds Mailbox.key rows (key, n) = false) :
    k.serve (.call (.mailbox (.fanOut id recipients content createdAt))) =
      (.done (.reply (.count order.length)),
        k.withMessages (rows ++ order.map fun n => ⟨key, n, payload, time⟩)) := by
  have hinsert : Table.insert Mailbox.key Message.fits rows
        (order.map fun n => ⟨key, n, payload, time⟩) =
      .ok (rows ++ order.map fun n => ⟨key, n, payload, time⟩) := by
    refine Table.insert_eq_ok_iff.2 ⟨fun m hm => ?_, rfl⟩
    obtain ⟨n, hn, rfl⟩ := List.mem_map.1 hm
    exact ⟨hfree n hn, hfits n hn⟩
  have happly : (Mailbox.Request.fanOut key order payload time).apply rows = .ok
      { rows := rows ++ order.map fun n => ⟨key, n, payload, time⟩
        reply := .count order.length
        note := some ⟨"ENQUEUE_FANOUT",
          [("message_id", key.hex), ("recipients", order.length.repr)]⟩ } := by
    simp only [Mailbox.Request.apply, hinsert]
  rw [hk.serve (hk.check_fanOut hr), happly]
  rfl

/-- A fan-out under a key in use fails, wherever the name stands among the recipients. -/
theorem Posts.fanOut_conflict (hk : k.Posts rows id content createdAt key payload time)
    (hr : Argument.recipients recipients = .ok (order, none))
    (hfits : ∀ n ∈ order, Message.fits ⟨key, n, payload, time⟩ = true) {n : Name} (hn : n ∈ order)
    (htaken : Table.holds Mailbox.key rows (key, n) = true) :
    k.serve (.call (.mailbox (.fanOut id recipients content createdAt))) =
      (.failed (.conflict "enqueue_fanout"), k) := by
  have hinsert : Table.insert Mailbox.key Message.fits rows
      (order.map fun n => ⟨key, n, payload, time⟩) = .error .taken := by
    refine Table.insert_eq_taken (fun m hm => ?_) ⟨_, List.mem_map_of_mem hn, htaken⟩
    obtain ⟨n', hn', rfl⟩ := List.mem_map.1 hm
    exact hfits n' hn'
  have happly : (Mailbox.Request.fanOut key order payload time).apply rows = .error .taken := by
    simp only [Mailbox.Request.apply, hinsert]
  rw [hk.serve (hk.check_fanOut hr), happly]
  rfl

end Desk

/-- Rows for the same names have the same queues, in whatever order the names stand. -/
theorem sameQueues_of_names {names order : List Name} (hn : names.Nodup) (ho : order.Nodup)
    (hmem : ∀ n, n ∈ order ↔ n ∈ names) (key : Identifier) (payload : Payload) (time : String) :
    SameQueues (names.map fun n => ⟨key, n, payload, time⟩)
      (order.map fun n => ⟨key, n, payload, time⟩) := by
  intro r
  rw [List.filter_map, List.filter_map]
  congr 1
  -- A name that is there once has one row, whatever the order.
  have hone : ∀ l : List Name, l.filter ((fun m : Message => m.recipient == r) ∘ fun n =>
      ⟨key, n, payload, time⟩) = List.replicate (l.count r) r := fun l => List.filter_beq r
  rw [hone, hone, hn.count, ho.count]
  simp only [hmem]

theorem holds_eq_true_iff {rows : List Message} {key : Identifier} {n : Name} :
    Table.holds Mailbox.key rows (key, n) = true ↔ ∃ m ∈ rows, m.id = key ∧ m.recipient = n := by
  simp [Table.holds, Mailbox.key]

/-! ## Fan-outs and single insertions -/

/-- A fan-out with valid arguments to an initialised server, whose messages are small enough for a row
each, fails, and changes nothing, if one of the recipients holds a message under its identifier,
wherever that recipient is named. Otherwise it
counts the recipients, and from then on the server cannot be told from one to which the message was
written for each recipient by itself, in any order. -/
theorem fanOut_refines_enqueues {s : Session} {name : String} {d : Database}
    (hs : s.Initialised name d) {id recipients content createdAt : Value} {key : Identifier}
    {payload : Payload} {time : String} {given : List Name}
    (hid : Argument.identifier id "message_id" = .ok key) (hcontent : content.payload? = some payload)
    (htime : Argument.stamp s.host.now createdAt = .ok time)
    (htext : ∀ t, recipients ≠ .text t) (hgiven : recipients.names? = some given) (hne : given ≠ [])
    (hfits : ∀ n ∈ given, Message.fits ⟨key, n, payload, time⟩ = true)
    {order : List Name} (ho : order.Nodup) (hmem : ∀ n, n ∈ order ↔ n ∈ given) :
    let fan := s.step (.call name (.mailbox (.fanOut id recipients content createdAt)))
    let singles := s.run (order.map fun n =>
      .call name (.mailbox (.enqueue id (.text n.text) content createdAt)))
    let taken := ∃ m ∈ d.messages.getD [], m.id = key ∧ m.recipient ∈ given
    (taken → fan.1.outcome = .failed (.conflict "enqueue_fanout") ∧ fan.2.Initialised name d) ∧
    (¬taken → fan.1.outcome = .done (.reply (.count order.length)) ∧
      singles.1.map (·.outcome) =
        order.map (fun n => .done (.reply (.row (.message ⟨key, n, payload, time⟩)))) ∧
      ∀ errands : List Errand, fan.2.outcomes (errands.map (·.step name)) =
        singles.2.outcomes (errands.map (·.step name))) := by
  intro fan singles taken
  have hdesk := hs.servesDesk
  obtain ⟨rows, hrows⟩ : ∃ rows, d.messages = some rows :=
    Option.isSome_iff_exists.1 (hs.tables .mailbox (by decide))
  let k : Desk := ⟨.server, false, s.host.now, d⟩
  have hk : k.Posts rows id content createdAt key payload time :=
    ⟨rfl, rfl, hrows, hid, Argument.payload_ok_iff.2 hcontent, htime⟩
  have hrecipients := Argument.recipients_of_names htext hgiven hne
  have hdistinct : ∀ n ∈ given.eraseDups, Message.fits ⟨key, n, payload, time⟩ = true :=
    fun n hn => hfits n (List.mem_eraseDups.1 hn)
  obtain ⟨houtcome, hafter⟩ : fan.1.outcome =
        (k.serve (.call (.mailbox (.fanOut id recipients content createdAt)))).1 ∧
      fan.2.ServesDesk name
        (k.serve (.call (.mailbox (.fanOut id recipients content createdAt)))).2 :=
    hdesk.step (.call (.mailbox (.fanOut id recipients content createdAt)))
  constructor
  · rintro ⟨m, hm, hmid, hmrecipient⟩
    rw [hrows, Option.getD_some] at hm
    have hfan := hk.fanOut_conflict hrecipients hdistinct (List.mem_eraseDups.2 hmrecipient)
      (holds_eq_true_iff.2 ⟨m, hm, hmid, rfl⟩)
    rw [hfan] at houtcome hafter
    exact ⟨houtcome, Session.initialised_of_servesDesk
      (hs.reachable.run [.call name (.mailbox (.fanOut id recipients content createdAt))])
      hafter hs.tables⟩
  · intro hfree
    have hkeys : ∀ n ∈ given, Table.holds Mailbox.key rows (key, n) = false := by
      intro n hn
      rw [Bool.eq_false_iff]
      intro hholds
      obtain ⟨m, hm, hmid, hmrecipient⟩ := holds_eq_true_iff.1 hholds
      exact hfree ⟨m, by rwa [hrows, Option.getD_some], hmid, hmrecipient ▸ hn⟩
    have hfan := hk.fanOut hrecipients hdistinct fun n hn => hkeys n (List.mem_eraseDups.1 hn)
    have hsingles := Desk.run_enqueues hk ho (fun n hn => hfits n ((hmem n).1 hn))
      fun n hn => hkeys n ((hmem n).1 hn)
    obtain ⟨houtcomes, hafters⟩ : singles.1.map (·.outcome) =
          (k.run (order.map (Desk.enqueueFor id content createdAt))).1 ∧
        singles.2.ServesDesk name (k.run (order.map (Desk.enqueueFor id content createdAt))).2 := by
      have hrun := hdesk.run (order.map (Desk.enqueueFor id content createdAt))
      rwa [List.map_map] at hrun
    rw [hfan] at houtcome hafter
    rw [hsingles] at houtcomes hafters
    -- Both desks have the same queues, so that they answer alike from now on.
    have halike : (k.withMessages (rows ++ given.eraseDups.map fun n => ⟨key, n, payload, time⟩)).Alike
        (k.withMessages (rows ++ order.map fun n => ⟨key, n, payload, time⟩)) := by
      refine ⟨rfl, rfl, rfl, rfl, rfl, rfl, _, _, rfl, rfl, ?_⟩
      refine SameQueues.append (fun _ => rfl) ?_
      exact sameQueues_of_names (List.nodup_eraseDups given) ho
        (fun n => (hmem n).trans List.mem_eraseDups.symm) key payload time
    -- The order names each recipient once, as the fan-out does.
    have hlength : given.eraseDups.length = order.length :=
      ((List.perm_ext_iff_of_nodup (List.nodup_eraseDups given) ho).2 fun n =>
        List.mem_eraseDups.trans (hmem n).symm).length_eq
    refine ⟨houtcome.trans (by rw [hlength]), houtcomes, ?_⟩
    intro errands
    rw [(hafter.run errands).1, (hafters.run errands).1, halike.run errands]

/-- A fan-out to two recipients, one of them named twice, and single insertions the other way round. -/
theorem fanOut_refines_enqueues_of_two :
    let s := ((Session.start []).run [.opening "db"
        { role := .server, address := some (.text "sqlite+aiosqlite:///:memory:") },
      .initialise "db"]).2
    let d : Database := { keyPackages := some [], messages := some [] }
    let key : Identifier := ⟨List.replicate 16 1, rfl⟩
    let payload : Payload := ⟨[104, 105], by decide⟩
    let time := "2025-01-01T00:00:00.000000Z"
    let ann : Name := ⟨"ann", by decide⟩
    let bob : Name := ⟨"bob", by decide⟩
    let id : Value := .uuid key
    let content : Value := .bytes .fixed payload.bytes
    let recipients : Value := .list [.text "ann", .text "bob", .text "ann"]
    let given := [ann, bob, ann]
    let order := [bob, ann]
    let fan := s.step (.call "db" (.mailbox (.fanOut id recipients content .null)))
    let singles := s.run (order.map fun n =>
      .call "db" (.mailbox (.enqueue id (.text n.text) content .null)))
    let taken := ∃ m ∈ d.messages.getD [], m.id = key ∧ m.recipient ∈ given
    s.Initialised "db" d ∧ Argument.identifier id "message_id" = .ok key ∧
      content.payload? = some payload ∧ Argument.stamp s.host.now .null = .ok time ∧
      (∀ t, recipients ≠ .text t) ∧ recipients.names? = some given ∧ given ≠ [] ∧
      (∀ n ∈ given, Message.fits ⟨key, n, payload, time⟩ = true) ∧ order.Nodup ∧
      (∀ n, n ∈ order ↔ n ∈ given) ∧
      (taken → fan.1.outcome = .failed (.conflict "enqueue_fanout") ∧ fan.2.Initialised "db" d) ∧
      (¬taken → fan.1.outcome = .done (.reply (.count order.length)) ∧
        singles.1.map (·.outcome) =
          order.map (fun n => .done (.reply (.row (.message ⟨key, n, payload, time⟩)))) ∧
        ∀ errands : List Errand, fan.2.outcomes (errands.map (·.step "db")) =
          singles.2.outcomes (errands.map (·.step "db"))) := by
  intro s d key payload time ann bob id content recipients given order fan singles taken
  have hs : s.Initialised "db" d := Session.initialised_in_memory
  have htime : Argument.stamp s.host.now .null = .ok time := by decide +kernel
  have htext : ∀ t, recipients ≠ .text t := fun t => Value.noConfusion
  have hmem : ∀ n, n ∈ order ↔ n ∈ given := by
    intro n
    simp [order, given, or_comm]
  have hcontent : content.payload? = some payload := by decide +kernel
  have hnames : recipients.names? = some given := by decide +kernel
  have hfits : ∀ n ∈ given, Message.fits ⟨key, n, payload, time⟩ = true := by decide +kernel
  have ho : order.Nodup := by decide
  exact ⟨hs, rfl, hcontent, htime, htext, hnames, by decide, hfits, ho, hmem,
    fanOut_refines_enqueues hs rfl hcontent htime htext hnames (by decide) hfits ho hmem⟩

/-- A fan-out to a name of one unpaired surrogate fails at an empty server, though no message is in
its way. -/
theorem fanOut_fails_for_surrogate :
    let s := ((Session.start []).run [.opening "db"
        { role := .server, address := some (.text "sqlite+aiosqlite:///:memory:") },
      .initialise "db"]).2
    let surrogate : Text.Unpaired := ⟨[], 0, []⟩
    let fan : Call := .mailbox (.fanOut (.uuid ⟨List.replicate 16 1, rfl⟩)
      (.list [.unpaired surrogate]) (.bytes .fixed [104, 105]) .null)
    s.Initialised "db" { keyPackages := some [], messages := some [] } ∧
      (s.step (.call "db" fan)).1.outcome = .failed (.unfit (.unpaired surrogate.fault)) :=
  ⟨Session.initialised_in_memory, rfl⟩

end DeliveryStore
