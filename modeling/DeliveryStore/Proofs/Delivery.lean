import DeliveryStore.Proofs.Calendar
import DeliveryStore.Proofs.Mailbox

/-!
# Delivery

What waits for a recipient is told by the history of a run alone: by the messages that were posted,
and by what was acknowledged or purged later. `waiting` reads it off the history, and `InOrder` says
in which order it is fetched. The invariant that carries the proof is `Holds`: the rows of the table
are the postings that wait, in the order in which they were posted. Main statements:

* `Holds.serve` — one errand keeps the invariant;
* `Holds.run` — so does a run of errands, with what waits as its history tells;
* `fetch_eq_waiting` — a fetch replies with what waits, in order.
-/

namespace DeliveryStore

/-! ## Postings -/

/-- A message as a caller posted it, with the instant at which it counts as made. -/
structure Posting where
  id : Identifier
  recipient : Name
  content : Payload
  instant : Instant

namespace Posting

/-- The row that is written for a posting. -/
def message (p : Posting) : Message :=
  { id := p.id, recipient := p.recipient, content := p.content
    createdAt := p.instant.stamp?.getD "" }

/-- What tells postings apart. -/
def key (p : Posting) : Identifier × Name := (p.id, p.recipient)

/-- A posting whose instant is in the calendar, so that its row says when it was made. -/
def Dated (p : Posting) : Prop := p.instant.stamp? = some p.message.createdAt

/-- Earlier postings come first. -/
def before (p q : Posting) : Bool := p.instant.micros ≤ q.instant.micros

end Posting

namespace Mailbox.Call

/-- What a call posts, read off its arguments. -/
def postings (now : Moment) : Mailbox.Call → List Posting
  | .enqueue id recipient content createdAt =>
    match id.identifier?, recipient.name?, content.payload?, createdAt.instantAt? now with
    | some id, some recipient, some content, some instant => [{ id, recipient, content, instant }]
    | _, _, _, _ => []
  | .fanOut id recipients content createdAt =>
    match id.identifier?, recipients.names?, content.payload?, createdAt.instantAt? now with
    | some id, some given, some content, some instant =>
      given.eraseDups.map fun recipient => { id, recipient, content, instant }
    | _, _, _, _ => []
  | _ => []

/-- Whether a call deletes a posting, read off its arguments. -/
def deletes (p : Posting) : Mailbox.Call → Bool
  | .acknowledge id recipient =>
    id.identifier? == some p.id && recipient.name? == some p.recipient
  | .purge recipient => recipient.name? == some p.recipient
  | _ => false

end Mailbox.Call

/-! ## Histories -/

/-- An errand that was run: when, which, and what it came to. -/
structure Event where
  now : Moment
  errand : Errand
  outcome : Outcome

namespace Event

/-- The call to the mailbox that succeeded, if it was one. -/
def call? (e : Event) : Option Mailbox.Call :=
  match e.errand, e.outcome with
  | .call (.mailbox c), .done _ => some c
  | _, _ => none

/-- What was posted. -/
def postings (e : Event) : List Posting := (e.call?.map fun c => c.postings e.now).getD []

/-- Whether a posting was deleted. -/
def deletes (e : Event) (p : Posting) : Bool := e.call?.any (·.deletes p)

end Event

/-- The history of errands and what they came to, with the clock as it was set on the way. -/
def history (now : Moment) : List Errand → List Outcome → List Event
  | e :: errands, o :: outcomes => ⟨now, e, o⟩ :: history (e.timeAfter now) errands outcomes
  | _, _ => []

/-- What waits after a history: all that was posted and not deleted later. -/
def waiting : List Event → List Posting
  | [] => []
  | e :: later => e.postings.filter (fun p => !later.any (·.deletes p)) ++ waiting later

/-! ## The order of delivery -/

/-- Postings in the order in which they are fetched: all that were written, by their instants, and
those of one instant as they were written. -/
structure InOrder (written sorted : List Posting) : Prop where
  perm : sorted.Perm written
  ordered : sorted.Pairwise fun p q => p.instant.micros ≤ q.instant.micros
  stable : ∀ i : Instant, sorted.filter (·.instant = i) = written.filter (·.instant = i)

/-- Sorting by instant brings postings in order. -/
theorem inOrder_mergeSort (l : List Posting) : InOrder l (l.mergeSort Posting.before) := by
  have htrans : ∀ p q r : Posting, p.before q → q.before r → p.before r := by
    intro p q r hpq hqr
    simp only [Posting.before, decide_eq_true_eq] at *
    omega
  have htotal : ∀ p q : Posting, (p.before q || q.before p) = true := by
    intro p q
    simp only [Posting.before, Bool.or_eq_true, decide_eq_true_eq]
    omega
  refine ⟨List.mergeSort_perm l _, ?_, ?_⟩
  · have hpairs := List.pairwise_mergeSort htrans htotal l
    exact hpairs.imp fun h => by simpa [Posting.before] using h
  · -- The postings of one instant are in order already, so that sorting keeps them as they are.
    intro i
    have hsame : (l.filter (·.instant = i)).Pairwise fun p q => p.before q := by
      rw [List.pairwise_filter]
      refine List.pairwise_of_forall fun p q hp hq => ?_
      simp only [decide_eq_true_eq] at hp hq
      simp [Posting.before, hp, hq]
    have hsub := List.sublist_mergeSort htrans htotal hsame List.filter_sublist
    have hfilter := hsub.filter (·.instant = i)
    rw [List.filter_filter] at hfilter
    simp only [Bool.and_self] at hfilter
    refine (hfilter.eq_of_length ?_).symm
    exact (((List.mergeSort_perm l Posting.before).filter _).length_eq).symm

/-- The queue of a recipient is what is written for it, sorted by instant. -/
theorem queue_map_message {l : List Posting} (hl : ∀ p ∈ l, p.Dated) (r : Name) :
    Mailbox.queue r (l.map Posting.message) =
      ((l.filter (·.recipient = r)).mergeSort Posting.before).map Posting.message := by
  have hfilter : (l.map Posting.message).filter (·.recipient == r) =
      (l.filter (·.recipient = r)).map Posting.message := by
    rw [List.filter_map]
    congr 1
  unfold Mailbox.queue
  rw [hfilter, List.map_mergeSort]
  intro p hp q hq
  have hp' := hl p (List.mem_filter.1 hp).1
  have hq' := hl q (List.mem_filter.1 hq).1
  have hle := Instant.stamp?_le_iff hp' hq'
  simp only [Posting.before, Mailbox.before]
  exact decide_eq_decide.2 hle.symm

/-! ## The invariant -/

/-- The desk of a server whose messages are exactly these postings, in the order in which they were
posted. -/
structure Holds (k : Desk) (base : List Posting) : Prop where
  role : k.role = .server
  rows : k.data.messages = some (base.map Posting.message)
  dated : ∀ p ∈ base, p.Dated
  distinct : (base.map Posting.key).Nodup

namespace Holds

variable {k : Desk} {base : List Posting}

/-- Data with the same messages hold the same postings. -/
theorem of_messages (hk : Holds k base) {data : Database}
    (hd : data.messages = k.data.messages) : Holds { k with data } base :=
  ⟨hk.role, hd.trans hk.rows, hk.dated, hk.distinct⟩

/-- Deleted rows are deleted postings. -/
theorem delete (hk : Holds k base) {data : Database} (keep : Posting → Bool)
    (hd : data.messages = some ((base.filter keep).map Posting.message)) :
    Holds { k with data } (base.filter keep) := by
  refine ⟨hk.role, hd, fun p hp => hk.dated p (List.mem_filter.1 hp).1, ?_⟩
  exact hk.distinct.sublist (List.filter_sublist.map _)

/-- Inserted rows are new postings, under keys that were free. -/
theorem insert (hk : Holds k base) {data : Database} {new : List Posting}
    (hdated : ∀ p ∈ new, p.Dated) (hdistinct : (new.map Posting.key).Nodup) {rows : List Message}
    (hinsert : Table.insert Mailbox.key Message.fits (base.map Posting.message)
      (new.map Posting.message) = .ok rows) (hd : data.messages = some rows) :
    Holds { k with data } (base ++ new) := by
  obtain ⟨hfree, rfl⟩ := Table.insert_eq_ok_iff.1 hinsert
  refine ⟨hk.role, by rw [hd, List.map_append], ?_, ?_⟩
  · intro p hp
    rcases List.mem_append.1 hp with hold | hnew
    · exact hk.dated p hold
    · exact hdated p hnew
  · rw [List.map_append, List.nodup_append]
    refine ⟨hk.distinct, hdistinct, ?_⟩
    intro a ha b hb heq
    obtain ⟨p, hp, rfl⟩ := List.mem_map.1 ha
    obtain ⟨q, hq, rfl⟩ := List.mem_map.1 hb
    -- A new posting under the key of an old one would have found its key in use.
    have hunused := (hfree q.message (List.mem_map_of_mem hq)).1
    have hused : Table.holds Mailbox.key (base.map Posting.message) (Mailbox.key q.message) = true :=
      List.any_eq_true.2 ⟨p.message, List.mem_map_of_mem hp, beq_iff_eq.2 heq⟩
    rw [hunused] at hused
    cases hused

/-- What an event leaves of the postings that there were, and adds to them. -/
def after (base : List Posting) (e : Event) : List Posting :=
  base.filter (fun p => !e.deletes p) ++ e.postings

theorem after_of_call?_eq_none {e : Event} (h : e.call? = none) : after base e = base := by
  have hdeletes : ∀ p, e.deletes p = false := by
    intro p
    simp only [Event.deletes, h, Option.any_none]
  simp [after, hdeletes, Event.postings, h]

theorem after_of_call? {e : Event} {c : Mailbox.Call} (h : e.call? = some c) :
    after base e = base.filter (fun p => !c.deletes p) ++ c.postings e.now := by
  have hdeletes : ∀ p, e.deletes p = c.deletes p := by
    intro p
    simp only [Event.deletes, h, Option.any_some]
  simp only [after, hdeletes, Event.postings, h, Option.map_some, Option.getD_some]

/-- A call that deletes nothing adds what it posts. -/
theorem after_of_keeping {e : Event} {c : Mailbox.Call} (h : e.call? = some c)
    (hd : ∀ p, c.deletes p = false) : after base e = base ++ c.postings e.now := by
  have hkept : base.filter (fun p => !c.deletes p) = base := by
    refine List.filter_eq_self.2 ?_
    intro p _
    rw [hd p]
    rfl
  rw [after_of_call? h, hkept]

/-- A call that neither deletes nor posts leaves the postings as they were. -/
theorem after_of_looking {e : Event} {c : Mailbox.Call} (h : e.call? = some c)
    (hp : c.postings e.now = []) (hd : ∀ p, c.deletes p = false) : after base e = base := by
  rw [after_of_keeping h hd, hp, List.append_nil]

/-- A call that posts nothing takes away what it deletes. -/
theorem after_of_deleting {e : Event} {c : Mailbox.Call} (h : e.call? = some c)
    (hp : c.postings e.now = []) : after base e = base.filter fun p => !c.deletes p := by
  rw [after_of_call? h, hp, List.append_nil]

/-- A single insertion that was carried out posts what its arguments say. -/
theorem enqueue (hk : Holds k base) {id recipient content createdAt : Value} {m : Message}
    {e : Effect Message}
    (hcheck : (Mailbox.Call.enqueue id recipient content createdAt).check k.now =
      .ok (.enqueue m))
    (happly : (Mailbox.Request.enqueue m).apply (base.map Posting.message) = .ok e) :
    Holds { k with data := { k.data with messages := some e.rows } }
      (base ++ (Mailbox.Call.enqueue id recipient content createdAt).postings k.now) := by
  obtain ⟨m', hm, hid, hrecipient, hcontent, i, hi, hstamp⟩ := Mailbox.check_enqueue hcheck rfl
  cases hm
  let p : Posting := ⟨m.id, m.recipient, m.content, i⟩
  have hp : p.message = m := by
    simp only [p, Posting.message, hstamp, Option.getD_some]
  have hposted : (Mailbox.Call.enqueue id recipient content createdAt).postings k.now = [p] := by
    simp only [Mailbox.Call.postings, hid, hrecipient, hcontent, hi, p]
  rw [hposted]
  simp only [Mailbox.Request.apply] at happly
  split at happly
  · cases happly
  rename_i rows hinsert
  cases happly
  refine hk.insert ?_ (by simp) (by simpa only [List.map_cons, List.map_nil, hp] using hinsert) rfl
  intro q hq
  rw [List.mem_singleton.1 hq, Posting.Dated, hp]
  exact hstamp

/-- A fan-out that was carried out posts what its arguments say, once for each name. -/
theorem fanOut (hk : Holds k base) {id recipients content createdAt : Value}
    {vid : Identifier} {names : List Name} {vcontent : Payload} {vcreated : String}
    {e : Effect Message}
    (hcheck : (Mailbox.Call.fanOut id recipients content createdAt).check k.now =
      .ok (.fanOut vid names vcontent vcreated))
    (happly : (Mailbox.Request.fanOut vid names vcontent vcreated).apply
      (base.map Posting.message) = .ok e) :
    Holds { k with data := { k.data with messages := some e.rows } }
      (base ++ (Mailbox.Call.fanOut id recipients content createdAt).postings k.now) := by
  obtain ⟨_, _, _, _, hr, hid, hcontent, ⟨given, hgiven, hnames⟩, i, hi, hstamp⟩ :=
    Mailbox.check_fanOut hcheck rfl
  cases hr
  let post (recipient : Name) : Posting := ⟨vid, recipient, vcontent, i⟩
  have hmessage : ∀ n, (post n).message = ⟨vid, n, vcontent, vcreated⟩ := by
    intro n
    simp only [post, Posting.message, hstamp, Option.getD_some]
  have hposted : (Mailbox.Call.fanOut id recipients content createdAt).postings k.now =
      names.map post := by
    simp only [Mailbox.Call.postings, hid, hgiven, hcontent, hi, hnames, post]
  have hrows : (names.map post).map Posting.message =
      names.map fun n => ⟨vid, n, vcontent, vcreated⟩ := by
    rw [List.map_map]
    exact List.map_congr_left fun n _ => hmessage n
  rw [hposted]
  simp only [Mailbox.Request.apply] at happly
  split at happly
  · cases happly
  rename_i rows hinsert
  cases happly
  refine hk.insert ?_ ?_ (by rwa [hrows]) rfl
  · intro q hq
    obtain ⟨n, -, rfl⟩ := List.mem_map.1 hq
    rw [Posting.Dated, hmessage]
    exact hstamp
  · -- The names were taken once each, so the new keys differ.
    have hdistinct : names.Nodup := by
      rw [hnames]
      exact List.nodup_eraseDups given
    rw [List.map_map]
    refine List.pairwise_map.2 (hdistinct.imp ?_)
    intro a b hne heq
    exact hne (Prod.mk.inj heq).2

/-- A call to the mailbox keeps the invariant. -/
theorem serve_mailbox (hk : Holds k base) (c : Mailbox.Call) :
    Holds (k.serve (.call (.mailbox c))).2
      (after base ⟨k.now, .call (.mailbox c), (k.serve (.call (.mailbox c))).1⟩) := by
  rcases Database.answer_mailbox_cases k.readOnly k.now hk.role hk.rows c with
    ⟨f, hanswer⟩ | ⟨r, e, hcheck, happly, hanswer⟩
  · simp only [Desk.serve, hanswer]
    rw [after_of_call?_eq_none rfl]
    exact hk
  -- The call succeeded, so its event posts and deletes what its arguments say.
  have hbound := Mailbox.Request.isBound_of_apply happly
  simp only [Desk.serve, hanswer]
  cases c with
  | enqueue id recipient content createdAt =>
    rw [after_of_keeping rfl fun p => rfl]
    obtain ⟨m, rfl, -⟩ := Mailbox.check_enqueue hcheck hbound
    exact hk.enqueue hcheck happly
  | fanOut id recipients content createdAt =>
    rw [after_of_keeping rfl fun p => rfl]
    obtain ⟨vid, names, vcontent, vcreated, rfl, -⟩ := Mailbox.check_fanOut hcheck hbound
    exact hk.fanOut hcheck happly
  | fetch recipient limit =>
    rw [after_of_looking rfl rfl fun p => rfl]
    have hrows := Mailbox.Request.apply_rows (Mailbox.check_fetch hcheck) happly
    exact hk.of_messages (by rw [hrows, hk.rows])
  | pendingCount recipient =>
    rw [after_of_looking rfl rfl fun p => rfl]
    have hrows := Mailbox.Request.apply_rows (Mailbox.check_pendingCount hcheck) happly
    exact hk.of_messages (by rw [hrows, hk.rows])
  | acknowledge id recipient =>
    rw [after_of_deleting rfl rfl]
    obtain ⟨vid, name, rfl, hid, hname⟩ := Mailbox.check_acknowledge hcheck hbound
    cases happly
    refine hk.delete _ ?_
    dsimp only
    rw [List.filter_map]
    congr 3
    funext p
    simp only [Function.comp, Mailbox.Call.deletes, hid, hname, Mailbox.key, Posting.message]
    grind
  | purge recipient =>
    rw [after_of_deleting rfl rfl]
    obtain ⟨name, rfl, hname⟩ := Mailbox.check_purge hcheck hbound
    cases happly
    refine hk.delete _ ?_
    dsimp only
    rw [List.filter_map]
    congr 3
    funext p
    simp only [Function.comp, Mailbox.Call.deletes, hname, Posting.message]
    grind

/-- An errand keeps the invariant. -/
theorem serve (hk : Holds k base) (e : Errand) :
    Holds (k.serve e).2 (after base ⟨k.now, e, (k.serve e).1⟩) := by
  cases e with
  | call c =>
    cases c with
    | mailbox c => exact hk.serve_mailbox c
    | keyPackages c =>
      rw [after_of_call?_eq_none rfl]
      exact hk.of_messages (Database.messages_of_answer (by simp))
    | identities c =>
      rw [after_of_call?_eq_none rfl]
      exact hk.of_messages (Database.messages_of_answer (by simp))
  | initialise =>
    rw [after_of_call?_eq_none rfl]
    exact hk.of_messages ((Database.messages_of_furnish hk.rows).trans hk.rows.symm)
  | clock now =>
    rw [after_of_call?_eq_none rfl]
    exact ⟨hk.role, hk.rows, hk.dated, hk.distinct⟩

/-- Errands keep the invariant, with what waits as their history tells. -/
theorem run (hk : Holds k base) (errands : List Errand) :
    Holds (k.run errands).2
      (base.filter (fun p => !(history k.now errands (k.run errands).1).any (·.deletes p)) ++
        waiting (history k.now errands (k.run errands).1)) := by
  -- What was held at the beginning must stay general: later errands may delete from it.
  induction errands generalizing k base with
  | nil =>
    have hnone : base.filter (fun p => !([] : List Event).any (·.deletes p)) = base := by simp
    show Holds k (base.filter (fun p => !([] : List Event).any (·.deletes p)) ++ [])
    rwa [hnone, List.append_nil]
  | cons e rest ih =>
    have hrest := ih (hk.serve e)
    rw [Desk.serve_now] at hrest
    have hhistory : history k.now (e :: rest) (k.run (e :: rest)).1 =
        ⟨k.now, e, (k.serve e).1⟩ ::
          history (e.timeAfter k.now) rest ((k.serve e).2.run rest).1 := rfl
    rw [hhistory]
    -- What was deleted by the first errand or later is what is deleted by any of them.
    simp only [after, List.filter_append, List.filter_filter] at hrest
    simp only [waiting, List.any_cons, Bool.not_or]
    rw [← List.append_assoc]
    have hend : (k.run (e :: rest)).2 = ((k.serve e).2.run rest).2 := rfl
    rw [hend]
    simpa only [Bool.and_comm] using hrest

/-- The postings of one recipient differ in their identifiers. -/
theorem nodup_id (hk : Holds k base) (r : Name) :
    ((base.filter (·.recipient = r)).map (·.id)).Nodup := by
  have hkeys : (base.filter (·.recipient = r)).Pairwise fun p q => p.key ≠ q.key :=
    List.pairwise_map.1 (hk.distinct.sublist (List.filter_sublist.map _))
  refine List.pairwise_map.2 (hkeys.imp_of_mem ?_)
  intro p q hp hq hne heq
  have hp' : p.recipient = r := by simpa using (List.mem_filter.1 hp).2
  have hq' : q.recipient = r := by simpa using (List.mem_filter.1 hq).2
  exact hne (Prod.ext heq (hp'.trans hq'.symm))

/-- A fetch replies with the queue of the recipient. -/
theorem serve_fetch (hk : Holds k base) (r : Name) :
    (k.serve (.call (.mailbox (.fetch (.text r.text) .null)))).1 =
      .done (.reply (.rows
        (((base.filter (·.recipient = r)).mergeSort Posting.before).map fun p =>
          .message p.message))) := by
  have hcheck := Mailbox.check_fetch_text k.now r (show Argument.limit .null = .ok none from rfl)
  simp only [Desk.serve, Database.answer_mailbox _ _ hk.role hk.rows, hcheck, Mailbox.Request.writes,
    Bool.false_and, Bool.false_eq_true, if_false, Mailbox.Request.apply,
    queue_map_message hk.dated, Reply.map, Outcome.of, List.map_map]
  rfl

/-- A fetch with a limit replies with the beginning of the queue. -/
theorem serve_fetch_limit (hk : Holds k base) (r : Name) {n : Int} (hn : 1 ≤ n)
    (hm : n ≤ 2 ^ 63 - 1) :
    (k.serve (.call (.mailbox (.fetch (.text r.text) (.int n))))).1 =
      .done (.reply (.rows
        ((((base.filter (·.recipient = r)).mergeSort Posting.before).take n.toNat).map fun p =>
          .message p.message))) := by
  have hlimit : Argument.limit (.int n) = .ok (some n.toNat) := by
    simp only [Argument.limit, hn, if_true]
  have hcheck := Mailbox.check_fetch_text k.now r hlimit
  have hgreatest : n.toNat ≤ Mailbox.greatestLimit := by
    have : (Mailbox.greatestLimit : Int) = 2 ^ 63 - 1 := by decide
    omega
  simp only [Desk.serve, Database.answer_mailbox _ _ hk.role hk.rows, hcheck, Mailbox.Request.writes,
    Bool.false_and, Bool.false_eq_true, if_false, Mailbox.Request.apply, hgreatest, if_true,
    queue_map_message hk.dated, Reply.map, Outcome.of, List.map_take, List.map_map]
  rfl

end Holds

/-! ## Delivery -/

/-- After any run of errands on a server that has just been initialised and has no messages, a fetch
replies with what waits for the recipient as the history of the run tells, each message once, as it
was posted, and in order. A fetch with a limit replies with the beginning of that. -/
theorem fetch_eq_waiting {s : Session} {name : String} {h : Handle} (hs : s.Reachable)
    (hh : s.handles.lookup name = some h) (hr : h.role = .server)
    (hi : (s.step (.initialise name)).1.outcome = .done .nothing)
    (he : ((s.step (.initialise name)).2.host.view h Database.messages).outcome = .ok (some []))
    (errands : List Errand) (r : Name) :
    let begun := (s.step (.initialise name)).2
    let steps := errands.map (·.step name)
    let fetch (limit : Value) : Outcome :=
      ((begun.run steps).2.step (.call name (.mailbox (.fetch (.text r.text) limit)))).1.outcome
    ∃ postings : List Posting,
      InOrder ((waiting (history begun.host.now errands (begun.outcomes steps))).filter
        (·.recipient = r)) postings ∧
      (postings.map (·.id)).Nodup ∧ (∀ p ∈ postings, p.Dated) ∧
      fetch .null = .done (.reply (.rows (postings.map fun p => .message p.message))) ∧
      ∀ n : Int, 1 ≤ n → n ≤ 2 ^ 63 - 1 →
        fetch (.int n) =
          .done (.reply (.rows ((postings.take n.toNat).map fun p => .message p.message))) := by
  intro begun steps fetch
  -- Making the tables has put the handle at a desk, and from there on the desk tells everything.
  obtain ⟨readOnly, d, hdesk₀⟩ := Session.servesDesk_of_initialise hs hh hi
  let k : Desk := ((⟨h.role, readOnly, s.host.now, d⟩ : Desk).serve .initialise).2
  have hk : begun.ServesDesk name k := (hdesk₀.step .initialise).2
  have hlookup : begun.handles.lookup name = some h :=
    (congrArg (List.lookup name) (Session.does_initialise hh).handles).trans hh
  have hempty : k.data.messages = some [] := by
    have hview := hk.view hlookup Database.messages
    rw [he] at hview
    exact (Except.ok.inj hview).symm
  have hnow : begun.host.now = k.now := by
    obtain ⟨-, -, -, hnow, -⟩ := hk
    exact hnow
  obtain ⟨houtcomes, hdesk⟩ := hk.run errands
  -- The invariant holds of the empty table, and so of the table after the run.
  have hbegin : Holds k [] := ⟨hr, hempty, by simp, by simp⟩
  have hafter := hbegin.run errands
  rw [List.filter_nil, List.nil_append, ← hnow, ← houtcomes] at hafter
  refine ⟨_, inOrder_mergeSort _, ?_, ?_, ?_, ?_⟩
  · have hperm := List.mergeSort_perm ((waiting (history begun.host.now errands
      (begun.outcomes steps))).filter (·.recipient = r)) Posting.before
    rw [(hperm.map _).nodup_iff]
    exact hafter.nodup_id r
  · intro p hp
    exact hafter.dated p (List.mem_filter.1 (List.mem_mergeSort.1 hp)).1
  · exact (hdesk.step (.call (.mailbox (.fetch (.text r.text) .null)))).1.trans
      (hafter.serve_fetch r)
  · intro n hn hm
    exact (hdesk.step (.call (.mailbox (.fetch (.text r.text) (.int n))))).1.trans
      (hafter.serve_fetch_limit r hn hm)

/-- A message that was acknowledged and posted again waits with one that counts as made before it. -/
theorem fetch_eq_waiting_of_two :
    let s := ((Session.start []).run [.opening "db"
      { role := .server, address := some (.text "sqlite+aiosqlite:///:memory:") }]).2
    let h : Handle :=
      { number := 0, role := .server, name := some "server", durability := .extra, inMemory := true
        target := .ok { medium := .memory (FileName.ofText Target.memoryName) } }
    let id (n : UInt8) : Value := .bytes .fixed (List.replicate 16 n)
    let post (n : UInt8) (createdAt : Value) : Errand :=
      .call (.mailbox (.enqueue (id n) (.text "ann") (.bytes .fixed [n]) createdAt))
    let earlier : Moment :=
      { standardNow with offset := some 3600000000, offset_small := by decide }
    let errands := [post 1 .null, post 2 (.moment earlier),
      .call (.mailbox (.acknowledge (id 1) (.text "ann"))), post 1 .null]
    let begun := (s.step (.initialise "db")).2
    let steps := errands.map (·.step "db")
    let fetch (limit : Value) : Outcome :=
      ((begun.run steps).2.step (.call "db" (.mailbox (.fetch (.text "ann") limit)))).1.outcome
    s.Reachable ∧ s.handles.lookup "db" = some h ∧ h.role = .server ∧
      (s.step (.initialise "db")).1.outcome = .done .nothing ∧
      (begun.host.view h Database.messages).outcome = .ok (some []) ∧
      ∃ postings : List Posting,
        InOrder ((waiting (history begun.host.now errands (begun.outcomes steps))).filter
          (·.recipient = ⟨"ann", by decide⟩)) postings ∧
        (postings.map (·.id)).Nodup ∧ (∀ p ∈ postings, p.Dated) ∧
        fetch .null = .done (.reply (.rows (postings.map fun p => .message p.message))) ∧
        ∀ n : Int, 1 ≤ n → n ≤ 2 ^ 63 - 1 →
          fetch (.int n) =
            .done (.reply (.rows ((postings.take n.toNat).map fun p => .message p.message))) := by
  intro s h id post earlier errands begun steps fetch
  have hs : s.Reachable := ⟨_, _, rfl⟩
  have hh : s.handles.lookup "db" = some h := rfl
  have hi : (s.step (.initialise "db")).1.outcome = .done .nothing := rfl
  have he : (begun.host.view h Database.messages).outcome = .ok (some []) := rfl
  exact ⟨hs, hh, rfl, hi, he, fetch_eq_waiting hs hh rfl hi he errands ⟨"ann", by decide⟩⟩

/-- Nothing waits on a new server, but a fetch for a recipient whose name is not Unicode text fails: the
name passes its check, and the database does not take it. -/
theorem fetch_fails_for_surrogate :
    let s := ((Session.start []).run [.opening "db"
        { role := .server, address := some (.text "sqlite+aiosqlite:///:memory:") },
      .initialise "db"]).2
    let surrogate : Text.Unpaired := ⟨[], 0, []⟩
    let fetch : Mailbox.Call := .fetch (.unpaired surrogate) .null
    s.Initialised "db" { keyPackages := some [], messages := some [] } ∧
      waiting (history s.host.now [] []) = [] ∧
      (fetch.check s.host.now).toOption.isSome = true ∧
      (s.step (.call "db" (.mailbox fetch))).1.outcome =
        .failed (.unfit (.unpaired surrogate.fault)) :=
  ⟨Session.initialised_in_memory, rfl, rfl, rfl⟩

end DeliveryStore
