import DeliveryStore.Proofs.Lists
import DeliveryStore.Proofs.Mailbox
import DeliveryStore.Proofs.Offices
import DeliveryStore.Proofs.StoredData
import Mathlib.Algebra.BigOperators.Group.List.Lemmas
import Mathlib.Algebra.GroupWithZero.Nat

/-!
# The accounts of the mailbox

What a run says about its messages adds up to the table that it leaves. Every operation that adds
messages or takes them away says how many by a channel of its own: an insertion by its success, a
fan-out and a purge by their replies, an acknowledgement by what it prints. A `Tally` is what a run
has said by each of them. Main statements:

* `Log.countIn_remark` — the count that ends a note can be read off what is printed;
* `Session.ServesDesk.balances` — an errand balances with what is said of it;
* `Session.ServesDesk.balances_run` — so does a run of errands;
* `accounts_balance` — the accounts of a run that begins with no messages.
-/

namespace DeliveryStore

/-! ## Counts in the log -/

namespace Log

/-- The count that a printed text ends with, behind the name of a detail. -/
def countIn (detail text : String) : Option Nat :=
  let n := Nat.ofDigitChars 10 (text.toList.dropLast.rtakeWhile Char.isDigit) 0
  if (detailText (detail, n.repr) ++ "\n").toList.isSuffixOf text.toList then some n else none

/-- A count at the end of a line is read as what it is. -/
theorem countIn_line (before detail : String) (n : Nat) :
    countIn detail (before ++ detailText (detail, n.repr) ++ "\n") = some n := by
  have hline : (before ++ detailText (detail, n.repr) ++ "\n").toList =
      ((before ++ (" " ++ Colour.yellow.paint detail)).toList ++ '=' :: Nat.toDigits 10 n) ++
        ['\n'] := by
    simp [detailText, String.toList_append]
  have hdigits : (before ++ detailText (detail, n.repr) ++ "\n").toList.dropLast.rtakeWhile
      Char.isDigit = Nat.toDigits 10 n := by
    rw [hline, List.dropLast_concat]
    exact List.rtakeWhile_append_of_not rfl fun c hc =>
      Nat.isDigit_of_mem_toDigits (by decide) (by decide) hc
  have hends : (detailText (detail, n.repr) ++ "\n").toList.isSuffixOf
      (before ++ detailText (detail, n.repr) ++ "\n").toList = true := by
    rw [List.isSuffixOf_iff_suffix, String.append_assoc]
    exact ⟨before.toList, (String.toList_append ..).symm⟩
  simp only [countIn, hdigits, Nat.ofDigitChars_ten_toDigits, hends, if_true]

/-- The count that ends the note of an operation can be read off what is printed. -/
theorem countIn_remark (t : Thread) (name : Option String) (group operation detail : String)
    (details : List (String × String)) (n : Nat) :
    countIn detail (t.remark name
      (some (group, ⟨operation, details ++ [(detail, n.repr)]⟩))).1 = some n := by
  have hjoin : ∀ (first : List String) (last : String),
      String.join (first ++ [last]) = String.join first ++ last := by
    intro first last
    simp [String.join]
  simp only [Thread.remark, Thread.write, Host.entry, Thread.line, List.map_append, List.map_cons,
    List.map_nil, hjoin, ← String.append_assoc]
  exact countIn_line _ _ _

end Log

/-! ## Tallies -/

/-- What has been said about messages: how many insertions of one succeeded, how many a fan-out
replied to have inserted, how many the log says an acknowledgement deleted, and how many a purge
replied to have deleted. -/
structure Tally where
  enqueued : Nat := 0
  fannedOut : Nat := 0
  acknowledged : Nat := 0
  purged : Nat := 0
deriving DecidableEq, Repr

namespace Tally

/-- What a call says that succeeds, by its reply and by what it prints. -/
def ofCall (c : Mailbox.Call) (result : Result) (text : String) : Tally :=
  match c, result with
  | .enqueue _ _ _ _, _ => { enqueued := 1 }
  | .fanOut _ _ _ _, .reply (.count n) => { fannedOut := n }
  | .acknowledge _ _, _ => { acknowledged := (Log.countIn "deleted" text).getD 0 }
  | .purge _, .reply (.count n) => { purged := n }
  | _, _ => {}

/-- What an errand says. One that fails says nothing. -/
def ofErrand (e : Errand) (a : Answer) : Tally :=
  match e, a.outcome with
  | .call (.mailbox c), .done result => ofCall c result a.text
  | _, _ => {}

/-- One tally and another one. -/
def add (t u : Tally) : Tally where
  enqueued := t.enqueued + u.enqueued
  fannedOut := t.fannedOut + u.fannedOut
  acknowledged := t.acknowledged + u.acknowledged
  purged := t.purged + u.purged

/-- What errands say, one after the other. -/
def ofRun : List Errand → List Answer → Tally
  | e :: errands, a :: answers => (ofErrand e a).add (ofRun errands answers)
  | _, _ => {}

/-- A tally that tells how many messages there are in the end from how many there were. -/
def Balances (t : Tally) (before after : Nat) : Prop :=
  after + t.purged + t.acknowledged = before + t.enqueued + t.fannedOut

theorem Balances.add {t u : Tally} {n m l : Nat} (ht : t.Balances n m) (hu : u.Balances m l) :
    (t.add u).Balances n l := by
  simp only [Balances, Tally.add] at *
  omega

theorem balances_nothing (n : Nat) : ({} : Tally).Balances n n := rfl

end Tally

namespace Mailbox

variable {now : Moment} {c : Call} {r : Request} {rows : List Message} {e : Effect Message}

/-- The rows that a filter leaves, and those that it takes, are all. -/
theorem length_filter_add_countP {p q : Message → Bool} (h : ∀ m, q m = !p m)
    (rows : List Message) : (rows.filter q).length + rows.countP p = rows.length := by
  have hrest : rows.countP q = rows.countP fun m => decide ¬p m = true :=
    List.countP_congr fun m _ => by simp [h]
  rw [← List.countP_eq_length_filter, hrest, Nat.add_comm]
  exact (List.length_eq_countP_add_countP p).symm

/-- What a request says that is carried out balances with the rows before and after it. -/
theorem balances_of_apply (hcheck : c.check now = .ok r) (happly : r.apply rows = .ok e)
    (t : Log.Thread) (label : Option String) :
    (Tally.ofCall c (.reply (e.reply.map .message))
      (t.remark label (e.note.map fun n => (group, n))).1).Balances rows.length e.rows.length := by
  have hb := Request.isBound_of_apply happly
  cases c with
  | enqueue id recipient content createdAt =>
    obtain ⟨m, rfl, -⟩ := check_enqueue hcheck hb
    simp only [Request.apply] at happly
    split at happly
    · cases happly
    rename_i hinserted
    obtain ⟨-, rfl⟩ := Table.insert_eq_ok_iff.1 hinserted
    cases happly
    simp only [Tally.Balances, Tally.ofCall, List.length_append, List.length_singleton]
  | fanOut id recipients content createdAt =>
    obtain ⟨vid, names, vcontent, vcreated, rfl, -⟩ := check_fanOut hcheck hb
    simp only [Request.apply] at happly
    split at happly
    · cases happly
    rename_i hinserted
    obtain ⟨-, rfl⟩ := Table.insert_eq_ok_iff.1 hinserted
    cases happly
    simp only [Tally.Balances, Tally.ofCall, Reply.map, List.length_append, List.length_map]
    rfl
  | fetch recipient limit =>
    rw [Request.apply_rows (check_fetch hcheck) happly]
    exact Tally.balances_nothing _
  | pendingCount recipient =>
    rw [Request.apply_rows (check_pendingCount hcheck) happly]
    exact Tally.balances_nothing _
  | acknowledge id recipient =>
    obtain ⟨vid, name, rfl, -⟩ := check_acknowledge hcheck hb
    cases happly
    have hcount := Log.countIn_remark t label group "ACK" "deleted"
      [("message_id", vid.hex), ("recipient", name.text)] (rows.countP (key · == (vid, name)))
    have hrows : (rows.filter (key · != (vid, name))).length +
        rows.countP (key · == (vid, name)) = rows.length :=
      length_filter_add_countP (fun _ => rfl) rows
    rw [List.cons_append, List.cons_append, List.nil_append] at hcount
    simp only [Tally.Balances, Tally.ofCall, Option.map_some, hcount, Option.getD_some]
    exact hrows
  | purge recipient =>
    obtain ⟨name, rfl, -⟩ := check_purge hcheck hb
    cases happly
    exact length_filter_add_countP (fun _ => rfl) rows

end Mailbox

namespace Session

variable {s : Session} {name : String} {k : Desk} {rows : List Message}

/-! ## What a run says -/

/-- A call to the mailbox fails and leaves the messages, or its request is carried out, and what that
notes is printed. -/
theorem ServesDesk.mailbox_cases (hs : s.ServesDesk name k) (hrole : k.role = .server)
    (hd : k.data.messages = some rows) (c : Mailbox.Call) :
    let a := (s.step (.call name (.mailbox c))).1
    let after := (k.serve (.call (.mailbox c))).2.data.messages
    (∃ f, a.outcome = .failed f ∧ after = some rows) ∨
      ∃ r e label, c.check k.now = .ok r ∧ r.apply rows = .ok e ∧ after = some e.rows ∧
        a.outcome = .done (.reply (e.reply.map .message)) ∧
        a.text = (s.host.log.remark label (e.note.map fun n => (Mailbox.group, n))).1 := by
  intro a after
  have houtcome : a.outcome = (k.serve (.call (.mailbox c))).1 := (hs.step (.call (.mailbox c))).1
  obtain ⟨label, htext⟩ := hs.text_step (.call (.mailbox c))
  have hserve : k.serve (.call (.mailbox c)) =
      (Outcome.of .reply (k.data.answer k.role k.readOnly k.now (.mailbox c)).1,
        { k with data := (k.data.answer k.role k.readOnly k.now (.mailbox c)).2 }) := rfl
  have hoffers : k.role.stores.contains (Call.mailbox c).store = true := by
    rw [hrole]
    rfl
  rw [Database.answer_mailbox k.readOnly k.now hrole hd] at hserve
  cases hcheck : c.check k.now with
  | error f =>
    rw [hcheck] at hserve
    exact .inl ⟨f, houtcome.trans (congrArg Prod.fst hserve), by simp only [after, hserve, hd]⟩
  | ok r =>
    have hnote : k.note (.call (.mailbox c)) =
        k.data.noteOf k.readOnly c.operation (.mailbox r) := by
      simp only [Desk.note, Database.callNote, hoffers, if_true, Call.check, hcheck]
      rfl
    rw [hcheck] at hserve
    dsimp only at hserve
    by_cases hforbidden : (r.writes && k.readOnly) = true
    · rw [if_pos hforbidden] at hserve
      exact .inl ⟨_, houtcome.trans (congrArg Prod.fst hserve), by simp only [after, hserve, hd]⟩
    rw [if_neg hforbidden] at hserve
    cases happly : r.apply rows with
    | error refusal =>
      rw [happly] at hserve
      exact .inl ⟨_, houtcome.trans (congrArg Prod.fst hserve), by simp only [after, hserve, hd]⟩
    | ok e =>
      rw [happly] at hserve
      -- What is carried out is noted, and nothing else.
      have hcarry : k.data.carryOut k.readOnly (.mailbox r) =
          .ok ⟨{ k.data with messages := some e.rows }, e.reply.map .message, e.note⟩ := by
        simp only [Database.carryOut, Database.onTable, hd, if_neg hforbidden, happly, Except.map]
      refine .inr ⟨r, e, label, rfl, happly, by simp only [after, hserve],
        houtcome.trans (congrArg Prod.fst hserve), ?_⟩
      rw [hnote, Database.noteOf, hcarry] at htext
      exact htext

/-- A call to the mailbox that does not write replies what its request comes to. -/
theorem ServesDesk.replies (hs : s.ServesDesk name k) (hrole : k.role = .server)
    (hd : k.data.messages = some rows) {c : Mailbox.Call} {r : Mailbox.Request}
    {e : Effect Message} (hcheck : c.check k.now = .ok r) (hreads : r.writes = false)
    (happly : r.apply rows = .ok e) :
    (s.step (.call name (.mailbox c))).1.outcome = .done (.reply (e.reply.map .message)) := by
  refine (hs.step (.call (.mailbox c))).1.trans ?_
  simp only [Desk.serve, Database.answer_mailbox _ _ hrole hd, hcheck, hreads, Bool.false_and,
    Bool.false_eq_true, if_false, happly, Outcome.of]

/-- What an errand says of the messages balances with those before and after it. -/
theorem ServesDesk.balances (hs : s.ServesDesk name k) (hrole : k.role = .server)
    (hd : k.data.messages = some rows) (e : Errand) :
    ∃ rows', (k.serve e).2.data.messages = some rows' ∧
      (Tally.ofErrand e (s.step (e.step name)).1).Balances rows.length rows'.length := by
  cases e with
  | clock now => exact ⟨rows, hd, Tally.balances_nothing _⟩
  | initialise =>
    exact ⟨rows, Database.messages_of_furnish hd, Tally.balances_nothing _⟩
  | call c =>
    cases c with
    | keyPackages c | identities c =>
      exact ⟨rows, (Database.messages_of_answer (by simp)).trans hd, Tally.balances_nothing _⟩
    | mailbox c =>
      rcases hs.mailbox_cases hrole hd c with ⟨f, hf, hafter⟩ |
        ⟨r, e, label, hcheck, happly, hafter, houtcome, htext⟩
      · refine ⟨rows, hafter, ?_⟩
        simp only [Errand.step, Tally.ofErrand, hf]
        exact Tally.balances_nothing _
      · refine ⟨e.rows, hafter, ?_⟩
        simp only [Errand.step, Tally.ofErrand, houtcome, htext]
        exact Mailbox.balances_of_apply hcheck happly _ _

/-- What a run of errands says of the messages balances with those before and after it. -/
theorem ServesDesk.balances_run (hs : s.ServesDesk name k) (hrole : k.role = .server)
    (hd : k.data.messages = some rows) (errands : List Errand) :
    ∃ rows', (k.run errands).2.data.messages = some rows' ∧
      (Tally.ofRun errands (s.run (errands.map (·.step name))).1).Balances
        rows.length rows'.length := by
  induction errands generalizing s k rows with
  | nil => exact ⟨rows, hd, Tally.balances_nothing _⟩
  | cons e rest ih =>
    obtain ⟨between, hbetween, hfirst⟩ := hs.balances hrole hd e
    obtain ⟨rows', hend, hrest⟩ :=
      ih (hs.step e).2 ((Desk.serve_role k e).trans hrole) hbetween
    rw [List.map_cons, run_cons]
    exact ⟨rows', hend, hfirst.add hrest⟩

end Session

/-! ## What is in the table -/

/-- The number that a step replied. -/
def Outcome.number : Outcome → Nat
  | .done (.reply (.count n)) => n
  | _ => 0

namespace Mailbox

/-- Of the rows of a table that is well kept at most one is under a key. -/
theorem countP_key_le_one {rows : List Message} (h : (rows.map key).Nodup) (k : Identifier × Name) :
    rows.countP (key · == k) ≤ 1 := by
  have hcount := List.nodup_iff_count_le_one.1 h k
  rwa [List.count, List.countP_map] at hcount

/-- The rows of a table are those of its recipients taken together. -/
theorem sum_countP_recipients (rows : List Message) :
    ((rows.map (·.recipient)).dedup.map fun r => rows.countP (·.recipient == r)).sum =
      rows.length := by
  have hcount : ∀ r, rows.countP (·.recipient == r) = (rows.map (·.recipient)).count r := by
    intro r
    rw [List.count, List.countP_map]
    rfl
  simp only [hcount, List.sum_map_count_dedup_eq_length, List.length_map]

end Mailbox

/-! ## The accounts -/

/-- After any run of errands on a server that has just been initialised and has no messages, the
messages in the table are those that the run says were inserted, less those that it says were deleted.
They are the messages that are counted for each of their recipients, and as many are counted as are
fetched. The log says of each acknowledgement whether it deleted a message, and of each purge that it
deleted as many as it replied and as were counted before it. -/
theorem accounts_balance {s : Session} {name : String} {h : Handle} (hs : s.Reachable)
    (hh : s.handles.lookup name = some h) (hr : h.role = .server)
    (hi : (s.step (.initialise name)).1.outcome = .done .nothing)
    (he : ((s.step (.initialise name)).2.host.view h Database.messages).outcome = .ok (some []))
    (errands : List Errand) :
    let begun := (s.step (.initialise name)).2
    let steps := errands.map (·.step name)
    let said := Tally.ofRun errands (begun.run steps).1
    let after := (begun.run steps).2
    let ask (c : Mailbox.Call) : Answer := (after.step (.call name (.mailbox c))).1
    let pending (r : Name) : Nat := (ask (.pendingCount (.text r.text))).outcome.number
    ∃ rows : List Message, (after.host.view h Database.messages).outcome = .ok (some rows) ∧
      rows.length + said.purged + said.acknowledged = said.enqueued + said.fannedOut ∧
      rows.length = ((rows.map (·.recipient)).dedup.map pending).sum ∧
      (∀ r : Name, ∃ messages,
        (ask (.pendingCount (.text r.text))).outcome = .done (.reply (.count messages.length)) ∧
        (ask (.fetch (.text r.text) .null)).outcome = .done (.reply (.rows messages))) ∧
      (∀ id recipient result, (ask (.acknowledge id recipient)).outcome = .done result →
        ∃ n ≤ 1, Log.countIn "deleted" (ask (.acknowledge id recipient)).text = some n) ∧
      ∀ recipient result, (ask (.purge recipient)).outcome = .done result →
        ∃ n, result = .reply (.count n) ∧
          Log.countIn "deleted" (ask (.purge recipient)).text = some n ∧
          (ask (.pendingCount recipient)).outcome = .done (.reply (.count n)) := by
  intro begun steps said after ask pending
  -- Making the tables has put the handle at a desk, and from there on the desk tells everything.
  obtain ⟨readOnly, d, hdesk₀⟩ := Session.servesDesk_of_initialise hs hh hi
  let k : Desk := ((⟨h.role, readOnly, s.host.now, d⟩ : Desk).serve .initialise).2
  have hk : begun.ServesDesk name k := (hdesk₀.step .initialise).2
  have hbegun : begun.handles.lookup name = some h :=
    (congrArg (List.lookup name) (Session.does_initialise hh).handles).trans hh
  have hempty : k.data.messages = some [] := by
    have hview := hk.view hbegun Database.messages
    rw [he] at hview
    exact (Except.ok.inj hview).symm
  obtain ⟨rows, hrows, hbalance⟩ := hk.balances_run hr hempty errands
  have hdesk : after.ServesDesk name (k.run errands).2 := (hk.run errands).2
  have hrole : (k.run errands).2.role = .server := (Desk.run_role k errands).trans hr
  have hafter : after.handles.lookup name = some h := by
    rw [Session.handles_errands]
    exact hbegun
  have hkept : Table.WellKept Mailbox.key (fun m => IsStamp m.createdAt) rows :=
    ((hs.step (.initialise name)).run steps).wellKept (hdesk.view hafter id) |>.messages rows hrows
  have hpending : ∀ r : Name, (ask (.pendingCount (.text r.text))).outcome =
      .done (.reply (.count (rows.countP (·.recipient == r)))) := by
    intro r
    have hname : (Value.text r.text).name? = some r := Name.of?_eq_some_iff.2 rfl
    exact hdesk.replies hrole hrows (Mailbox.check_pendingCount_of_name hname _) rfl rfl
  have hnumber : ∀ r, pending r = rows.countP (·.recipient == r) := by
    intro r
    simp only [pending, hpending r, Outcome.number]
  refine ⟨rows, ?table, ?balance, ?sum, ?fetched, ?acknowledged, ?purged⟩
  case table => exact (hdesk.view hafter Database.messages).trans (congrArg Except.ok hrows)
  case balance => simpa [Tally.Balances] using hbalance
  case sum =>
    rw [funext hnumber, Mailbox.sum_countP_recipients]
  case fetched =>
    intro r
    refine ⟨(Mailbox.queue r rows).map .message, ?_, ?_⟩
    · rw [hpending r, List.length_map, Mailbox.length_queue]
    · have hcheck : (Mailbox.Call.fetch (.text r.text) .null).check (k.run errands).2.now =
          .ok (.fetch r none) := Mailbox.check_fetch_text _ r rfl
      exact hdesk.replies hrole hrows hcheck rfl rfl
  case acknowledged =>
    intro id recipient result hdone
    rcases hdesk.mailbox_cases hrole hrows (.acknowledge id recipient) with ⟨f, hf, -⟩ |
      ⟨r, e, label, hcheck, happly, -, -, htext⟩
    · cases hdone.symm.trans hf
    obtain ⟨vid, name, rfl, -⟩ :=
      Mailbox.check_acknowledge hcheck (Mailbox.Request.isBound_of_apply happly)
    cases happly
    refine ⟨_, Mailbox.countP_key_le_one hkept.keys (vid, name), ?_⟩
    rw [htext]
    exact Log.countIn_remark _ label Mailbox.group "ACK" "deleted"
      [("message_id", vid.hex), ("recipient", name.text)] _
  case purged =>
    intro recipient result hdone
    rcases hdesk.mailbox_cases hrole hrows (.purge recipient) with ⟨f, hf, -⟩ |
      ⟨r, e, label, hcheck, happly, -, hreply, htext⟩
    · cases hdone.symm.trans hf
    obtain ⟨name, rfl, hname⟩ := Mailbox.check_purge hcheck (Mailbox.Request.isBound_of_apply happly)
    cases happly
    cases hdone.symm.trans hreply
    refine ⟨_, rfl, ?_, ?_⟩
    · rw [htext]
      exact Log.countIn_remark _ label Mailbox.group "PURGE" "deleted"
        [("recipient", name.text)] _
    · exact hdesk.replies hrole hrows (Mailbox.check_pendingCount_of_name hname _) rfl rfl

/-- One message posted alone and one posted to two recipients, of which one is acknowledged twice and
another one purged. -/
theorem accounts_balance_of_three :
    let s := ((Session.start []).run [.opening "db"
      { role := .server, address := some (.text "sqlite+aiosqlite:///:memory:") }]).2
    let h : Handle :=
      { number := 0, role := .server, name := some "server", durability := .extra, inMemory := true
        target := .ok { medium := .memory (FileName.ofText Target.memoryName) } }
    let id (n : UInt8) : Value := .bytes .fixed (List.replicate 16 n)
    let content : Value := .bytes .fixed [1]
    let names : Value := .list [.text "ann", .text "bob", .text "ann"]
    let errands : List Errand := ([.enqueue (id 1) (.text "ann") content .null,
      .fanOut (id 2) names content .null, .acknowledge (id 1) (.text "ann"),
      .acknowledge (id 1) (.text "ann"), .purge (.text "bob")] : List Mailbox.Call).map
        fun c => .call (.mailbox c)
    let begun := (s.step (.initialise "db")).2
    let steps := errands.map (·.step "db")
    let said := Tally.ofRun errands (begun.run steps).1
    let after := (begun.run steps).2
    let ask (c : Mailbox.Call) : Answer := (after.step (.call "db" (.mailbox c))).1
    let pending (r : Name) : Nat := (ask (.pendingCount (.text r.text))).outcome.number
    s.Reachable ∧ s.handles.lookup "db" = some h ∧ h.role = .server ∧
      (s.step (.initialise "db")).1.outcome = .done .nothing ∧
      (begun.host.view h Database.messages).outcome = .ok (some []) ∧
      said = { enqueued := 1, fannedOut := 2, acknowledged := 1, purged := 1 } ∧
      ∃ rows : List Message, (after.host.view h Database.messages).outcome = .ok (some rows) ∧
        rows.length + said.purged + said.acknowledged = said.enqueued + said.fannedOut ∧
        rows.length = ((rows.map (·.recipient)).dedup.map pending).sum ∧
        (∀ r : Name, ∃ messages,
          (ask (.pendingCount (.text r.text))).outcome = .done (.reply (.count messages.length)) ∧
          (ask (.fetch (.text r.text) .null)).outcome = .done (.reply (.rows messages))) ∧
        (∀ id recipient result, (ask (.acknowledge id recipient)).outcome = .done result →
          ∃ n ≤ 1, Log.countIn "deleted" (ask (.acknowledge id recipient)).text = some n) ∧
        ∀ recipient result, (ask (.purge recipient)).outcome = .done result →
          ∃ n, result = .reply (.count n) ∧
            Log.countIn "deleted" (ask (.purge recipient)).text = some n ∧
            (ask (.pendingCount recipient)).outcome = .done (.reply (.count n)) := by
  intro s h id content names errands begun steps said after ask pending
  have hs : s.Reachable := ⟨_, _, rfl⟩
  have hh : s.handles.lookup "db" = some h := rfl
  have hi : (s.step (.initialise "db")).1.outcome = .done .nothing := rfl
  have he : (begun.host.view h Database.messages).outcome = .ok (some []) := rfl
  have hsaid : said = { enqueued := 1, fannedOut := 2, acknowledged := 1, purged := 1 } := by
    decide +kernel
  exact ⟨hs, hh, rfl, hi, he, hsaid, accounts_balance hs hh rfl hi he errands⟩

end DeliveryStore
