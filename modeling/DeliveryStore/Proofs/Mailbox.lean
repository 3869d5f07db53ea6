import DeliveryStore.Proofs.Arguments
import DeliveryStore.Proofs.Errands
import DeliveryStore.Proofs.Tables

/-!
# Calls to the mailbox

What a server with a table of messages does with calls. Calls to the mailbox are carried out on that
table alone, and other calls leave it alone:

* `Database.answer_mailbox`, `Database.answer_mailbox_cases` — a call to the mailbox, on the rows of
  its table;
* `Database.messages_of_answer`, `Database.messages_of_furnish` — what leaves the table alone;
* `Mailbox.check_enqueue`, `Mailbox.check_fanOut`, `Mailbox.check_acknowledge`, … — what a call that
  passes its checks asks for.
-/

namespace DeliveryStore

namespace Database

variable {d : Database} {role : Role} {readOnly : Bool} {now : Moment} {rows : List Message}

/-- A call to the mailbox is carried out on the rows of its table. -/
theorem answer_mailbox (readOnly : Bool) (now : Moment) (hrole : role = .server)
    (hd : d.messages = some rows) (c : Mailbox.Call) :
    d.answer role readOnly now (.mailbox c) =
      match c.check now with
      | .error f => (.error f, d)
      | .ok r =>
        if r.writes && readOnly then (.error (.unavailable c.operation .readOnly), d)
        else
          match r.apply rows with
          | .error refusal => (.error ((Obstacle.refusal refusal).failure c.operation), d)
          | .ok e => (.ok (e.reply.map .message), { d with messages := some e.rows }) := by
  have hoffers : role.stores.contains (Call.mailbox c).store = true := by
    subst hrole
    rfl
  have hcarry : ∀ r : Mailbox.Request, d.carryOut readOnly (.mailbox r) =
      (onTable .mailbox (some rows) r.writes readOnly fun rows => r.apply rows).map fun e =>
        ⟨{ d with messages := some e.rows }, e.reply.map .message, e.note⟩ := by
    intro r
    rw [← hd]
    rfl
  have hcheck : (Call.mailbox c).check now = (c.check now).map .mailbox := rfl
  rw [answer_onTable hoffers hcarry hcheck]
  cases c.check now with
  | error f => rfl
  | ok r =>
    dsimp only
    cases r.apply rows <;> rfl

/-- A call to the mailbox fails and leaves the data as they were, or it passes its checks and its
request is carried out. -/
theorem answer_mailbox_cases (readOnly : Bool) (now : Moment) (hrole : role = .server)
    (hd : d.messages = some rows) (c : Mailbox.Call) :
    (∃ f, d.answer role readOnly now (.mailbox c) = (.error f, d)) ∨
      ∃ r e, c.check now = .ok r ∧ r.apply rows = .ok e ∧
        d.answer role readOnly now (.mailbox c) =
          (.ok (e.reply.map .message), { d with messages := some e.rows }) := by
  rw [answer_mailbox readOnly now hrole hd]
  cases hcheck : c.check now with
  | error f => exact .inl ⟨f, rfl⟩
  | ok r =>
    dsimp only
    split
    · exact .inl ⟨_, rfl⟩
    cases happly : r.apply rows with
    | error refusal => exact .inl ⟨_, rfl⟩
    | ok e => exact .inr ⟨r, e, rfl, happly, rfl⟩

/-- A call to another store leaves the messages alone. -/
theorem messages_of_answer {c : Call} (hc : ∀ m, c ≠ .mailbox m) :
    (d.answer role readOnly now c).2.messages = d.messages := by
  have hstore : Store.mailbox ≠ c.store := by
    cases c with
    | mailbox m => exact absurd rfl (hc m)
    | keyPackages m | identities m => exact Store.noConfusion
  exact only_mailbox_inj.1 (answer_elsewhere hstore)

/-- Making tables leaves the messages alone that there are. -/
theorem messages_of_furnish (hd : d.messages = some rows) :
    (d.furnish role readOnly).2.messages = some rows := by
  have hhas : d.has .mailbox = true := by simp only [has, hd, Option.isSome_some]
  exact (only_mailbox_inj.1 (furnish_only_of_has hhas role readOnly)).trans hd

end Database

/-! ## Checks -/

namespace Mailbox

variable {now : Moment} {r : Request}

/-- What an insertion writes that passes its checks, and whose arguments can be put into a statement,
is what its arguments say. -/
theorem check_enqueue {id recipient content createdAt : Value}
    (h : (Call.enqueue id recipient content createdAt).check now = .ok r) (hb : r.isBound = true) :
    ∃ m : Message, r = .enqueue m ∧ id.identifier? = some m.id ∧
      recipient.name? = some m.recipient ∧ content.payload? = some m.content ∧
      ∃ i, createdAt.instantAt? now = some i ∧ i.stamp? = some m.createdAt := by
  simp only [Call.check, bind, Except.bind] at h
  split at h
  · cases h
  rename_i vid hid
  split at h
  · cases h
  rename_i vrecipient hrecipient
  split at h
  · cases h
  rename_i vcontent hcontent
  split at h
  · cases h
  rename_i vcreated hcreated
  cases h
  cases vrecipient with
  | error why => cases hb
  | ok name =>
  cases vcontent with
  | error why => cases hb
  | ok payload =>
  exact ⟨_, rfl, Argument.identifier_ok hid, Argument.name_ok_iff.1 hrecipient,
    Argument.payload_ok_iff.1 hcontent, Argument.stamp_ok hcreated⟩

/-- What a fan-out writes that passes its checks, and whose arguments can be put into statements, is
what its arguments say, once for each name. -/
theorem check_fanOut {id recipients content createdAt : Value}
    (h : (Call.fanOut id recipients content createdAt).check now = .ok r) (hb : r.isBound = true) :
    ∃ vid names vcontent vcreated, r = .fanOut vid names vcontent vcreated ∧
      id.identifier? = some vid ∧ content.payload? = some vcontent ∧
      (∃ given, recipients.names? = some given ∧ names = given.eraseDups) ∧
      ∃ i, createdAt.instantAt? now = some i ∧ i.stamp? = some vcreated := by
  simp only [Call.check, bind, Except.bind] at h
  split at h
  · cases h
  rename_i vid hid
  split at h
  · cases h
  rename_i vcontent hcontent
  split at h
  · cases h
  rename_i bound hnames
  obtain ⟨names, stop⟩ := bound
  split at h
  · cases h
  rename_i vcreated hcreated
  cases h
  obtain ⟨vcontent, rfl⟩ : ∃ p, vcontent = .ok p := by
    cases vcontent with
    | ok p => exact ⟨p, rfl⟩
    | error why => cases hb
  cases stop with
  | some why => cases hb
  | none =>
  obtain ⟨given, hgiven, -, hdistinct⟩ := Argument.recipients_ok hnames
  exact ⟨vid, names, vcontent, vcreated, rfl, Argument.identifier_ok hid,
    Argument.payload_ok_iff.1 hcontent, ⟨given, hgiven, hdistinct⟩, Argument.stamp_ok hcreated⟩

/-- A fetch that passes its checks does not write. -/
theorem check_fetch {recipient limit : Value} (h : (Call.fetch recipient limit).check now = .ok r) :
    r.writes = false := by
  simp only [Call.check, bind, Except.bind] at h
  split at h
  · cases h
  rename_i name hname
  split at h
  · cases h
  cases h
  cases name <;> rfl

/-- A count that passes its check does not write. -/
theorem check_pendingCount {recipient : Value} (h : (Call.pendingCount recipient).check now = .ok r) :
    r.writes = false := by
  simp only [Call.check, bind, Except.bind] at h
  split at h
  · cases h
  rename_i name hname
  cases h
  cases name <;> rfl

/-- A fetch for a name passes its checks if its limit does. -/
theorem check_fetch_text (now : Moment) (r : Name) {limit : Value} {most : Option Nat}
    (hl : Argument.limit limit = .ok most) :
    (Call.fetch (.text r.text) limit).check now = .ok (.fetch r most) := by
  simp [Call.check, Argument.name_text, hl, bind, Except.bind, pure, Except.pure, Except.map,
    Request.ofBound]

/-- A count for what is a name passes its check. -/
theorem check_pendingCount_of_name {recipient : Value} {n : Name} (h : recipient.name? = some n)
    (now : Moment) : (Call.pendingCount recipient).check now = .ok (.pendingCount n) := by
  simp [Call.check, Argument.name_ok_iff.2 h, bind, Except.bind, pure, Except.pure, Except.map,
    Request.ofBound]

/-- An acknowledgement that passes its checks, and whose recipient can be put into a statement, is for
the message that its arguments name. -/
theorem check_acknowledge {id recipient : Value}
    (h : (Call.acknowledge id recipient).check now = .ok r) (hb : r.isBound = true) :
    ∃ vid name, r = .acknowledge vid name ∧ id.identifier? = some vid ∧
      recipient.name? = some name := by
  simp only [Call.check, bind, Except.bind] at h
  split at h
  · cases h
  rename_i vid hid
  split at h
  · cases h
  rename_i bound hname
  cases h
  cases bound with
  | error why => cases hb
  | ok name => exact ⟨vid, name, rfl, Argument.identifier_ok hid, Argument.name_ok_iff.1 hname⟩

/-- A purge that passes its check, and whose recipient can be put into a statement, is for the
recipient that its argument names. -/
theorem check_purge {recipient : Value} (h : (Call.purge recipient).check now = .ok r)
    (hb : r.isBound = true) :
    ∃ name, r = .purge name ∧ recipient.name? = some name := by
  simp only [Call.check, bind, Except.bind] at h
  split at h
  · cases h
  rename_i bound hname
  cases h
  cases bound with
  | error why => cases hb
  | ok name => exact ⟨name, rfl, Argument.name_ok_iff.1 hname⟩

end Mailbox

end DeliveryStore
