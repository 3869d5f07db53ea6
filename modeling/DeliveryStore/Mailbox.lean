import DeliveryStore.Argument
import DeliveryStore.Record
import DeliveryStore.Table

/-!
# The mailbox

Messages wait for their recipients, in a queue for each. One identifier may stand for messages to
several recipients, but not for two to the same. Fetching looks and does not take: a message waits
until its recipient acknowledges it.
-/

namespace DeliveryStore.Mailbox

/-- The group under which the log keeps the store's entries. -/
def group : String := "Mailbox"

/-- An unchecked request. -/
inductive Call where
  | enqueue (id recipient content createdAt : Value)
  | fanOut (id recipients content createdAt : Value)
  | fetch (recipient limit : Value)
  | pendingCount (recipient : Value)
  | acknowledge (id recipient : Value)
  | purge (recipient : Value)

/-- A checked request. The last stops at an argument that cannot be put into a statement, with the
messages that were to be written before it. -/
inductive Request where
  | enqueue (message : Message)
  | fanOut (id : Identifier) (recipients : List Name) (content : Payload) (createdAt : String)
  | fetch (recipient : Name) (limit : Option Nat)
  | pendingCount (recipient : Name)
  | acknowledge (id : Identifier) (recipient : Name)
  | purge (recipient : Name)
  | unbound (before : List Message) (why : Unusable)
deriving DecidableEq, Repr

/-- The request of arguments that can be put into one statement, or that stops there. -/
def Request.ofBound : Bound Request → Request
  | .ok r => r
  | .error why => .unbound [] why

/-- The request to write one message for each name, in order. Each has a statement of its own, into
which the name is put before the content. -/
def Request.ofFanOut (id : Identifier) (recipients : List Name) (stop : Option Unusable)
    (content : Bound Payload) (createdAt : String) : Request :=
  match content, stop with
  | .ok content, none => .fanOut id recipients content createdAt
  | .ok content, some why =>
    .unbound (recipients.map fun recipient => { id, recipient, content, createdAt }) why
  | .error why, stop => .unbound [] (if recipients.isEmpty then stop.getD why else why)

/-- The name of a call, as messages give it. -/
def Call.operation : Call → String
  | enqueue _ _ _ _ => "enqueue"
  | fanOut _ _ _ _ => "enqueue_fanout"
  | fetch _ _ => "fetch"
  | pendingCount _ => "pending_count"
  | acknowledge _ _ => "acknowledge"
  | purge _ => "purge_recipient"

/-- Checks the arguments. A fan-out has its content checked before its recipients. -/
def Call.check (now : Moment) : Call → Except Failure Request
  | enqueue id recipient content createdAt => do
    let id ← Argument.identifier id "message_id"
    let recipient ← Argument.name recipient "recipient"
    let content ← Argument.payload content "content"
    let createdAt ← Argument.stamp now createdAt
    return .ofBound do
      return .enqueue { id, recipient := ← recipient, content := ← content, createdAt }
  | fanOut id recipients content createdAt => do
    let id ← Argument.identifier id "message_id"
    let content ← Argument.payload content "content"
    let (recipients, stop) ← Argument.recipients recipients
    let createdAt ← Argument.stamp now createdAt
    return .ofFanOut id recipients stop content createdAt
  | fetch recipient limit => do
    let recipient ← Argument.name recipient "recipient"
    let limit ← Argument.limit limit
    return .ofBound (recipient.map (.fetch · limit))
  | pendingCount recipient => do
    let recipient ← Argument.name recipient "recipient"
    return .ofBound (recipient.map .pendingCount)
  | acknowledge id recipient => do
    let id ← Argument.identifier id "message_id"
    let recipient ← Argument.name recipient "recipient"
    return .ofBound (recipient.map (.acknowledge id))
  | purge recipient => do
    let recipient ← Argument.name recipient "recipient"
    return .ofBound (recipient.map .purge)

/-- What tells messages apart: the identifier together with the recipient. -/
def key (m : Message) : Identifier × Name := (m.id, m.recipient)

/-- Earlier messages come first. -/
def before (m n : Message) : Bool := m.createdAt ≤ n.createdAt

/-- The messages that wait for a recipient, those made at the same time in the order in which they
were written. -/
def queue (recipient : Name) (rows : List Message) : List Message :=
  (rows.filter (·.recipient == recipient)).mergeSort before

/-- The messages that wait for a recipient are those of the table that name it. -/
theorem mem_queue {recipient : Name} {rows : List Message} {m : Message} :
    m ∈ queue recipient rows ↔ m ∈ rows ∧ m.recipient = recipient := by
  simp [queue, List.mem_mergeSort]

/-- There are as many of them as are counted. -/
theorem length_queue (recipient : Name) (rows : List Message) :
    (queue recipient rows).length = rows.countP (·.recipient == recipient) := by
  simp [queue, List.length_mergeSort, List.countP_eq_length_filter]

/-- The greatest limit that the database can count to. -/
def greatestLimit : Nat := Nat.pow 2 63 - 1

namespace Request

/-- Whether a request writes to the table, or would before it stops. -/
def writes : Request → Bool
  | fetch _ _ | pendingCount _ => false
  | unbound before _ => !before.isEmpty
  | _ => true

/-- Whether all arguments of a request can be put into its statements. -/
def isBound : Request → Bool
  | unbound _ _ => false
  | _ => true

/-- What the log says of an insertion that finds its key taken. -/
def conflictDetails : Request → List (String × String)
  | enqueue m => [("message_id", m.id.hex), ("recipient", m.recipient.text)]
  | fanOut id _ _ _ => [("message_id", id.hex)]
  | unbound (m :: _) _ => [("message_id", m.id.hex)]
  | _ => []

/-- Carries out a request. -/
def apply (rows : List Message) : Request → Except Refusal (Effect Message)
  | enqueue m =>
    match Table.insert key Message.fits rows [m] with
    | .error refusal => .error refusal
    | .ok rows => .ok
        { rows
          reply := .row m
          note := some ⟨"ENQUEUE", [("message_id", m.id.hex), ("recipient", m.recipient.text)]⟩ }
  | fanOut id recipients content createdAt =>
    let message (recipient : Name) : Message := { id, recipient, content, createdAt }
    match Table.insert key Message.fits rows (recipients.map message) with
    | .error refusal => .error refusal
    | .ok rows => .ok
        { rows
          reply := .count recipients.length
          note := some ⟨"ENQUEUE_FANOUT",
            [("message_id", id.hex), ("recipients", recipients.length.repr)]⟩ }
  | fetch recipient none => .ok { rows, reply := .rows (queue recipient rows) }
  | fetch recipient (some limit) =>
    if limit ≤ greatestLimit then .ok { rows, reply := .rows ((queue recipient rows).take limit) }
    else .error .limitTooLarge
  | pendingCount recipient =>
    .ok { rows, reply := .count (rows.countP (·.recipient == recipient)) }
  | acknowledge id recipient => .ok
      { rows := rows.filter (key · != (id, recipient))
        reply := .nothing
        note := some ⟨"ACK",
          [("message_id", id.hex), ("recipient", recipient.text),
            ("deleted", (rows.countP (key · == (id, recipient))).repr)]⟩ }
  | purge recipient =>
    let deleted := rows.countP (·.recipient == recipient)
    .ok
      { rows := rows.filter (·.recipient != recipient)
        reply := .count deleted
        note := some ⟨"PURGE", [("recipient", recipient.text), ("deleted", deleted.repr)]⟩ }
  | unbound before why =>
    match Table.insert key Message.fits rows before with
    | .error refusal => .error refusal
    | .ok _ => .error (.unusable why)

/-- A request that does not write leaves the rows as they were. -/
theorem apply_rows {r : Request} {rows : List Message} {e : Effect Message}
    (hr : r.writes = false) (he : r.apply rows = .ok e) : e.rows = rows := by
  cases r with
  | fetch recipient limit =>
    cases limit <;> simp only [apply] at he <;> (try split at he) <;> cases he <;> rfl
  | pendingCount recipient => cases he; rfl
  | unbound before why => simp only [apply] at he; split at he <;> cases he
  | _ => simp [writes] at hr

/-- What is carried out does not stop at an argument. -/
theorem isBound_of_apply {r : Request} {rows : List Message} {e : Effect Message}
    (he : r.apply rows = .ok e) : r.isBound = true := by
  cases r with
  | unbound before why => simp only [apply] at he; split at he <;> cases he
  | _ => rfl

/-- What cannot be handed over to the database is an argument at which the request stops. -/
theorem eq_unbound_of_unfit {r : Request} {rows : List Message} {what : Unfit}
    (he : r.apply rows = .error (.unusable (.unfit what))) :
    ∃ before, r = .unbound before (.unfit what) := by
  cases r with
  | unbound before why =>
    simp only [apply] at he
    split at he
    · rename_i hinsert
      cases he
      exact absurd hinsert (Table.insert_ne_unfit what)
    · cases he
      exact ⟨before, rfl⟩
  | enqueue m | fanOut id recipients content createdAt =>
    simp only [apply] at he
    split at he
    · rename_i hinsert
      cases he
      exact absurd hinsert (Table.insert_ne_unfit what)
    · cases he
  | fetch recipient limit =>
    cases limit with
    | none => cases he
    | some limit =>
      simp only [apply] at he
      split at he <;> cases he
  | pendingCount recipient | acknowledge id recipient | purge recipient => cases he

end Request

end DeliveryStore.Mailbox
