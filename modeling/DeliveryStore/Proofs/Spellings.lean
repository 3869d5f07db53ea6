import DeliveryStore.Proofs.Publication

/-!
# Spellings of arguments

A caller may hand over the same argument in several spellings: an identifier as such or as its
bytes, a payload as bytes of any form, a time with any offset, names in any kind of collection. The
checks take the same from each spelling, and nothing but what they take gets any further. Main
statements:

* `Argument.identifier_eq`, `Argument.payload_eq`, `Argument.recipients_eq`, `Argument.stamp_eq` —
  each check gives the same for two spellings;
* `Call.check_eq` — so do the checks of a call;
* `Session.step_eq` — one step of a session;
* `Session.run_eq_of_respelled` — two runs in different spellings.
-/

namespace DeliveryStore

/-! ## Spellings of one argument -/

namespace Value

/-- Values that are the same, or two forms of one identifier. -/
def SameId (v w : Value) : Prop := v = w ∨ ∃ id : Identifier, v ∈ id.forms ∧ w ∈ id.forms

/-- What a value holds as bytes, and whether it counts as empty: a grid does only if it has no rows,
whatever they hold. -/
def bytes? : Value → Option (List UInt8 × Bool)
  | bytes _ content => some (content, content.isEmpty)
  | grid rows => some (rows.flatten, rows.isEmpty)
  | _ => none

/-- Values that are the same, or the same bytes in two forms that both count as empty or both do not. -/
def SameBytes (v w : Value) : Prop :=
  v = w ∨ ∃ content, v.bytes? = some content ∧ w.bytes? = some content

/-- Values that are the same, or moments that name one instant. -/
def SameInstant (v w : Value) : Prop :=
  v = w ∨ ∃ m m' : Moment, v = .moment m ∧ w = .moment m' ∧ m.instant = m'.instant

/-- A value that is no single text. -/
def IsCollection : Value → Prop
  | text _ | unpaired _ => False
  | _ => True

/-- Values that are the same, or collections with the same elements in the same order. A single text
is not a collection of its characters. -/
def SameElements (v w : Value) : Prop :=
  v = w ∨ (v.IsCollection ∧ w.IsCollection ∧
    ∃ items, v.elements? = some items ∧ w.elements? = some items)

end Value

namespace Argument

variable {v w : Value}

theorem identifier_eq (h : v.SameId w) (field : String) : identifier v field = identifier w field := by
  rcases h with rfl | ⟨id, hv, hw⟩
  · rfl
  · rw [identifier_of_forms hv, identifier_of_forms hw]

theorem payload_eq (h : v.SameBytes w) (field : String) : payload v field = payload w field := by
  -- The check sees the bytes and whether there are any, and nothing else.
  have hpayload : ∀ {v : Value} {content : List UInt8} {empty : Bool},
      v.bytes? = some (content, empty) → payload v field =
        if empty then .error (.invalid (.blob field)) else .ok (Payload.bind content) := by
    intro v content empty h
    cases v <;> cases h <;> rfl
  rcases h with rfl | ⟨⟨content, empty⟩, hv, hw⟩
  · rfl
  · rw [hpayload hv, hpayload hw]

theorem stamp_eq (h : v.SameInstant w) (now : Moment) : stamp now v = stamp now w := by
  rcases h with rfl | ⟨m, m', rfl, rfl, hinstant⟩
  · rfl
  · simp only [stamp, written, hinstant]

theorem recipients_eq (h : v.SameElements w) : recipients v = recipients w := by
  have hrecipients : ∀ {v : Value} {items : List Value}, v.IsCollection →
      v.elements? = some items → recipients v =
        (items.mapM fun item => name item "recipient") >>= fun names =>
          if names.isEmpty then .error (.invalid .noRecipients)
          else .ok ((Bound.upTo names).1.eraseDups, (Bound.upTo names).2) := by
    intro v items hv hitems
    rw [recipients_of_elements, hitems]
    · rintro s rfl
      exact hv
    · rintro t rfl
      exact hv
    · rintro rows rfl
      cases hitems
  rcases h with rfl | ⟨hv, hw, items, hitems, hitems'⟩
  · rfl
  · rw [hrecipients hv hitems, hrecipients hw hitems']

end Argument

/-! ## Spellings of a call -/

/-- Calls that are the same but for the spellings of their arguments. -/
inductive Call.Respelled : Call → Call → Prop where
  | same (c : Call) : Respelled c c
  | publish {id id' package package' createdAt createdAt' : Value} (hid : id.SameId id')
      (hpackage : package.SameBytes package') (htime : createdAt.SameInstant createdAt')
      (client : Value) :
      Respelled (.keyPackages (.publish id client package createdAt))
        (.keyPackages (.publish id' client package' createdAt'))
  | getById {id id' : Value} (hid : id.SameId id') :
      Respelled (.keyPackages (.getById id)) (.keyPackages (.getById id'))
  | remove {id id' : Value} (hid : id.SameId id') :
      Respelled (.keyPackages (.remove id)) (.keyPackages (.remove id'))
  | enqueue {id id' content content' createdAt createdAt' : Value} (hid : id.SameId id')
      (hcontent : content.SameBytes content') (htime : createdAt.SameInstant createdAt')
      (recipient : Value) :
      Respelled (.mailbox (.enqueue id recipient content createdAt))
        (.mailbox (.enqueue id' recipient content' createdAt'))
  | fanOut {id id' recipients recipients' content content' createdAt createdAt' : Value}
      (hid : id.SameId id') (hrecipients : recipients.SameElements recipients')
      (hcontent : content.SameBytes content') (htime : createdAt.SameInstant createdAt') :
      Respelled (.mailbox (.fanOut id recipients content createdAt))
        (.mailbox (.fanOut id' recipients' content' createdAt'))
  | acknowledge {id id' : Value} (hid : id.SameId id') (recipient : Value) :
      Respelled (.mailbox (.acknowledge id recipient)) (.mailbox (.acknowledge id' recipient))
  | create {privateKey privateKey' credential credential' : Value}
      (hprivate : privateKey.SameBytes privateKey') (hcredential : credential.SameBytes credential')
      (name : Value) :
      Respelled (.identities (.create name privateKey credential))
        (.identities (.create name privateKey' credential'))

namespace Call

variable {c c' : Call}

theorem store_eq (h : c.Respelled c') : c.store = c'.store := by cases h <;> rfl

theorem operation_eq (h : c.Respelled c') : c.operation = c'.operation := by cases h <;> rfl

/-- The checks take the same from two spellings of a call, or refuse both for the same reason. -/
theorem check_eq (h : c.Respelled c') (now : Moment) : c.check now = c'.check now := by
  cases h with
  | same => rfl
  | publish hid hpackage htime client =>
    simp only [check, KeyPackages.Call.check, Argument.identifier_eq hid,
      Argument.payload_eq hpackage, Argument.stamp_eq htime]
  | getById hid | remove hid =>
    simp only [check, KeyPackages.Call.check, Argument.identifier_eq hid]
  | enqueue hid hcontent htime recipient =>
    simp only [check, Mailbox.Call.check, Argument.identifier_eq hid,
      Argument.payload_eq hcontent, Argument.stamp_eq htime]
  | fanOut hid hrecipients hcontent htime =>
    simp only [check, Mailbox.Call.check, Argument.identifier_eq hid,
      Argument.payload_eq hcontent, Argument.recipients_eq hrecipients, Argument.stamp_eq htime]
  | acknowledge hid recipient =>
    simp only [check, Mailbox.Call.check, Argument.identifier_eq hid]
  | create hprivate hcredential name =>
    simp only [check, Identities.Call.check, Argument.payload_eq hprivate,
      Argument.payload_eq hcredential]

end Call

/-- Two spellings of a call come to the same on every handle. -/
theorem Handle.call_eq {c c' : Call} (hc : c.Respelled c') (h : Handle) (now : Moment)
    (storage : Storage) : h.call now c storage = h.call now c' storage := by
  simp only [call, Call.store_eq hc, Call.operation_eq hc, Call.check_eq hc]

/-! ## Runs -/

/-- Steps that are the same but for the spellings of a call's arguments. -/
inductive Step.Respelled : Step → Step → Prop where
  | same (step : Step) : Respelled step step
  | call {c c' : Call} (hc : c.Respelled c') (name : String) :
      Respelled (.call name c) (.call name c')

namespace Session

theorem step_eq {step step' : Step} (h : step.Respelled step') (s : Session) :
    s.step step = s.step step' := by
  cases h with
  | same => rfl
  | call hc name => simp only [Session.step, Host.call, Handle.call_eq hc]

/-- Two runs that differ in the spellings of arguments only give the same answers and the same texts,
and after each of their steps everything is the same. -/
theorem run_eq_of_respelled (s : Session) {steps steps' : List Step}
    (h : List.Forall₂ Step.Respelled steps steps') :
    (s.run steps).1 = (s.run steps').1 ∧
      ∀ n, (s.run (steps.take n)).2 = (s.run (steps'.take n)).2 := by
  induction h generalizing s with
  | nil => exact ⟨rfl, fun n => by rw [List.take_nil]⟩
  | @cons step step' rest rest' hstep _ ih =>
    obtain ⟨hanswers, hafter⟩ := ih (s.step step).2
    constructor
    · simp only [run, ← step_eq hstep s, hanswers]
    · intro n
      cases n with
      | zero => rfl
      | succ n => simp only [List.take_succ_cons, run, ← step_eq hstep s, hafter]

/-- A package and a message to two names, said in two ways: with the identifier as such, bytes, a time
without an offset and a list; and with the identifier's bytes, a view, a time two hours ahead of UTC
and a dictionary. -/
theorem run_eq_of_respelled_of_two_spellings :
    let s := Session.start []
    let id : Identifier := ⟨List.replicate 16 7, rfl⟩
    let noon : Moment :=
      ⟨{ year := 2024, month := 2, day := 29, hour := 12 }, none, by decide, by decide⟩
    let two : Moment :=
      ⟨{ year := 2024, month := 2, day := 29, hour := 14 }, some 7200000000, by decide, by decide⟩
    let steps (id payload time names : Value) : List Step :=
      [.opening "db" { role := .server, address := some (.text "sqlite+aiosqlite:///:memory:") },
        .initialise "db",
        .call "db" (.keyPackages (.publish id (.text "ann") payload time)),
        .call "db" (.mailbox (.fanOut id names payload time)),
        .call "db" (.mailbox (.acknowledge id (.text "ann"))),
        .call "db" (.keyPackages (.remove id)),
        .dump "db"]
    let first := steps (.uuid id) (.bytes .fixed [1, 2]) (.moment noon)
      (.list [.text "ann", .text "bob"])
    let second := steps (.bytes .mutable id.bytes) (.bytes .view [1, 2]) (.moment two)
      (.dict [("ann", .int 1), ("bob", .null)])
    List.Forall₂ Step.Respelled first second ∧ (s.run first).1 = (s.run second).1 ∧
      ∀ n, (s.run (first.take n)).2 = (s.run (second.take n)).2 := by
  intro s id noon two steps first second
  have hid : (Value.uuid id).SameId (.bytes .mutable id.bytes) :=
    .inr ⟨id, by simp [Identifier.forms], by simp [Identifier.forms]⟩
  have hpayload : (Value.bytes .fixed [1, 2]).SameBytes (.bytes .view [1, 2]) :=
    .inr ⟨_, rfl, rfl⟩
  have htime : (Value.moment noon).SameInstant (.moment two) := .inr ⟨_, _, rfl, rfl, by decide⟩
  have hnames : (Value.list [.text "ann", .text "bob"]).SameElements
      (.dict [("ann", .int 1), ("bob", .null)]) := .inr ⟨trivial, trivial, _, rfl, rfl⟩
  have hsteps : List.Forall₂ Step.Respelled first second :=
    .cons (.same _) (.cons (.same _) (.cons (.call (.publish hid hpayload htime _) _)
      (.cons (.call (.fanOut hid hnames hpayload htime) _)
        (.cons (.call (.acknowledge hid _) _) (.cons (.call (.remove hid) _)
          (.cons (.same _) .nil))))))
  exact ⟨hsteps, run_eq_of_respelled s hsteps⟩

/-- A fan-out to a text is refused, while one to the list of its characters, which has the same elements,
is carried out. So is one of a grid whose rows are empty, while one of no bytes, which holds the same, is
refused. -/
theorem fanOut_differs_for_text_and_grid :
    let s := ((start []).run [.opening "db"
        { role := .server, address := some (.text "sqlite+aiosqlite:///:memory:") },
      .initialise "db"]).2
    let fan (recipients content : Value) : Outcome := (s.step (.call "db" (.mailbox
      (.fanOut (.uuid ⟨List.replicate 16 7, rfl⟩) recipients content .null)))).1.outcome
    let text : Value := .text "ab"
    let list : Value := .list [.text "a", .text "b"]
    let one : Value := .bytes .fixed [1]
    let none : Value := .bytes .fixed []
    let grid : Value := .grid [[], [], []]
    text.elements? = list.elements? ∧ fan text one = .failed (.invalid .recipientsAsText) ∧
      fan list one = .done (.reply (.count 2)) ∧
      none.bytes?.map (·.1) = grid.bytes?.map (·.1) ∧
      fan list none = .failed (.invalid (.blob "content")) ∧
      fan list grid = .done (.reply (.count 2)) :=
  ⟨rfl, rfl, rfl, rfl, rfl, rfl⟩

end Session

end DeliveryStore
