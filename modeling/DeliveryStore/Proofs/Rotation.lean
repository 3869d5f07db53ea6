import DeliveryStore.Proofs.Turns

/-!
# Rotation

The keys of a user are never replaced: new ones can be created only after the old ones have been
deleted. Whose keys are held, and which, is told by the history of a run alone: `held?` reads it off
the history. The invariant that carries the proof is `Keyring`: under every name the table has the user
that is held there. Main statements:

* `Database.answer_identities` — a call to the store of identities, on the rows of its table;
* `Keyring.serve` — one errand keeps the invariant;
* `Keyring.run` — so does a run of errands, with what is held as its history tells;
* `keys_rotate` — what creating, looking up and deleting come to after a run.
-/

namespace DeliveryStore

/-! ## Calls to the store of identities -/

/-- A call to the store is carried out on the rows of its table. -/
theorem Database.answer_identities {d : Database} {role : Role} {rows : List User}
    (readOnly : Bool) (now : Moment) (hrole : role = .client) (hd : d.users = some rows)
    (c : Identities.Call) :
    d.answer role readOnly now (.identities c) =
      match c.check with
      | .error f => (.error f, d)
      | .ok r =>
        if r.writes && readOnly then (.error (.unavailable c.operation .readOnly), d)
        else
          match r.apply rows with
          | .error refusal => (.error ((Obstacle.refusal refusal).failure c.operation), d)
          | .ok e => (.ok (e.reply.map .user), { d with users := some e.rows }) := by
  have hoffers : role.stores.contains (Call.identities c).store = true := by
    subst hrole
    rfl
  have hcarry : ∀ r : Identities.Request, d.carryOut readOnly (.identities r) =
      (onTable .identities (some rows) r.writes readOnly fun rows => r.apply rows).map fun e =>
        ⟨{ d with users := some e.rows }, e.reply.map .user, e.note⟩ := by
    intro r
    rw [← hd]
    rfl
  have hcheck : (Call.identities c).check now = c.check.map .identities := rfl
  rw [answer_onTable hoffers hcarry hcheck]
  cases c.check with
  | error f => rfl
  | ok r =>
    dsimp only
    cases r.apply rows <;> rfl

namespace Identities

variable {r : Request}

/-- What a creation writes that passes its checks, and whose arguments can be put into a statement, is
what its arguments say. -/
theorem check_create {name privateKey credential : Value}
    (h : (Call.create name privateKey credential).check = .ok r) (hb : r.isBound = true) :
    ∃ u : User, r = .create u ∧ name.name? = some u.name ∧
      privateKey.payload? = some u.privateKey ∧ credential.payload? = some u.credential := by
  simp only [Call.check, bind, Except.bind] at h
  split at h
  · cases h
  rename_i vname hname
  split at h
  · cases h
  rename_i vkey hkey
  split at h
  · cases h
  rename_i vcredential hcredential
  cases h
  cases vname with
  | error why => cases hb
  | ok u =>
  cases vkey with
  | error why => cases hb
  | ok key =>
  cases vcredential with
  | error why => cases hb
  | ok credential =>
  exact ⟨_, rfl, Argument.name_ok_iff.1 hname, Argument.payload_ok_iff.1 hkey,
    Argument.payload_ok_iff.1 hcredential⟩

/-- A lookup that passes its check, and whose name can be put into a statement, is of that name. -/
theorem check_get {name : Value} (h : (Call.get name).check = .ok r) (hb : r.isBound = true) :
    ∃ n, r = .get n ∧ name.name? = some n := by
  simp only [Call.check, bind, Except.bind] at h
  split at h
  · cases h
  rename_i bound hname
  cases h
  cases bound with
  | error why => cases hb
  | ok n => exact ⟨n, rfl, Argument.name_ok_iff.1 hname⟩

/-- A deletion that passes its check, and whose name can be put into a statement, is of that name. -/
theorem check_delete {name : Value} (h : (Call.delete name).check = .ok r) (hb : r.isBound = true) :
    ∃ n, r = .delete n ∧ name.name? = some n := by
  simp only [Call.check, bind, Except.bind] at h
  split at h
  · cases h
  rename_i bound hname
  cases h
  cases bound with
  | error why => cases hb
  | ok n => exact ⟨n, rfl, Argument.name_ok_iff.1 hname⟩

/-- A creation with a name and keys passes its checks. -/
theorem check_create_of_some {u : Name} {privateKey credential : Value} {k c : Payload}
    (hk : privateKey.payload? = some k) (hc : credential.payload? = some c) :
    (Call.create (.text u.text) privateKey credential).check = .ok (.create ⟨u, k, c⟩) := by
  simp only [Call.check, Argument.name_text, Argument.payload_ok_iff.2 hk,
    Argument.payload_ok_iff.2 hc, bind, Except.bind]
  rfl

theorem check_get_of_name (u : Name) : (Call.get (.text u.text)).check = .ok (.get u) := by
  simp only [Call.check, Argument.name_text, bind, Except.bind]
  rfl

theorem check_delete_of_name (u : Name) :
    (Call.delete (.text u.text)).check = .ok (.delete u) := by
  simp only [Call.check, Argument.name_text, bind, Except.bind]
  rfl

end Identities

/-! ## What is held -/

/-- What an event makes of the user of a name: the one that was created, with the keys that the call
gave, or none if it was deleted. Most events make nothing of it. -/
def Event.rotation? (u : Name) (e : Event) : Option (Option User) :=
  match e.errand, e.outcome with
  | .call (.identities (.create name privateKey credential)), .done _ =>
    if name.name? = some u then
      some (privateKey.payload?.bind fun k => credential.payload?.map fun c => ⟨u, k, c⟩)
    else none
  | .call (.identities (.delete name)), .done _ =>
    if name.name? = some u then some none else none
  | _, _ => none

/-- A deletion that succeeds is a turn for the user of its name, and for nobody else. -/
theorem Event.rotation?_delete (now : Moment) (u v : Name) (r : Result) :
    (⟨now, .call (.identities (.delete (.text u.text))), .done r⟩ : Event).rotation? v =
      if v = u then some none else none := by
  have hname : (Value.text u.text).name? = some u := Name.of?_eq_some_iff.2 rfl
  simp only [rotation?, hname, Option.some.injEq, eq_comm]

/-- The user of a name that is held after a history that began with none: the last successful creation
or deletion decides. -/
def held? (u : Name) (events : List Event) : Option User := lastTurn (·.rotation? u) none events

/-! ## The invariant -/

/-- The desk of a client that can be written, and whose table has under each name the user that is
held there. -/
structure Keyring (k : Desk) (held : Name → Option User) : Prop where
  role : k.role = .client
  writable : k.readOnly = false
  rows : ∃ rows, k.data.users = some rows ∧ Table.Shows User.name rows held

namespace Keyring

variable {k : Desk} {held held' : Name → Option User} {rows : List User}

/-- Data with the same users keep the same. -/
theorem of_users (hk : Keyring k held) {data : Database} (hd : data.users = k.data.users)
    (hheld : ∀ u, held' u = held u) : Keyring { k with data } held' := by
  obtain ⟨rows, hrows, hshows⟩ := hk.rows
  exact ⟨hk.role, hk.writable, rows, hd.trans hrows, fun u => (hshows u).trans (hheld u).symm⟩

/-- A call whose arguments are refused changes nothing. -/
theorem serve_refused (hk : Keyring k held) {c : Identities.Call} {f : Failure}
    (hc : c.check = .error f) : k.serve (.call (.identities c)) = (.failed f, k) := by
  obtain ⟨rows, hrows, -⟩ := hk.rows
  simp only [Desk.serve, Database.answer_identities k.readOnly k.now hk.role hrows c, hc]
  rfl

/-- A call that passes its checks is carried out on the table, or refused by it. -/
theorem serve_checked (hk : Keyring k held) (hrows : k.data.users = some rows)
    {c : Identities.Call} {r : Identities.Request} (hc : c.check = .ok r) :
    k.serve (.call (.identities c)) =
      match r.apply rows with
      | .error refusal => (.failed ((Obstacle.refusal refusal).failure c.operation), k)
      | .ok e => (.done (.reply (e.reply.map .user)),
          { k with data := { k.data with users := some e.rows } }) := by
  have hallowed : ¬(r.writes && k.readOnly) = true := by simp [hk.writable]
  have hanswer := Database.answer_identities k.readOnly k.now hk.role hrows c
  rw [hc] at hanswer
  dsimp only at hanswer
  rw [if_neg hallowed] at hanswer
  simp only [Desk.serve, hanswer]
  cases r.apply rows <;> rfl

/-- A call that stops at an argument fails, and changes nothing. -/
theorem serve_unbound (hk : Keyring k held) {c : Identities.Call} {r : Identities.Request}
    (hc : c.check = .ok r) (hb : r.isBound = false) :
    ∃ f, k.serve (.call (.identities c)) = (.failed f, k) := by
  obtain ⟨rows, hrows, -⟩ := hk.rows
  rw [hk.serve_checked hrows hc]
  cases happly : r.apply rows with
  | error refusal => exact ⟨_, rfl⟩
  | ok e =>
    rw [Identities.Request.isBound_of_apply happly] at hb
    cases hb

/-- A user is refused if there is one of the name, or if they are too big for a row, and nothing is
changed then. -/
theorem create (hk : Keyring k held) {name privateKey credential : Value} {u : User}
    (hc : (Identities.Call.create name privateKey credential).check = .ok (.create u)) :
    let after := k.serve (.call (.identities (.create name privateKey credential)))
    (after.1 =
      if (held u.name).isSome then .failed (.conflict "create")
      else if u.fits then .done (.reply (.row (.user u)))
      else .failed (.unavailable "create" .tooBig)) ∧
    (held u.name = none → u.fits = true →
      Keyring after.2 fun n => if u.name = n then some u else held n) ∧
    (¬(held u.name = none ∧ u.fits = true) → ∃ f, after = (.failed f, k)) := by
  intro after
  obtain ⟨rows, hrows, hshows⟩ := hk.rows
  have hafter : after = _ := hk.serve_checked hrows hc
  simp only [Identities.Request.apply, hshows.insert_eq] at hafter
  rw [hafter]
  cases hheld : held u.name with
  | some old =>
    refine ⟨rfl, fun hfree => ?_, fun _ => ⟨_, rfl⟩⟩
    cases hfree
  | none =>
    cases hfits : u.fits with
    | false =>
      refine ⟨rfl, fun _ hsmall => ?_, fun _ => ⟨_, rfl⟩⟩
      cases hsmall
    | true =>
      exact ⟨rfl, fun _ _ => ⟨hk.role, hk.writable, rows ++ [u], rfl, hshows.append hheld⟩,
        fun hnot => absurd ⟨rfl, rfl⟩ hnot⟩

/-- A deletion leaves nobody under its name, and the other users as they were. -/
theorem delete (hk : Keyring k held) {name : Value} {u : Name}
    (hc : (Identities.Call.delete name).check = .ok (.delete u)) :
    let after := k.serve (.call (.identities (.delete name)))
    after.1 = .done (.reply .nothing) ∧ Keyring after.2 fun n => if n = u then none else held n := by
  intro after
  obtain ⟨rows, hrows, hshows⟩ := hk.rows
  have hafter : after = _ := hk.serve_checked hrows hc
  simp only [Identities.Request.apply] at hafter
  rw [hafter]
  exact ⟨rfl, hk.role, hk.writable, _, rfl, hshows.delete u⟩

/-- A lookup finds what is held, and leaves it. -/
theorem get (hk : Keyring k held) {name : Value} {u : Name}
    (hc : (Identities.Call.get name).check = .ok (.get u)) :
    let after := k.serve (.call (.identities (.get name)))
    after.1 = (match held u with
      | some user => .done (.reply (.row (.user user)))
      | none => .failed (.absent (.user u.text))) ∧ Keyring after.2 held := by
  intro after
  obtain ⟨rows, hrows, hshows⟩ := hk.rows
  have hafter : after = _ := hk.serve_checked hrows hc
  simp only [Identities.Request.apply, hshows u] at hafter
  rw [hafter]
  cases held u with
  | none => exact ⟨rfl, hk⟩
  | some user => exact ⟨rfl, hk.role, hk.writable, rows, rfl, hshows⟩

/-- A call to the store keeps the invariant. -/
theorem serve_identities (hk : Keyring k held) (c : Identities.Call) :
    Keyring (k.serve (.call (.identities c))).2 fun u =>
      ((⟨k.now, .call (.identities c), (k.serve (.call (.identities c))).1⟩ : Event).rotation?
        u).getD (held u) := by
  cases hcheck : c.check with
  | error f =>
    -- A call whose arguments are refused is no turn for anybody.
    rw [hk.serve_refused hcheck]
    cases c <;> exact hk
  | ok r =>
    by_cases hb : r.isBound = true
    case neg =>
      -- Nor is one that stops at an argument.
      obtain ⟨f, hserve⟩ := hk.serve_unbound hcheck (Bool.eq_false_iff.2 hb)
      rw [hserve]
      cases c <;> exact hk
    cases c with
    | create name privateKey credential =>
      obtain ⟨u, rfl, hname, hkey, hcredential⟩ := Identities.check_create hcheck hb
      obtain ⟨houtcome, hinserted, hfailed⟩ := hk.create hcheck
      by_cases hdone : held u.name = none ∧ u.fits = true
      · obtain ⟨hheld, hfits⟩ := hdone
        rw [houtcome]
        refine (hinserted hheld hfits).of_users rfl ?_
        intro n
        simp only [Event.rotation?, hname, hkey, hcredential, hheld, hfits, Option.isSome_none,
          Bool.false_eq_true, if_true, if_false, Option.some.injEq, Option.bind_some,
          Option.map_some]
        split
        · rename_i heq
          rw [← heq]
          rfl
        · rfl
      · obtain ⟨f, hf⟩ := hfailed hdone
        rw [hf]
        exact hk
    | get name =>
      obtain ⟨n, rfl, -⟩ := Identities.check_get hcheck hb
      exact (hk.get hcheck).2
    | delete name =>
      obtain ⟨u, rfl, hname⟩ := Identities.check_delete hcheck hb
      obtain ⟨houtcome, hafter⟩ := hk.delete hcheck
      rw [houtcome]
      refine hafter.of_users rfl ?_
      intro n
      simp only [Event.rotation?, hname, Option.some.injEq, eq_comm]
      split <;> rfl

/-- An errand keeps the invariant. -/
theorem serve (hk : Keyring k held) (e : Errand) :
    Keyring (k.serve e).2 fun u =>
      ((⟨k.now, e, (k.serve e).1⟩ : Event).rotation? u).getD (held u) := by
  cases e with
  | call c =>
    cases c with
    | identities c => exact hk.serve_identities c
    | keyPackages c | mailbox c =>
      refine hk.of_users (Database.only_identities_inj.1 (Database.answer_elsewhere ?_)) fun u => rfl
      exact Store.noConfusion
  | initialise =>
    obtain ⟨rows, hrows, -⟩ := hk.rows
    have hhas : k.data.has .identities = true := by
      simp only [Database.has, hrows, Option.isSome_some]
    have hsame := Database.furnish_only_of_has hhas k.role k.readOnly
    exact hk.of_users (Database.only_identities_inj.1 hsame) fun u => rfl
  | clock now => exact ⟨hk.role, hk.writable, hk.rows⟩

/-- Errands keep the invariant, with what is held as their history tells. -/
theorem run (hk : Keyring k held) (errands : List Errand) :
    Keyring (k.run errands).2 fun u =>
      lastTurn (·.rotation? u) (held u) (history k.now errands (k.run errands).1) := by
  induction errands generalizing k held with
  | nil => exact hk
  | cons e rest ih =>
    have hrest := ih (hk.serve e)
    rw [Desk.serve_now] at hrest
    have hhistory : history k.now (e :: rest) (k.run (e :: rest)).1 =
        ⟨k.now, e, (k.serve e).1⟩ ::
          history (e.timeAfter k.now) rest ((k.serve e).2.run rest).1 := rfl
    simp only [hhistory, lastTurn_cons]
    exact hrest

end Keyring

/-! ## Rotating keys -/

/-- After a run of errands on an initialised client that had no users, its desk holds what the history
of the run tells. -/
theorem keyring_of_run {s : Session} {name : String} {d : Database}
    (hs : s.InitialisedAs .client name d) (hd : d.users = some []) (errands : List Errand) :
    let steps := errands.map (·.step name)
    ∃ k, (s.run steps).2.ServesDesk name k ∧
      Keyring k fun u => held? u (history s.host.now errands (s.outcomes steps)) := by
  intro steps
  obtain ⟨houtcomes, hdesk⟩ := hs.servesDesk.run errands
  have hbegin : Keyring ⟨.client, false, s.host.now, d⟩ fun _ => none :=
    ⟨rfl, rfl, [], hd, fun _ => rfl⟩
  have hafter := hbegin.run errands
  rw [← houtcomes] at hafter
  exact ⟨_, hdesk, hafter⟩

/-- After any run of errands on an initialised client that had no users: a creation is a conflict
exactly while the user of its name is held, whatever keys it gives, and otherwise succeeds unless the
user is too big for a row; a lookup returns the keys that the last
successful creation gave, if no deletion came after it; and a deletion succeeds and leaves nobody under
its name, and everybody else as they were. -/
theorem keys_rotate {s : Session} {name : String} {d : Database}
    (hs : s.InitialisedAs .client name d) (hd : d.users = some []) (errands : List Errand)
    (u : Name) :
    let steps := errands.map (·.step name)
    let after := (s.run steps).2
    let events := history s.host.now errands (s.outcomes steps)
    let ask (s : Session) (c : Identities.Call) := s.step (.call name (.identities c))
    let deleted := ask after (.delete (.text u.text))
    let events' := events ++
      [⟨after.host.now, .call (.identities (.delete (.text u.text))), deleted.1.outcome⟩]
    (∀ privateKey credential k c, privateKey.payload? = some k → credential.payload? = some c →
      (ask after (.create (.text u.text) privateKey credential)).1.outcome =
        if (held? u events).isSome then .failed (.conflict "create")
        else if User.fits ⟨u, k, c⟩ then .done (.reply (.row (.user ⟨u, k, c⟩)))
        else .failed (.unavailable "create" .tooBig)) ∧
    (ask after (.get (.text u.text))).1.outcome =
      (match held? u events with
      | some user => .done (.reply (.row (.user user)))
      | none => .failed (.absent (.user u.text))) ∧
    deleted.1.outcome = .done (.reply .nothing) ∧
    held? u events' = none ∧
    (ask deleted.2 (.get (.text u.text))).1.outcome = .failed (.absent (.user u.text)) ∧
    ∀ v ≠ u, held? v events' = held? v events ∧
      (ask deleted.2 (.get (.text v.text))).1.outcome =
        (ask after (.get (.text v.text))).1.outcome := by
  intro steps after events ask deleted events'
  obtain ⟨k, hdesk, hk⟩ := keyring_of_run hs hd errands
  have hask : ∀ c : Identities.Call,
      (ask after c).1.outcome = (k.serve (.call (.identities c))).1 :=
    fun c => (hdesk.step (.call (.identities c))).1
  have hget : ∀ v : Name, (ask after (.get (.text v.text))).1.outcome =
      match held? v events with
      | some user => .done (.reply (.row (.user user)))
      | none => .failed (.absent (.user v.text)) := by
    intro v
    rw [hask, (hk.get (Identities.check_get_of_name v)).1]
  -- The deletion, and what is there after it.
  obtain ⟨hdeleted, hgone⟩ := hk.delete (Identities.check_delete_of_name u)
  obtain ⟨hanswer, hafter⟩ := hdesk.step (.call (.identities (.delete (.text u.text))))
  have houtcome : deleted.1.outcome = .done (.reply .nothing) := hanswer.trans hdeleted
  have hheld : ∀ v, held? v events' = if v = u then none else held? v events := by
    intro v
    rw [held?, lastTurn_concat, houtcome, Event.rotation?_delete]
    split <;> rfl
  have hfound : ∀ v : Name, (ask deleted.2 (.get (.text v.text))).1.outcome =
      match (if v = u then none else held? v events) with
      | some user => .done (.reply (.row (.user user)))
      | none => .failed (.absent (.user v.text)) := by
    intro v
    exact (hafter.step (.call (.identities (.get (.text v.text))))).1.trans
      (hgone.get (Identities.check_get_of_name v)).1
  refine ⟨?_, hget u, houtcome, ?_, ?_, ?_⟩
  · intro privateKey credential key secret hkey hsecret
    exact (hask _).trans (hk.create (Identities.check_create_of_some hkey hsecret)).1
  · rw [hheld, if_pos rfl]
  · rw [hfound, if_pos rfl]
  · intro v hv
    constructor
    · rw [hheld, if_neg hv]
    · rw [hfound, if_neg hv, hget v]

/-- A client that a new session opens in memory is initialised once its table is made. -/
theorem Session.initialised_client_in_memory :
    ((start []).run [.opening "db"
        { role := .client, address := some (.text "sqlite+aiosqlite:///:memory:") },
      .initialise "db"]).2.InitialisedAs .client "db" { users := some [] } := by
  let h : Handle :=
    { number := 0, role := .client, name := some "client", durability := .normal, inMemory := true
      target := .ok { medium := .memory (FileName.ofText Target.memoryName) } }
  refine ⟨⟨⟨_, _, rfl⟩, rfl, ⟨h, rfl, rfl, rfl⟩, by decide⟩, ?_⟩
  intro h' c storage hh he
  obtain rfl : h = h' := Option.some.inj hh
  exact congrArg (fun r => r.toOption.elim false Channel.readOnly) (congrArg Prod.fst he).symm

/-- A user whose keys another creation does not replace, until they have been deleted, and one whose
name differs from theirs in a capital letter. -/
theorem keys_rotate_of_two_users :
    let s := ((Session.start []).run [.opening "db"
        { role := .client, address := some (.text "sqlite+aiosqlite:///:memory:") },
      .initialise "db"]).2
    let d : Database := { users := some [] }
    let u : Name := ⟨"ann", by decide⟩
    let create (name : String) (key : UInt8) : Errand := .call (.identities
      (.create (.text name) (.bytes .fixed [key]) (.bytes .mutable [key, 0])))
    let errands := [create "ann" 1, create "ann" 2, create "Ann" 3,
      .call (.identities (.delete (.text "ann"))), .initialise, create "ann" 4]
    let steps := errands.map (·.step "db")
    let after := (s.run steps).2
    let events := history s.host.now errands (s.outcomes steps)
    let ask (s : Session) (c : Identities.Call) := s.step (.call "db" (.identities c))
    let deleted := ask after (.delete (.text u.text))
    let events' := events ++
      [⟨after.host.now, .call (.identities (.delete (.text u.text))), deleted.1.outcome⟩]
    s.InitialisedAs .client "db" d ∧ d.users = some [] ∧
    (∀ privateKey credential k c, privateKey.payload? = some k → credential.payload? = some c →
      (ask after (.create (.text u.text) privateKey credential)).1.outcome =
        if (held? u events).isSome then .failed (.conflict "create")
        else if User.fits ⟨u, k, c⟩ then .done (.reply (.row (.user ⟨u, k, c⟩)))
        else .failed (.unavailable "create" .tooBig)) ∧
    (ask after (.get (.text u.text))).1.outcome =
      (match held? u events with
      | some user => .done (.reply (.row (.user user)))
      | none => .failed (.absent (.user u.text))) ∧
    deleted.1.outcome = .done (.reply .nothing) ∧
    held? u events' = none ∧
    (ask deleted.2 (.get (.text u.text))).1.outcome = .failed (.absent (.user u.text)) ∧
    ∀ v ≠ u, held? v events' = held? v events ∧
      (ask deleted.2 (.get (.text v.text))).1.outcome =
        (ask after (.get (.text v.text))).1.outcome := by
  intro s d u create errands
  have hs : s.InitialisedAs .client "db" d := Session.initialised_client_in_memory
  exact ⟨hs, rfl, keys_rotate hs rfl errands u⟩

/-- Keys for a user whose name is one unpaired surrogate are not created, though nobody's were. Looking
for them does not find that they are absent, and deleting them fails as well. -/
theorem create_fails_for_surrogate :
    let s := ((Session.start []).run [.opening "db"
        { role := .client, address := some (.text "sqlite+aiosqlite:///:memory:") },
      .initialise "db"]).2
    let surrogate : Text.Unpaired := ⟨[], 0, []⟩
    let ask (c : Identities.Call) := s.step (.call "db" (.identities c))
    s.InitialisedAs .client "db" { users := some [] } ∧
      (ask (.create (.unpaired surrogate) (.bytes .fixed [1]) (.bytes .fixed [2]))).1.outcome =
        .failed (.unfit (.unpaired surrogate.fault)) ∧
      (ask (.get (.unpaired surrogate))).1.outcome =
        .failed (.unfit (.unpaired surrogate.fault)) ∧
      (ask (.delete (.unpaired surrogate))).1.outcome =
        .failed (.unfit (.unpaired surrogate.fault)) :=
  ⟨Session.initialised_client_in_memory, rfl, rfl, rfl⟩

end DeliveryStore
