import DeliveryStore.Proofs.Exits
import DeliveryStore.Proofs.Mailbox
import DeliveryStore.Proofs.Timestamps

/-!
# Calls that overrun

The checks see to the kinds of arguments. They see neither to the ends of the calendar nor to the
number up to which the database counts: a call that speaks of an instant without a date, or asks for
more messages than that number, overruns, and fails with what no store defines. Nor do they see whether
a text has a form in bytes, and whether it or some bytes are too long to be handed over. Main
statements:

* `Handle.failure_of_offered` — what a call fails with, whatever its arguments;
* `Handle.fails_of_overruns` — a call that overruns is not honoured;
* `Host.fails_unless_overrun` — what an operation fails with whose arguments are of their kinds.
-/

namespace DeliveryStore

/-! ## Arguments that cannot be handed over -/

/-- A text or some bytes that cannot be put into a statement, and what they are met with: a text with a
surrogate that stands alone, and what is too long. -/
inductive Value.Unwritable : Value → Unfit → Prop where
  | unpaired (t : Text.Unpaired) : Unwritable (.unpaired t) (.unpaired t.fault)
  | text {s : String} (h : Bound.greatestLength < Text.Utf8.size s) :
      Unwritable (.text s) (.overlong "string")
  | bytes {form : BytesForm} {content : List UInt8} (h : Bound.greatestLength < content.length) :
      Unwritable (.bytes form content) (.overlong "BLOB")
  | grid {rows : List (List UInt8)} (h : Bound.greatestLength < rows.flatten.length) :
      Unwritable (.grid rows) (.overlong "BLOB")

namespace Argument

variable {v : Value} {field : String} {what : Unfit}

/-- A name passes its check and is refused in the statement only if it cannot be handed over. -/
theorem unwritable_of_name (h : name v field = .ok (.error (.unfit what))) : v.Unwritable what := by
  unfold name at h
  split at h
  · split at h
    · cases h
    · rcases Name.bind_eq_error (Except.ok.inj h) with ⟨hlong, heq⟩ | heq
      · cases heq
        exact .text hlong
      · cases heq
  · cases h
    exact .unpaired _
  · cases h

/-- So does a payload. -/
theorem unwritable_of_payload (h : payload v field = .ok (.error (.unfit what))) :
    v.Unwritable what := by
  unfold payload at h
  split at h
  · split at h
    · cases h
    · rcases Payload.bind_eq_error (Except.ok.inj h) with ⟨hlong, heq⟩ | heq
      · cases heq
        exact .bytes hlong
      · cases heq
  · split at h
    · cases h
    · rcases Payload.bind_eq_error (Except.ok.inj h) with ⟨hlong, heq⟩ | heq
      · cases heq
        exact .grid hlong
      · cases heq
  · cases h

/-- Where recipients stop because one cannot be handed over, it is one of them. -/
theorem unwritable_of_recipients {names : List Name}
    (h : recipients v = .ok (names, some (.unfit what))) :
    ∃ items, v.elements? = some items ∧ ∃ item ∈ items, item.Unwritable what := by
  -- The one at which they stop has been checked as a name.
  have hstop : ∀ {items : List Value} {bounds : List (Bound Name)},
      (items.mapM fun item => name item "recipient") = .ok bounds →
        (Bound.upTo bounds).2 = some (.unfit what) → ∃ item ∈ items, item.Unwritable what := by
    intro items
    induction items with
    | nil =>
      intro bounds hbounds hwhy
      cases hbounds
      cases hwhy
    | cons item rest ih =>
      intro bounds hbounds hwhy
      rw [List.mapM_cons] at hbounds
      cases hitem : name item "recipient" with
      | error f =>
        rw [hitem] at hbounds
        cases hbounds
      | ok first =>
        cases hrest : rest.mapM fun item => name item "recipient" with
        | error f =>
          rw [hitem, hrest] at hbounds
          cases hbounds
        | ok others =>
          rw [hitem, hrest] at hbounds
          cases hbounds
          cases first with
          | ok n =>
            obtain ⟨other, hother, hunwritable⟩ := ih hrest hwhy
            exact ⟨other, List.mem_cons_of_mem _ hother, hunwritable⟩
          | error why =>
            cases hwhy
            exact ⟨item, List.mem_cons_self, unwritable_of_name hitem⟩
  unfold recipients at h
  split at h
  · cases h
  · cases h
  · cases h
  split at h
  · cases h
  rename_i items hitems
  cases hnames : items.mapM fun item => name item "recipient" with
  | error f =>
    rw [hnames] at h
    cases h
  | ok bounds =>
    simp only [hnames, bind, Except.bind] at h
    split at h
    · cases h
    · exact ⟨items, hitems, hstop hnames (Prod.mk.inj (Except.ok.inj h)).2⟩

end Argument

namespace Call

variable {now : Moment} {c : Call} {f f' : Failure}

/-- The greatest number of messages that a call gives. -/
def limit? : Call → Option Value
  | .mailbox (.fetch _ limit) => some limit
  | _ => none

/-- A call that overruns, and what with: a moment outside the calendar, a clock that stands where the
present has no stored form, or a limit beyond what the database counts. -/
inductive Overruns (now : Moment) (c : Call) : Failure → Prop where
  | moment {m : Moment} (ht : c.time? = some (.moment m)) (hm : ¬ m.instant.InCalendar) :
      Overruns now c .outsideCalendar
  | clock {f : Failure} (ht : c.time? = some .null) (hf : Argument.present now = .error f) :
      Overruns now c f
  | limit {n : Nat} (hl : c.limit? = some (.int n)) (hn : Mailbox.greatestLimit < n) :
      Overruns now c .limitTooLarge

/-- A call whose time is no moment or whose recipients are no collection, and what it is met with. An
argument of a wrong kind is refused as invalid everywhere else. -/
inductive Mistaken (c : Call) : Failure → Prop where
  | time {v : Value} (ht : c.time? = some v) (hnull : v ≠ .null) (hm : ∀ m, v ≠ .moment m) :
      Mistaken c (.notAMoment v.kindName)
  | recipients {v : Value} (hr : c.recipients? = some v) (he : v.elements? = none) :
      Mistaken c (.notIterable v.kindName)
  | grid {rows : List (List UInt8)} (hr : c.recipients? = some (.grid rows)) :
      Mistaken c .severalDimensions

/-- The texts and bytes that a call puts into its statements. -/
def contents : Call → List Value
  | .keyPackages (.publish _ client package _) => [client, package]
  | .keyPackages (.getById _) | .keyPackages (.remove _) => []
  | .keyPackages (.listByClient client) | .keyPackages (.oldestForClient client)
  | .keyPackages (.countByClient client) => [client]
  | .mailbox (.enqueue _ recipient content _) => [recipient, content]
  | .mailbox (.fanOut _ recipients content _) => content :: recipients.elements?.getD []
  | .mailbox (.fetch recipient _) | .mailbox (.pendingCount recipient)
  | .mailbox (.acknowledge _ recipient) | .mailbox (.purge recipient) => [recipient]
  | .identities (.create name privateKey credential) => [name, privateKey, credential]
  | .identities (.get name) | .identities (.delete name) => [name]

/-- A call with a text or bytes that cannot be handed over, and what it is met with. -/
inductive Unwritable (c : Call) : Failure → Prop where
  | content {v : Value} {what : Unfit} (hv : v ∈ c.contents) (hw : v.Unwritable what) :
      Unwritable c (.unfit what)

/-- A call whose time, if it gives one, is nothing or a moment, and whose recipients, if it gives them
as one argument, are a collection. -/
structure InKind (c : Call) : Prop where
  time : ∀ v, c.time? = some v → v = .null ∨ ∃ m, v = .moment m
  recipients : ∀ v, c.recipients? = some v → v.elements?.isSome

theorem InKind.not_mistaken (hc : c.InKind) : ¬ c.Mistaken f := by
  rintro (⟨ht, hnull, hm⟩ | ⟨hr, he⟩ | hr)
  · rcases hc.time _ ht with rfl | ⟨m, rfl⟩
    · exact hnull rfl
    · exact hm m rfl
  · have hsome := hc.recipients _ hr
    rw [he] at hsome
    cases hsome
  · cases hc.recipients _ hr

/-- A call does not give both a time and a limit. -/
theorem limit?_of_time? {v : Value} (ht : c.time? = some v) : c.limit? = none := by
  unfold time? at ht
  split at ht
  · rfl
  · rfl
  · rfl
  · cases ht

end Call

/-! ## Checks -/

namespace Argument

variable {α β : Type} {v : Value} {now : Moment} {f : Failure}

/-- A time that has no stored form overruns, or it is no time. -/
theorem fails_stamp {c : Call} (ht : c.time? = some v) :
    Fails (fun f => c.Overruns now f ∨ c.Mistaken f) (stamp now v) := by
  intro f hf
  cases v with
  | null => exact .inl (.clock ht hf)
  | moment m =>
    obtain ⟨rfl, hout⟩ := stamp_moment_error_iff.1 hf
    exact .inl (.moment ht hout)
  | _ =>
    cases hf
    exact .inr (.time ht nofun nofun)

/-- Of the present no store defines why it has no stored form. -/
theorem class?_of_present (hf : present now = .error f) : f.class? = none := by
  unfold present at hf
  split at hf
  · cases hf
    rfl
  · have hstamp : stamp now (.moment now) = .error f := hf
    rw [(stamp_moment_error_iff.1 hstamp).1]
    rfl

/-- A clock that shows UTC always gives the present a stored form. -/
theorem present_of_utc (h : now.offset = some 0) : ∃ s, present now = .ok s := by
  have hinstant : now.instant = ⟨now.civil.micros⟩ := by
    simp [Moment.instant, h]
  have hin : now.instant.InCalendar := by
    have hmicros := now.civil_valid.micros_lt
    rw [hinstant]
    unfold Instant.InCalendar
    dsimp only
    omega
  obtain ⟨s, hs⟩ := Option.isSome_iff_exists.1 (now.instant.isSome_stamp?.2 hin)
  have hstamp : stamp now (.moment now) = .ok s := stamp_moment_ok_iff.2 hs
  refine ⟨s, ?_⟩
  unfold present
  rw [h]
  exact hstamp

/-- A limit that passes its check is a whole number as it was given. -/
theorem eq_int_of_limit {n : Nat} (h : limit v = .ok (some n)) : v = .int n := by
  unfold limit at h
  split at h
  · cases h
  · split at h
    · cases h
      rw [Int.toNat_of_nonneg (by omega)]
    · cases h
  · cases h

/-- Checks one after the other fail if the last fails. -/
theorem error_bind {x : Except Failure α} {next : α → Except Failure β}
    (h : ∀ a, ∃ f, next a = .error f) : ∃ f, (x >>= next) = .error f := by
  cases x with
  | error f => exact ⟨f, rfl⟩
  | ok a => exact h a

theorem error_map {x : Except Failure α} (h : ∃ f, x = .error f) (g : α → β) :
    ∃ f, x.map g = .error f := by
  obtain ⟨f, rfl⟩ := h
  exact ⟨f, rfl⟩

end Argument

/-- Only a fetch is checked to be a fetch with a limit, which is the one that it gives. -/
theorem Mailbox.eq_fetch_of_check {now : Moment} {c : Mailbox.Call} {recipient : Name} {n : Nat}
    (h : c.check now = .ok (.fetch recipient (some n))) : ∃ v, c = .fetch v (.int n) := by
  cases c with
  | fetch v limit =>
    simp only [Call.check, bind, Except.bind] at h
    split at h
    · cases h
    rename_i name hname
    split at h
    · cases h
    rename_i hlimit
    cases name <;> cases h
    exact ⟨v, by rw [Argument.eq_int_of_limit hlimit]⟩
  | enqueue id recipient content createdAt =>
    obtain ⟨m, hr, -⟩ := check_enqueue h rfl
    cases hr
  | fanOut id recipients content createdAt =>
    obtain ⟨_, _, _, _, hr, -⟩ := check_fanOut h rfl
    cases hr
  | pendingCount recipient =>
    simp only [Call.check, bind, Except.bind] at h
    split at h
    · cases h
    rename_i name hname
    cases name <;> cases h
  | acknowledge id recipient =>
    obtain ⟨_, _, hr, -⟩ := check_acknowledge h rfl
    cases hr
  | purge recipient =>
    obtain ⟨_, hr, -⟩ := check_purge h rfl
    cases hr

namespace Call

variable {now : Moment} {c : Call} {f f' : Failure}

open Argument

/-- A call whose time has no stored form does not pass its checks. -/
theorem check_error_of_time {v : Value} (ht : c.time? = some v)
    (hv : stamp now v = .error f) : ∃ f', c.check now = .error f' := by
  have hstop : ∀ {α : Type} (next : String → Except Failure α),
      ∃ f', (stamp now v >>= next) = .error f' := by
    intro α next
    rw [hv]
    exact ⟨f, rfl⟩
  unfold time? at ht
  split at ht <;> cases ht
  all_goals
    exact error_map (error_bind fun _ => error_bind fun _ => error_bind fun _ => hstop _) _

/-- What a call overruns with, no store defines. -/
theorem Overruns.class?_eq (h : c.Overruns now f) : f.class? = none := by
  cases h with
  | moment | limit => rfl
  | clock _ hf => exact class?_of_present hf

/-- Where the clock shows UTC, a call overruns by what it gives and not by the clock. -/
theorem Overruns.given (h : c.Overruns now f) (hnow : now.offset = some 0) :
    (∃ m, c.time? = some (.moment m) ∧ ¬ m.instant.InCalendar) ∨
      ∃ n : Nat, c.limit? = some (.int n) ∧ Mailbox.greatestLimit < n := by
  cases h with
  | moment ht hm => exact .inl ⟨_, ht, hm⟩
  | clock _ hf =>
    obtain ⟨s, hs⟩ := present_of_utc hnow
    cases hf.symm.trans hs
  | limit hl hn => exact .inr ⟨_, hl, hn⟩

/-- A call overruns in one way only. -/
theorem Overruns.unique (h : c.Overruns now f) (h' : c.Overruns now f') : f = f' := by
  cases h with
  | moment ht hm =>
    cases h' with
    | moment => rfl
    | clock ht' => cases ht.symm.trans ht'
    | limit hl' => cases (limit?_of_time? ht).symm.trans hl'
  | clock ht hf =>
    cases h' with
    | moment ht' => cases ht.symm.trans ht'
    | clock _ hf' => exact Except.error.inj (hf.symm.trans hf')
    | limit hl' => cases (limit?_of_time? ht).symm.trans hl'
  | limit hl =>
    cases h' with
    | moment ht' => cases (limit?_of_time? ht').symm.trans hl
    | clock ht' => cases (limit?_of_time? ht').symm.trans hl
    | limit => rfl

/-- A fetch that passes its checks with a limit was given that limit. -/
theorem limit?_of_check {recipient : Name} {n : Nat}
    (h : c.check now = .ok (.mailbox (.fetch recipient (some n)))) :
    c.limit? = some (.int n) := by
  cases c with
  | keyPackages c | identities c => cases store_of_check h
  | mailbox c =>
    cases hc : c.check now with
    | error f =>
      rw [check, hc] at h
      cases h
    | ok r =>
      rw [check, hc] at h
      cases h
      obtain ⟨v, rfl⟩ := Mailbox.eq_fetch_of_check hc
      rfl

/-- A call that gives a limit fails in its checks, or it is a fetch with that limit, if it can be made
at all. -/
theorem check_of_limit? {n : Nat} (hl : c.limit? = some (.int n)) (hn : 0 < n) :
    (∃ f, c.check now = .error f) ∨
      (∃ recipient, c.check now = .ok (.mailbox (.fetch recipient (some n)))) ∨
        ∃ why, c.check now = .ok (.mailbox (.unbound [] why)) := by
  unfold limit? at hl
  split at hl <;> cases hl
  rename_i recipient
  have hlimit : limit (.int n) = .ok (some n) := if_pos (by omega)
  cases hname : name recipient "recipient" with
  | error f => exact .inl ⟨f, by simp only [check, Mailbox.Call.check, hname]; rfl⟩
  | ok bound =>
    cases bound with
    | ok r => exact .inr (.inl ⟨r, by simp only [check, Mailbox.Call.check, hname, hlimit]; rfl⟩)
    | error why =>
      exact .inr (.inr ⟨why, by simp only [check, Mailbox.Call.check, hname, hlimit]; rfl⟩)

end Call

/-! ## Limits -/

namespace Database

variable {d : Database} {readOnly : Bool}

/-- Only a fetch is refused for its limit, which is then beyond what the database counts. -/
theorem fetch_of_limitTooLarge {r : Request}
    (h : d.carryOut readOnly r = .error (.refusal .limitTooLarge)) :
    ∃ recipient n, r = .mailbox (.fetch recipient (some n)) ∧ Mailbox.greatestLimit < n := by
  cases r with
  | keyPackages r =>
    obtain ⟨rows, -, happly⟩ := refusal_of_onTable h
    cases r with
    | publish p =>
      simp only [KeyPackages.Request.apply] at happly
      split at happly <;> cases happly
      rename_i hinsert
      rcases Table.refusal_of_insert hinsert with ⟨heq, -⟩ | ⟨heq, -⟩ <;> cases heq
    | getById id | oldestForClient client =>
      simp only [KeyPackages.Request.apply] at happly
      split at happly <;> cases happly
    | listByClient client | countByClient client | remove id | unbound why => cases happly
  | mailbox r =>
    obtain ⟨rows, -, happly⟩ := refusal_of_onTable h
    cases r with
    | fetch recipient most =>
      cases most with
      | none => cases happly
      | some n =>
        refine ⟨recipient, n, rfl, ?_⟩
        by_contra hle
        rw [Mailbox.Request.apply, if_pos (Nat.le_of_not_lt hle)] at happly
        cases happly
    | enqueue m | fanOut id recipients content createdAt | unbound before why =>
      simp only [Mailbox.Request.apply] at happly
      split at happly <;> cases happly
      rename_i hinsert
      rcases Table.refusal_of_insert hinsert with ⟨heq, -⟩ | ⟨heq, -⟩ <;> cases heq
    | pendingCount recipient | acknowledge id recipient | purge recipient => cases happly
  | identities r =>
    obtain ⟨rows, -, happly⟩ := refusal_of_onTable h
    cases r with
    | create u =>
      simp only [Identities.Request.apply] at happly
      split at happly <;> cases happly
      rename_i hinsert
      rcases Table.refusal_of_insert hinsert with ⟨heq, -⟩ | ⟨heq, -⟩ <;> cases heq
    | get name =>
      simp only [Identities.Request.apply] at happly
      split at happly <;> cases happly
    | delete name | unbound why => cases happly

/-- A fetch with a limit beyond what the database counts is not carried out. -/
theorem carryOut_error_of_limit {n : Nat} (hn : Mailbox.greatestLimit < n) (recipient : Name) :
    ∃ obstacle, d.carryOut readOnly (.mailbox (.fetch recipient (some n))) = .error obstacle := by
  cases hrows : d.messages with
  | none => exact ⟨_, by rw [carryOut, hrows]; rfl⟩
  | some rows =>
    refine ⟨.refusal .limitTooLarge, ?_⟩
    have happly : Mailbox.Request.apply rows (.fetch recipient (some n)) = .error .limitTooLarge :=
      if_neg (Nat.not_le_of_lt hn)
    simp only [carryOut, hrows, onTable, happly, Mailbox.Request.writes, Bool.false_and,
      Bool.false_eq_true, if_false, Except.map]

/-- What stops at an argument is not carried out. -/
theorem carryOut_error_of_unbound (why : Unusable) :
    ∃ obstacle, d.carryOut readOnly (.mailbox (.unbound [] why)) = .error obstacle := by
  cases hrows : d.messages with
  | none => exact ⟨_, by rw [carryOut, hrows]; rfl⟩
  | some rows => exact ⟨.refusal (.unusable why), by rw [carryOut, hrows]; rfl⟩

end Database

/-! ## What cannot be handed over -/

section

variable {now : Moment} {what : Unfit}

open Argument

/-- A call to the store of key packages that stops at an argument gives what cannot be handed over. -/
theorem KeyPackages.unwritable_of_check {c : KeyPackages.Call}
    (h : c.check now = .ok (.unbound (.unfit what))) :
    ∃ v ∈ (Call.keyPackages c).contents, v.Unwritable what := by
  cases c with
  | publish id client package createdAt =>
    simp only [Call.check, bind, Except.bind] at h
    split at h
    · cases h
    split at h
    · cases h
    rename_i vclient hclient
    split at h
    · cases h
    rename_i vpackage hpackage
    split at h
    · cases h
    cases vclient with
    | error why =>
      cases h
      exact ⟨client, List.mem_cons_self, unwritable_of_name hclient⟩
    | ok n =>
      cases vpackage <;> cases h
      exact ⟨package, by simp [Call.contents], unwritable_of_payload hpackage⟩
  | getById id | remove id =>
    simp only [Call.check, bind, Except.bind] at h
    split at h <;> cases h
  | listByClient client | oldestForClient client | countByClient client =>
    simp only [Call.check, bind, Except.bind] at h
    split at h
    · cases h
    rename_i vclient hclient
    cases vclient <;> cases h
    exact ⟨client, List.mem_cons_self, unwritable_of_name hclient⟩

/-- So does a call to the mailbox. -/
theorem Mailbox.unwritable_of_check {c : Mailbox.Call} {before : List Message}
    (h : c.check now = .ok (.unbound before (.unfit what))) :
    ∃ v ∈ (Call.mailbox c).contents, v.Unwritable what := by
  cases c with
  | enqueue id recipient content createdAt =>
    simp only [Call.check, bind, Except.bind] at h
    split at h
    · cases h
    split at h
    · cases h
    rename_i vrecipient hrecipient
    split at h
    · cases h
    rename_i vcontent hcontent
    split at h
    · cases h
    cases vrecipient with
    | error why =>
      cases h
      exact ⟨recipient, List.mem_cons_self, unwritable_of_name hrecipient⟩
    | ok n =>
      cases vcontent <;> cases h
      exact ⟨content, by simp [Call.contents], unwritable_of_payload hcontent⟩
  | fanOut id recipients content createdAt =>
    simp only [Call.check, bind, Except.bind] at h
    split at h
    · cases h
    split at h
    · cases h
    rename_i vcontent hcontent
    split at h
    · cases h
    rename_i bound hrecipients
    obtain ⟨names, stop⟩ := bound
    split at h
    · cases h
    -- Where the recipients stop, one of them is what cannot be handed over; else it is the content.
    have hstops : stop = some (.unfit what) →
        ∃ v ∈ (Call.mailbox (.fanOut id recipients content createdAt)).contents,
          v.Unwritable what := by
      rintro rfl
      obtain ⟨items, hitems, item, hitem, hunwritable⟩ := unwritable_of_recipients hrecipients
      exact ⟨item, by simp [Call.contents, hitems, hitem], hunwritable⟩
    have hcontents : vcontent = .error (.unfit what) →
        ∃ v ∈ (Call.mailbox (.fanOut id recipients content createdAt)).contents,
          v.Unwritable what := by
      rintro rfl
      exact ⟨content, List.mem_cons_self, unwritable_of_payload hcontent⟩
    cases vcontent with
    | ok p =>
      cases stop <;> cases h
      exact hstops rfl
    | error why =>
      simp only [pure, Except.pure, Request.ofFanOut, Except.ok.injEq, Request.unbound.injEq] at h
      obtain ⟨-, h⟩ := h
      split at h
      · cases stop with
        | none => exact hcontents (congrArg Except.error h)
        | some why' => exact hstops (congrArg some h)
      · exact hcontents (congrArg Except.error h)
  | fetch recipient limit =>
    simp only [Call.check, bind, Except.bind] at h
    split at h
    · cases h
    rename_i vrecipient hrecipient
    split at h
    · cases h
    cases vrecipient <;> cases h
    exact ⟨recipient, List.mem_cons_self, unwritable_of_name hrecipient⟩
  | acknowledge id recipient =>
    simp only [Call.check, bind, Except.bind] at h
    split at h
    · cases h
    split at h
    · cases h
    rename_i vrecipient hrecipient
    cases vrecipient <;> cases h
    exact ⟨recipient, List.mem_cons_self, unwritable_of_name hrecipient⟩
  | pendingCount recipient | purge recipient =>
    simp only [Call.check, bind, Except.bind] at h
    split at h
    · cases h
    rename_i vrecipient hrecipient
    cases vrecipient <;> cases h
    exact ⟨recipient, List.mem_cons_self, unwritable_of_name hrecipient⟩

/-- So does a call to the store of identities. -/
theorem Identities.unwritable_of_check {c : Identities.Call}
    (h : c.check = .ok (.unbound (.unfit what))) :
    ∃ v ∈ (Call.identities c).contents, v.Unwritable what := by
  cases c with
  | create name privateKey credential =>
    simp only [Call.check, bind, Except.bind] at h
    split at h
    · cases h
    rename_i vname hname
    split at h
    · cases h
    rename_i vkey hkey
    split at h
    · cases h
    rename_i vcredential hcredential
    cases vname with
    | error why =>
      cases h
      exact ⟨name, List.mem_cons_self, unwritable_of_name hname⟩
    | ok n =>
      cases vkey with
      | error why =>
        cases h
        exact ⟨privateKey, by simp [Call.contents], unwritable_of_payload hkey⟩
      | ok p =>
        cases vcredential <;> cases h
        exact ⟨credential, by simp [Call.contents], unwritable_of_payload hcredential⟩
  | get name | delete name =>
    simp only [Call.check, bind, Except.bind] at h
    split at h
    · cases h
    rename_i vname hname
    cases vname <;> cases h
    exact ⟨name, List.mem_cons_self, unwritable_of_name hname⟩

/-- What a table refuses because it cannot be handed over is among what its call puts into statements. -/
theorem Call.unwritable_of_carryOut {c : Call} {r : Request} {d : Database} {readOnly : Bool}
    (hc : c.check now = .ok r)
    (hd : d.carryOut readOnly r = .error (.refusal (.unusable (.unfit what)))) :
    c.Unwritable (.unfit what) := by
  have hchecked : ∀ {α : Type} {x : Except Failure α} {g : α → Request} {r : α},
      (∀ a b, g a = g b → a = b) → x.map g = .ok (g r) → x = .ok r := by
    intro α x g r hinj hx
    cases x with
    | error f => cases hx
    | ok a => exact congrArg Except.ok (hinj _ _ (Except.ok.inj hx))
  suffices hcontent : ∃ v ∈ c.contents, v.Unwritable what by
    obtain ⟨v, hv, hwritable⟩ := hcontent
    exact .content hv hwritable
  cases r with
  | keyPackages r =>
    obtain ⟨rows, -, happly⟩ := Database.refusal_of_onTable hd
    obtain rfl := KeyPackages.Request.eq_unbound_of_unfit happly
    cases c with
    | keyPackages c =>
      exact KeyPackages.unwritable_of_check (hchecked (fun _ _ => Request.keyPackages.inj) hc)
    | mailbox c | identities c => cases store_of_check hc
  | mailbox r =>
    obtain ⟨rows, -, happly⟩ := Database.refusal_of_onTable hd
    obtain ⟨before, rfl⟩ := Mailbox.Request.eq_unbound_of_unfit happly
    cases c with
    | mailbox c =>
      exact Mailbox.unwritable_of_check (hchecked (fun _ _ => Request.mailbox.inj) hc)
    | keyPackages c | identities c => cases store_of_check hc
  | identities r =>
    obtain ⟨rows, -, happly⟩ := Database.refusal_of_onTable hd
    obtain rfl := Identities.Request.eq_unbound_of_unfit happly
    cases c with
    | identities c =>
      exact Identities.unwritable_of_check (hchecked (fun _ _ => Request.identities.inj) hc)
    | keyPackages c | mailbox c => cases store_of_check hc

end

/-! ## Operations -/

namespace Handle

variable {h : Handle} {now : Moment} {c : Call} {s : Storage} {f : Failure}

/-- A call that a handle offers fails as the stores define, or it overruns, or gives what cannot be
handed over, or its time or its recipients are mistaken, or the handle opens nothing fit for use. -/
theorem failure_of_offered (hoffers : h.role.stores.contains c.store = true)
    (hf : (h.call now c s).outcome = .error f) :
    f.class?.isSome ∨ c.Overruns now f ∨ c.Unwritable f ∨ c.Mistaken f ∨
      ∃ what, h.target = .error (.unfit what) ∧ f = .unfit what := by
  rcases failure_cases hoffers hf with
    hcheck | ⟨r, d, readOnly, refusal, hcheck, hd, rfl⟩ | ⟨fault, rfl⟩ | hunfit
  · have hfails : Argument.Fails (fun f => f.class?.isSome ∨ c.Overruns now f ∨ c.Mistaken f)
        (c.check now) := by
      refine Call.fails_check (fun _ => .inl rfl) ?_ ?_
      · exact fun v hv f hf => .inr (Argument.fails_stamp hv f hf)
      · intro v hv
        refine Argument.fails_recipients (fun _ => .inl rfl) ?_ ?_
        · exact fun he => .inr (.inr (.recipients hv he))
        · rintro ⟨rows, rfl⟩
          exact .inr (.inr (.grid hv))
    rcases hfails f hcheck with hclass | hoverruns | hmistaken
    · exact .inl hclass
    · exact .inr (.inl hoverruns)
    · exact .inr (.inr (.inr (.inl hmistaken)))
  · cases refusal with
    | taken | absent what => exact .inl rfl
    | limitTooLarge =>
      obtain ⟨recipient, n, rfl, hn⟩ := Database.fetch_of_limitTooLarge hd
      exact .inr (.inl (.limit (Call.limit?_of_check hcheck) hn))
    | unusable why =>
      cases why with
      | storage fault => exact .inl rfl
      | unfit what => exact .inr (.inr (.inl (Call.unwritable_of_carryOut hcheck hd)))
  · exact .inl rfl
  · exact .inr (.inr (.inr (.inr hunfit)))

/-- A call that overruns is not honoured, whatever it goes to. -/
theorem fails_of_overruns (ho : c.Overruns now f) : ∃ f', (h.call now c s).outcome = .error f' := by
  have hchecks : (∃ f', c.check now = .error f') →
      ∃ f', (h.call now c s).outcome = .error f' := by
    rintro ⟨f', hf'⟩
    unfold call
    rw [hf']
    split <;> exact ⟨_, rfl⟩
  cases ho with
  | moment ht hm =>
    exact hchecks (Call.check_error_of_time ht (Argument.stamp_moment_error_iff.2 ⟨rfl, hm⟩))
  | clock ht hf => exact hchecks (Call.check_error_of_time ht hf)
  | limit hl hn =>
    rcases Call.check_of_limit? hl (Nat.zero_lt_of_lt hn) with
      herror | ⟨recipient, hcheck⟩ | ⟨why, hcheck⟩
    · exact hchecks herror
    · unfold call
      rw [hcheck]
      split
      · exact perform_error _ fun d readOnly => Database.carryOut_error_of_limit hn recipient
      · exact ⟨_, rfl⟩
    · unfold call
      rw [hcheck]
      split
      · exact perform_error _ fun d readOnly => Database.carryOut_error_of_unbound why
      · exact ⟨_, rfl⟩

end Handle

/-- An operation of a server or a client whose arguments are of their kinds succeeds, or fails as the
stores define, unless a call overruns, gives what cannot be handed over, or the address is one that is
refused when it is first used. A call that overruns is never honoured: it fails with what it overruns
with, if nothing else keeps it from that. Texts among the arguments need not be Unicode, and texts and
payloads may be of any size; the address is a Unicode text. -/
theorem Host.fails_unless_overrun (host : Host) {h : Handle} (hrole : h.role ≠ .base) :
    let defined (f : Failure) : Prop := ∃ cls, f.class? = some cls ∧ cls ≠ .store
    let refused (f : Failure) : Prop := ∃ what, h.target = .error (.unfit what) ∧ f = .unfit what
    (host.initialise h).Fails (fun f => defined f ∨ refused f) ∧
      ∀ c : Call, h.role.stores.contains c.store = true → c.InKind →
        (host.call h c).Fails
            (fun f => defined f ∨ refused f ∨ c.Unwritable f ∨ c.Overruns host.now f) ∧
          ∀ f, c.Overruns host.now f → f.class? = none ∧
            ∃ f', (host.call h c).outcome = .error f' ∧
              (defined f' ∨ refused f' ∨ c.Unwritable f' ∨ f' = f) := by
  intro defined refused
  have hdefined : ∀ {f : Failure}, f.class?.isSome → defined f := by
    intro f hf
    obtain ⟨cls, hcls⟩ := Option.isSome_iff_exists.1 hf
    exact ⟨cls, hcls, fun hstore => f.class?_ne_store (hstore ▸ hcls)⟩
  refine ⟨?_, fun c hoffers hkind => ?_⟩
  · intro f hf
    rw [Host.initialise, Host.settle_outcome] at hf
    rcases h.failure_of_initialise hrole hf with hclass | hunfit
    · exact .inl (hdefined hclass)
    · exact .inr hunfit
  have hfails : (host.call h c).Fails
      (fun f => defined f ∨ refused f ∨ c.Unwritable f ∨ c.Overruns host.now f) := by
    intro f hf
    rw [Host.call, Host.settle_outcome] at hf
    rcases Handle.failure_of_offered hoffers hf with
      hclass | hover | hunwritable | hmistaken | hunfit
    · exact .inl (hdefined hclass)
    · exact .inr (.inr (.inr hover))
    · exact .inr (.inr (.inl hunwritable))
    · exact absurd hmistaken hkind.not_mistaken
    · exact .inr (.inl hunfit)
  refine ⟨hfails, fun f hover => ⟨hover.class?_eq, ?_⟩⟩
  obtain ⟨f', hf'⟩ : ∃ f', (host.call h c).outcome = .error f' := by
    rw [Host.call, Host.settle_outcome]
    exact Handle.fails_of_overruns hover
  refine ⟨f', hf', ?_⟩
  rcases hfails f' hf' with hd | hr | hu | hover'
  · exact .inl hd
  · exact .inr (.inl hr)
  · exact .inr (.inr (.inl hu))
  · exact .inr (.inr (.inr (hover'.unique hover)))

/-- Failures that the stores do not define leave the operations of a server: for one message more than
the database counts, for a moment an hour before the calendar begins, for a name that is one unpaired
surrogate, and for an option of the address that is refused when it is first used. -/
theorem overruns_escape :
    let answer (address : String) (c : Call) : Option (Except Failure (Reply Row)) :=
      let s := ((Session.start []).run
        [.opening "db" { role := .server, address := some (.text address) }, .initialise "db"]).2
      (s.handles.lookup "db").map fun h => (s.host.call h c).outcome
    let fetch (limit : Nat) : Call := .mailbox (.fetch (.text "ann") (.int limit))
    let early : Moment :=
      { civil := { year := 1, month := 1, day := 1 }, offset := some 3600000000
        civil_valid := by decide, offset_small := by decide }
    let enqueue : Call := .mailbox (.enqueue (.bytes .fixed (List.replicate 16 0)) (.text "ann")
      (.bytes .fixed [1]) (.moment early))
    let memory := "sqlite+aiosqlite:///:memory:"
    let surrogate : Text.Unpaired := ⟨[], 0, []⟩
    answer memory (fetch Mailbox.greatestLimit) = some (.ok (.rows [])) ∧
      answer memory (fetch (Mailbox.greatestLimit + 1)) = some (.error .limitTooLarge) ∧
      answer memory enqueue = some (.error .outsideCalendar) ∧
      answer memory (.mailbox (.purge (.unpaired surrogate))) =
        some (.error (.unfit (.unpaired surrogate.fault))) ∧
      answer "sqlite+aiosqlite:///a.db?cached_statements=9999999999" (fetch 1) =
        some (.error (.unfit .number)) ∧
      ∀ f ∈ [Failure.limitTooLarge, .outsideCalendar, .unfit (.unpaired surrogate.fault),
        .unfit .number], f.class? = none := by
  refine ⟨?_, ?_, ?_, ?_, ?_, by decide⟩
  all_goals decide +kernel

end DeliveryStore
