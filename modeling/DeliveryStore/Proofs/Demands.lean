import DeliveryStore.Proofs.Overruns

/-!
# Demands on arguments

A call makes demands on its arguments, one after the other. Whether a demand is met can be told from
the argument, and so can the complaint about one that is not; only of the present the clock has to be
asked. A call is refused for the first demand that is not met, whatever it goes to, and touches
nothing. Main statements:

* `Call.obeys_check` — the checks of a call follow its demands;
* `Demand.met_of_utc`, `Demand.complaint_of_utc` — clocks that show UTC make no difference;
* `arguments_decide_first` — a call is refused for the first demand that is not met, and is invalid
  for no other reason.
-/

namespace DeliveryStore

/-! ## Demands -/

/-- A text that is not empty, with surrogates or without. -/
def Value.IsFilledText (v : Value) : Prop := (∃ s, v = .text s ∧ s ≠ "") ∨ ∃ t, v = .unpaired t

/-- Bytes in any form of which there are some, of a grid at least a row. -/
def Value.IsFilledBytes (v : Value) : Prop :=
  (∃ form content, v = .bytes form content ∧ content ≠ []) ∨ ∃ rows, v = .grid rows ∧ rows ≠ []

/-- What a call demands of one of its arguments. -/
inductive Demand where
  | identifier (v : Value) (field : String)
  | name (v : Value) (field : String)
  | payload (v : Value) (field : String)
  | recipients (v : Value)
  | limit (v : Value)
  | time (v : Value)

namespace Demand

/-- Whether a demand is met. Where a time is not given, the present is asked for. -/
def Met (now : Moment) : Demand → Prop
  | identifier v _ => (∃ id, v = .uuid id) ∨
      ∃ form content, v = .bytes form content ∧ form ≠ .view ∧ content.length = idSize
  | name v _ => v.IsFilledText
  | payload v _ => v.IsFilledBytes
  | recipients v => (∀ s, v ≠ .text s) ∧ (∀ t, v ≠ .unpaired t) ∧
      ∃ items, v.elements? = some items ∧ items ≠ [] ∧ ∀ item ∈ items, item.IsFilledText
  | limit v => v = .null ∨ ∃ n, v = .int n ∧ 1 ≤ n
  | time v =>
      (v = .null ∧ now.instant.InCalendar ∧ ¬ (now.offset = none ∧ now.civil.isFirstDay = true)) ∨
        ∃ m, v = .moment m ∧ m.instant.InCalendar

/-- The complaint about a demand that is not met. -/
def complaint (now : Moment) : Demand → Failure
  | identifier _ field => .invalid (.identifier field)
  | name _ field => .invalid (.text field)
  | payload _ field => .invalid (.blob field)
  | recipients (.text _) | recipients (.unpaired _) => .invalid .recipientsAsText
  | recipients (.grid _) => .severalDimensions
  | recipients v =>
    match v.elements? with
    | none => .notIterable v.kindName
    | some [] => .invalid .noRecipients
    | some (_ :: _) => .invalid (.text "recipient")
  | limit _ => .invalid .limit
  | time .null =>
    if now.offset = none ∧ now.civil.isFirstDay = true then .beforeCalendar else .outsideCalendar
  | time (.moment _) => .outsideCalendar
  | time v => .notAMoment v.kindName

/-- The present can always be written down by a clock that shows UTC, so that it makes no difference
for a demand which one it is. -/
theorem met_of_utc {now now' : Moment} (h : now.offset = some 0) (h' : now'.offset = some 0)
    (d : Demand) : d.Met now ↔ d.Met now' := by
  have hpresent : ∀ {m : Moment}, m.offset = some 0 →
      m.instant.InCalendar ∧ ¬ (m.offset = none ∧ m.civil.isFirstDay = true) := by
    intro m hm
    obtain ⟨s, hs⟩ := Argument.present_of_utc hm
    have hwritten : Argument.written m = .ok s := by
      unfold Argument.present at hs
      rwa [hm] at hs
    constructor
    · rw [← Instant.isSome_stamp?, (@Argument.stamp_moment_ok_iff m m s).1 hwritten]
      rfl
    · rw [hm]
      simp
  cases d with
  | time v => simp only [Met, hpresent h, hpresent h']
  | _ => exact Iff.rfl

theorem complaint_of_utc {now now' : Moment} (h : now.offset = some 0)
    (h' : now'.offset = some 0) (d : Demand) : d.complaint now = d.complaint now' := by
  cases d with
  | time v => cases v <;> simp [complaint, h, h']
  | recipients v => cases v <;> rfl
  | _ => rfl

end Demand

/-- The first of several demands that is not met. -/
inductive FirstUnmet (now : Moment) : List Demand → Demand → Prop where
  | here {d : Demand} {rest : List Demand} (hd : ¬ d.Met now) : FirstUnmet now (d :: rest) d
  | later {first d : Demand} {rest : List Demand} (hfirst : first.Met now)
      (hrest : FirstUnmet now rest d) : FirstUnmet now (first :: rest) d

namespace FirstUnmet

variable {now now' : Moment} {demands : List Demand} {d : Demand}

/-- Either all demands are met, or one is the first that is not. -/
theorem met_or_exists (now : Moment) (demands : List Demand) :
    (∀ d ∈ demands, d.Met now) ∨ ∃ d, FirstUnmet now demands d := by
  induction demands with
  | nil => exact .inl fun d hd => absurd hd List.not_mem_nil
  | cons first rest ih =>
    by_cases hfirst : first.Met now
    swap
    · exact .inr ⟨first, .here hfirst⟩
    rcases ih with hall | ⟨d, hd⟩
    · refine .inl ?_
      intro d hd
      rcases List.mem_cons.1 hd with rfl | hrest
      · exact hfirst
      · exact hall d hrest
    · exact .inr ⟨d, .later hfirst hd⟩

theorem of_utc (h : now.offset = some 0) (h' : now'.offset = some 0)
    (hd : FirstUnmet now demands d) : FirstUnmet now' demands d := by
  induction hd with
  | here hd => exact .here fun hmet => hd ((Demand.met_of_utc h h' _).2 hmet)
  | later hfirst _ ih => exact .later ((Demand.met_of_utc h h' _).1 hfirst) ih

end FirstUnmet

/-! ## Checks that follow demands -/

namespace Argument

variable {α β : Type} {now : Moment} {d : Demand} {demands : List Demand} {v : Value}
  {field : String}

/-- A check that passes if a demand is met, and fails with the complaint if it is not. -/
structure Settles (now : Moment) (d : Demand) (x : Except Failure α) : Prop where
  passes : d.Met now → ∃ a, x = .ok a
  fails : ¬ d.Met now → x = .error (d.complaint now)

/-- Checks that pass if all of several demands are met, and fail with the complaint about the first
that is not. -/
structure Obeys (now : Moment) (demands : List Demand) (x : Except Failure α) : Prop where
  passes : (∀ d ∈ demands, d.Met now) → ∃ a, x = .ok a
  fails : ∀ d, FirstUnmet now demands d → x = .error (d.complaint now)

theorem obeys_ok (now : Moment) (a : α) : Obeys now [] (.ok a) := by
  constructor
  · intro _
    exact ⟨a, rfl⟩
  · intro d hd
    cases hd

/-- A check that settles the first demand, before checks that obey the others. -/
theorem Obeys.bind {x : Except Failure α} {next : α → Except Failure β} (hx : Settles now d x)
    (hnext : ∀ a, Obeys now demands (next a)) : Obeys now (d :: demands) (x >>= next) := by
  constructor
  · intro hmet
    obtain ⟨a, rfl⟩ := hx.passes (hmet d List.mem_cons_self)
    exact (hnext a).passes fun e he => hmet e (List.mem_cons_of_mem _ he)
  · intro e he
    cases he with
    | here hunmet =>
      rw [hx.fails hunmet]
      rfl
    | later hmet hrest =>
      obtain ⟨a, rfl⟩ := hx.passes hmet
      exact (hnext a).fails e hrest

theorem Obeys.map {x : Except Failure α} (hx : Obeys now demands x) (g : α → β) :
    Obeys now demands (x.map g) := by
  constructor
  · intro hmet
    obtain ⟨a, rfl⟩ := hx.passes hmet
    exact ⟨g a, rfl⟩
  · intro d hd
    rw [hx.fails d hd]
    rfl

/-- Checks that obey demands and fail do so with the complaint about the first that is not met. -/
theorem Obeys.unmet_of_error {x : Except Failure α} {f : Failure} (hx : Obeys now demands x)
    (hf : x = .error f) : ∃ d, FirstUnmet now demands d ∧ f = d.complaint now := by
  rcases FirstUnmet.met_or_exists now demands with hmet | ⟨d, hd⟩
  · obtain ⟨a, ha⟩ := hx.passes hmet
    cases hf.symm.trans ha
  · exact ⟨d, hd, Except.error.inj (hf.symm.trans (hx.fails d hd))⟩

/-! ## Each check -/

theorem settles_identifier (now : Moment) (v : Value) (field : String) :
    Settles now (.identifier v field) (identifier v field) := by
  constructor
  · rintro (⟨id, rfl⟩ | ⟨form, content, rfl, hform, hsize⟩)
    · exact ⟨id, rfl⟩
    · have hid : Identifier.ofBytes? content = some ⟨content, hsize⟩ := dif_pos hsize
      refine ⟨⟨content, hsize⟩, ?_⟩
      cases form with
      | view => exact absurd rfl hform
      | fixed | mutable => simp only [identifier, hid]
  · intro hunmet
    cases v with
    | uuid id => exact absurd (.inl ⟨id, rfl⟩) hunmet
    | bytes form content =>
      cases form with
      | view => rfl
      | fixed | mutable =>
        have hsize : content.length ≠ idSize := by
          intro hsize
          exact hunmet (.inr ⟨_, content, rfl, by decide, hsize⟩)
        have hid : Identifier.ofBytes? content = none := dif_neg hsize
        simp only [identifier, hid, Demand.complaint]
    | _ => rfl

theorem settles_name (now : Moment) (v : Value) (field : String) :
    Settles now (.name v field) (name v field) := by
  constructor
  · rintro (⟨s, rfl, hs⟩ | ⟨t, rfl⟩)
    · exact ⟨_, if_neg hs⟩
    · exact ⟨_, rfl⟩
  · intro hunmet
    cases v with
    | text s => exact if_pos (by_contra fun hs => hunmet (.inl ⟨s, rfl, hs⟩))
    | unpaired t => exact absurd (.inr ⟨t, rfl⟩) hunmet
    | _ => rfl

theorem settles_payload (now : Moment) (v : Value) (field : String) :
    Settles now (.payload v field) (payload v field) := by
  constructor
  · rintro (⟨form, content, rfl, hcontent⟩ | ⟨rows, rfl, hrows⟩)
    · exact ⟨_, if_neg fun hempty => hcontent (List.isEmpty_iff.1 hempty)⟩
    · exact ⟨_, if_neg fun hempty => hrows (List.isEmpty_iff.1 hempty)⟩
  · intro hunmet
    cases v with
    | bytes form content =>
      refine if_pos (by_contra fun hcontent => hunmet (.inl ⟨form, content, rfl, ?_⟩))
      exact fun hempty => hcontent (List.isEmpty_iff.2 hempty)
    | grid rows =>
      refine if_pos (by_contra fun hrows => hunmet (.inr ⟨rows, rfl, ?_⟩))
      exact fun hempty => hrows (List.isEmpty_iff.2 hempty)
    | _ => rfl

theorem settles_limit (now : Moment) (v : Value) : Settles now (.limit v) (limit v) := by
  constructor
  · rintro (rfl | ⟨n, rfl, hn⟩)
    · exact ⟨none, rfl⟩
    · exact ⟨some n.toNat, if_pos hn⟩
  · intro hunmet
    cases v with
    | null => exact absurd (.inl rfl) hunmet
    | int n => exact if_neg fun hn => hunmet (.inr ⟨n, rfl, hn⟩)
    | _ => rfl

/-- A check for names on every item of a list passes where all of them are names, and gives as many. -/
theorem mapM_name_of_texts {items : List Value} (h : ∀ item ∈ items, item.IsFilledText)
    (field : String) : ∃ names, (items.mapM fun item => name item field) = .ok names ∧
      names.length = items.length := by
  induction items with
  | nil => exact ⟨[], rfl, rfl⟩
  | cons item rest ih =>
    obtain ⟨n, hn⟩ := (settles_name standardNow item field).passes (h item List.mem_cons_self)
    obtain ⟨names, hnames, hlength⟩ := ih fun other hother => h other (List.mem_cons_of_mem _ hother)
    refine ⟨n :: names, ?_, congrArg (· + 1) hlength⟩
    rw [List.mapM_cons, hn, hnames]
    rfl

/-- Where one of them is no name, the check on the first such item refuses the list. -/
theorem mapM_name_of_not_texts {items : List Value}
    (h : ¬ ∀ item ∈ items, item.IsFilledText) (field : String) :
    (items.mapM fun item => name item field) = .error (.invalid (.text field)) := by
  induction items with
  | nil => exact absurd (fun item hitem => absurd hitem List.not_mem_nil) h
  | cons item rest ih =>
    have hsettles := settles_name standardNow item field
    rw [List.mapM_cons]
    by_cases hitem : (Demand.name item field).Met standardNow
    · obtain ⟨n, hn⟩ := hsettles.passes hitem
      have hrest : ¬ ∀ other ∈ rest, other.IsFilledText := by
        intro hall
        refine h ?_
        intro other hother
        rcases List.mem_cons.1 hother with rfl | hmem
        · exact hitem
        · exact hall other hmem
      rw [hn, ih hrest]
      rfl
    · rw [hsettles.fails hitem]
      rfl

/-- The complaint about what is neither a single text nor a grid is told by its elements too. -/
theorem complaint_of_elements (ht : ∀ s, v ≠ .text s) (hu : ∀ t, v ≠ .unpaired t)
    (hg : ∀ rows, v ≠ .grid rows) (now : Moment) :
    (Demand.recipients v).complaint now =
      match v.elements? with
      | none => .notIterable v.kindName
      | some [] => .invalid .noRecipients
      | some (_ :: _) => .invalid (.text "recipient") := by
  cases v with
  | text s => exact absurd rfl (ht s)
  | unpaired t => exact absurd rfl (hu t)
  | grid rows => exact absurd rfl (hg rows)
  | _ => rfl

theorem settles_recipients (now : Moment) (v : Value) :
    Settles now (.recipients v) (recipients v) := by
  constructor
  · rintro ⟨ht, hu, items, hitems, hne, htexts⟩
    obtain ⟨names, hnames, hlength⟩ := mapM_name_of_texts htexts "recipient"
    have hsome : names.isEmpty = false := by
      cases names with
      | nil => exact absurd (List.length_eq_zero_iff.1 hlength.symm) hne
      | cons n rest => rfl
    have hg : ∀ rows, v ≠ .grid rows := by
      rintro rows rfl
      cases hitems
    refine ⟨((Bound.upTo names).1.eraseDups, (Bound.upTo names).2), ?_⟩
    rw [recipients_of_elements ht hu hg, hitems]
    dsimp only
    rw [hnames]
    exact if_neg (by simp [hsome])
  · intro hunmet
    by_cases htext : ∃ s, v = .text s
    · obtain ⟨s, rfl⟩ := htext
      rfl
    by_cases hunpaired : ∃ t, v = .unpaired t
    · obtain ⟨t, rfl⟩ := hunpaired
      rfl
    by_cases hgrid : ∃ rows, v = .grid rows
    · obtain ⟨rows, rfl⟩ := hgrid
      rfl
    have ht : ∀ s, v ≠ .text s := fun s hs => htext ⟨s, hs⟩
    have hu : ∀ t, v ≠ .unpaired t := fun t ht => hunpaired ⟨t, ht⟩
    have hg : ∀ rows, v ≠ .grid rows := fun rows hrows => hgrid ⟨rows, hrows⟩
    rw [recipients_of_elements ht hu hg, complaint_of_elements ht hu hg]
    cases hitems : v.elements? with
    | none => rfl
    | some items =>
      cases items with
      | nil => rfl
      | cons item rest =>
        have hbad : ¬ ∀ other ∈ item :: rest, other.IsFilledText := fun hall =>
          hunmet ⟨ht, hu, _, hitems, List.cons_ne_nil _ _, hall⟩
        dsimp only
        rw [mapM_name_of_not_texts hbad]
        rfl

theorem settles_stamp (now : Moment) (v : Value) : Settles now (.time v) (stamp now v) := by
  have hwritten : ∀ m : Moment, (m.instant.InCalendar → ∃ s, written m = .ok s) ∧
      (¬ m.instant.InCalendar → written m = .error .outsideCalendar) := by
    intro m
    rw [← Instant.isSome_stamp?]
    unfold written
    cases m.instant.stamp? <;> simp
  cases v with
  | null =>
    have hstamp : stamp now .null =
        if now.offset = none ∧ now.civil.isFirstDay = true then .error .beforeCalendar
        else written now := by
      simp [stamp, present]
    rw [hstamp]
    constructor
    · rintro (⟨-, hin, hlater⟩ | ⟨m, hm, -⟩)
      · rw [if_neg hlater]
        exact (hwritten now).1 hin
      · cases hm
    · intro hunmet
      unfold Demand.complaint
      split
      · rfl
      · rename_i hlater
        exact (hwritten now).2 fun hin => hunmet (.inl ⟨rfl, hin, hlater⟩)
  | moment m =>
    constructor
    · rintro (⟨hnull, -⟩ | ⟨m', hm, hin⟩)
      · cases hnull
      · cases hm
        exact (hwritten m).1 hin
    · intro hunmet
      exact (hwritten m).2 fun hin => hunmet (.inr ⟨m, rfl, hin⟩)
  | _ =>
    constructor
    · rintro (⟨hnull, -⟩ | ⟨m', hm, -⟩)
      · cases hnull
      · cases hm
    · intro _
      rfl

end Argument

/-! ## Calls -/

namespace Call

open Argument

/-- What a call demands of its arguments, in the order in which it does. -/
def demands : Call → List Demand
  | .keyPackages (.publish id client package createdAt) =>
    [.identifier id "package_id", .name client "client_id", .payload package "package",
      .time createdAt]
  | .keyPackages (.getById id) | .keyPackages (.remove id) => [.identifier id "package_id"]
  | .keyPackages (.listByClient client) | .keyPackages (.oldestForClient client)
  | .keyPackages (.countByClient client) => [.name client "client_id"]
  | .mailbox (.enqueue id recipient content createdAt) =>
    [.identifier id "message_id", .name recipient "recipient", .payload content "content",
      .time createdAt]
  -- Of a fan-out the content is looked at before the recipients.
  | .mailbox (.fanOut id recipients content createdAt) =>
    [.identifier id "message_id", .payload content "content", .recipients recipients,
      .time createdAt]
  | .mailbox (.fetch recipient limit) => [.name recipient "recipient", .limit limit]
  | .mailbox (.pendingCount recipient) | .mailbox (.purge recipient) =>
    [.name recipient "recipient"]
  | .mailbox (.acknowledge id recipient) =>
    [.identifier id "message_id", .name recipient "recipient"]
  | .identities (.create name privateKey credential) =>
    [.name name "username", .payload privateKey "signature_private_key",
      .payload credential "credential_with_key"]
  | .identities (.get name) | .identities (.delete name) => [.name name "username"]

/-- The checks of a call follow its demands. -/
theorem obeys_check (c : Call) (now : Moment) : Obeys now c.demands (c.check now) := by
  have hid := settles_identifier now
  have hname := settles_name now
  have hpayload := settles_payload now
  have htime := settles_stamp now
  cases c with
  | keyPackages c =>
    refine Obeys.map ?_ _
    cases c with
    | publish id client package createdAt =>
      exact .bind (hid _ _) fun _ => .bind (hname _ _) fun _ => .bind (hpayload _ _) fun _ =>
        .bind (htime _) fun _ => obeys_ok now _
    | getById id | remove id => exact .bind (hid _ _) fun _ => obeys_ok now _
    | listByClient client | oldestForClient client | countByClient client =>
      exact .bind (hname _ _) fun _ => obeys_ok now _
  | mailbox c =>
    refine Obeys.map ?_ _
    cases c with
    | enqueue id recipient content createdAt =>
      exact .bind (hid _ _) fun _ => .bind (hname _ _) fun _ => .bind (hpayload _ _) fun _ =>
        .bind (htime _) fun _ => obeys_ok now _
    | fanOut id recipients content createdAt =>
      exact .bind (hid _ _) fun _ => .bind (hpayload _ _) fun _ =>
        .bind (settles_recipients now _) fun _ => .bind (htime _) fun _ => obeys_ok now _
    | fetch recipient limit =>
      exact .bind (hname _ _) fun _ => .bind (settles_limit now _) fun _ => obeys_ok now _
    | acknowledge id recipient =>
      exact .bind (hid _ _) fun _ => .bind (hname _ _) fun _ => obeys_ok now _
    | pendingCount recipient | purge recipient => exact .bind (hname _ _) fun _ => obeys_ok now _
  | identities c =>
    refine Obeys.map ?_ _
    cases c with
    | create name privateKey credential =>
      exact .bind (hname _ _) fun _ => .bind (hpayload _ _) fun _ => .bind (hpayload _ _) fun _ =>
        obeys_ok now _
    | get name | delete name => exact .bind (hname _ _) fun _ => obeys_ok now _

end Call

/-! ## Operations -/

/-- A call whose arguments do not meet its demands fails with the complaint about the first that is not
met, whatever the handle goes to and whatever a clock in UTC shows; it prints nothing and leaves
everything as it was. A call fails as invalid in no other case. -/
theorem arguments_decide_first (host : Host) {h : Handle} {c : Call}
    (hoffers : h.role.stores.contains c.store = true) :
    (∀ (now : Moment) (d : Demand),
      host.now = now ∨ (host.now.offset = some 0 ∧ now.offset = some 0) →
      FirstUnmet now c.demands d →
      host.call h c = { outcome := .error (d.complaint now), text := "", host }) ∧
    ∀ f, (host.call h c).outcome = .error f → f.class? = some .validation →
      ∃ d, FirstUnmet host.now c.demands d ∧ f = d.complaint host.now := by
  have hobeys := c.obeys_check host.now
  constructor
  · intro now d hclock hd
    have hhere : FirstUnmet host.now c.demands d ∧ d.complaint host.now = d.complaint now := by
      rcases hclock with rfl | ⟨hutc, hutc'⟩
      · exact ⟨hd, rfl⟩
      · exact ⟨hd.of_utc hutc' hutc, d.complaint_of_utc hutc hutc'⟩
    obtain ⟨hfirst, hsame⟩ := hhere
    rw [Host.call, Handle.call_of_check_error _ hoffers (hobeys.fails d hfirst), hsame]
    rfl
  · intro f hf hinvalid
    rw [Host.call, Host.settle_outcome] at hf
    -- What a table or the storage refuses is never called invalid.
    rcases Handle.failure_cases hoffers hf with
      hcheck | ⟨r, d, readOnly, refusal, -, -, rfl⟩ | ⟨fault, rfl⟩ | ⟨what, -, rfl⟩
    · exact hobeys.unmet_of_error hcheck
    · cases refusal with
      | unusable why => cases why <;> cases hinvalid
      | _ => cases hinvalid
    · cases hinvalid
    · cases hinvalid

/-- A fan-out to names of which one is empty, with a text for its time, on a database whose directory
is missing. -/
theorem arguments_decide_first_of_two_flaws :
    let host : Host := {}
    let h : Handle :=
      { number := 0, role := .server, name := some "server", durability := .extra, inMemory := false
        target := .ok { medium := .file (Path.namesOfText "d/a.db") } }
    let names : Value := .tuple [.text "ann", .text ""]
    let c : Call := .mailbox (.fanOut (.bytes .mutable (List.replicate 16 0)) names
      (.bytes .view [1]) (.text "now"))
    h.role.stores.contains c.store = true ∧ FirstUnmet host.now c.demands (.recipients names) ∧
      host.call h c = { outcome := .error (.invalid (.text "recipient")), text := "", host } ∧
      ∀ f, (host.call h c).outcome = .error f → f.class? = some .validation →
        ∃ d, FirstUnmet host.now c.demands d ∧ f = d.complaint host.now := by
  intro host h names c
  have hoffers : h.role.stores.contains c.store = true := rfl
  have hunmet : ¬ (Demand.recipients names).Met host.now := by
    rintro ⟨-, -, items, hitems, -, htexts⟩
    cases hitems
    rcases htexts (.text "") (by simp) with ⟨s, hs, hne⟩ | ⟨t, ht⟩
    · cases hs
      exact hne rfl
    · cases ht
  have hd : FirstUnmet host.now c.demands (.recipients names) :=
    .later (.inr ⟨.mutable, _, rfl, by decide, rfl⟩)
      (.later (.inl ⟨.view, _, rfl, by simp⟩) (.here hunmet))
  obtain ⟨hrefused, honly⟩ := arguments_decide_first host hoffers
  exact ⟨hoffers, hd, hrefused _ _ (.inl rfl) hd, honly⟩

end DeliveryStore
