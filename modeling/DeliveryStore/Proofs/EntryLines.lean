import DeliveryStore.Proofs.AuditTrail

/-!
# Lines of the log

An entry is one line as long as the name in it has no line break: names are printed as they are, and a
name with line breaks takes its entry over several lines, which may read as the entries of operations
that were never called. Main statements:

* `Log.breaks_body`, `Handle.Ends.breaks_eq` — the line breaks of an entry are those of the name in it;
* `Session.lines_of_call`, `Session.one_line_of_name` — how many lines a call prints;
* `Session.forged_enqueue`, `one_message_reads_as_two` — a name that forges the entry of another call.
-/

namespace DeliveryStore

/-! ## Line breaks -/

namespace Log

/-- The number of line breaks in a text. -/
def breaks (s : String) : Nat := s.toList.count '\n'

@[simp] theorem breaks_append (s t : String) : breaks (s ++ t) = breaks s + breaks t := by
  simp [breaks, String.toList_append, List.count_append]

theorem breaks_paint (c : Colour) (s : String) : breaks (c.paint s) = breaks s := by
  have hcode : breaks c.code = 0 := by cases c <;> rfl
  have hreset : breaks reset = 0 := rfl
  rw [Colour.paint, breaks_append, breaks_append, hcode, hreset]
  omega

theorem breaks_repeated {s : String} (hs : breaks s = 0) (n : Nat) : breaks (repeated n s) = 0 := by
  unfold repeated
  induction n with
  | zero => rfl
  | succ n ih => rw [List.replicate_succ, String.join_cons, breaks_append, hs, ih]

theorem breaks_eq_zero_iff {s : String} : breaks s = 0 ↔ '\n' ∉ s.toList := List.count_eq_zero

theorem break_not_mem_hexadecimal (width n : Nat) : '\n' ∉ Text.hexadecimal width n := by
  have hdigit : ∀ d : Fin 16, Nat.digitChar d.val ≠ '\n' := by decide
  unfold Text.hexadecimal
  induction width generalizing n with
  | zero => exact List.not_mem_nil
  | succ width ih =>
    intro hmem
    rcases List.mem_append.1 hmem with hfirst | hlast
    · exact ih _ hfirst
    · exact hdigit ⟨n % 16, Nat.mod_lt n (by decide)⟩ (List.mem_singleton.1 hlast).symm

/-- Neither the digits of an identifier nor those of a number have line breaks. -/
theorem breaks_hex (id : Identifier) : breaks id.hex = 0 := by
  rw [breaks_eq_zero_iff, Identifier.hex, Text.Hex.text, String.toList_ofList]
  intro hmem
  obtain ⟨b, -, hb⟩ := List.mem_flatMap.1 hmem
  exact break_not_mem_hexadecimal 2 b.toNat hb

theorem breaks_repr (n : Nat) : breaks n.repr = 0 := by
  rw [breaks_eq_zero_iff]
  intro hmem
  have hdigit : Char.isDigit '\n' = true :=
    Nat.isDigit_of_mem_toDigits (b := 10) (n := n) (by decide) (by decide) (by simpa using hmem)
  cases hdigit

end Log

namespace Log

/-- The line breaks in details. -/
def detailBreaks (details : List (String × String)) : Nat :=
  breaks (String.join (details.map fun d => d.1 ++ d.2))

@[simp] theorem detailBreaks_nil : detailBreaks [] = 0 := rfl

@[simp] theorem detailBreaks_cons (d : String × String) (details : List (String × String)) :
    detailBreaks (d :: details) = breaks d.1 + breaks d.2 + detailBreaks details := by
  simp [detailBreaks, String.join_cons]

/-- Details are printed with their own line breaks. -/
theorem breaks_details (details : List (String × String)) :
    breaks (String.join (details.map detailText)) = detailBreaks details := by
  have hdetail : ∀ d : String × String, breaks (detailText d) = breaks d.1 + breaks d.2 := by
    intro d
    have hblank : breaks " " = 0 := rfl
    have hequals : breaks "=" = 0 := rfl
    simp only [detailText, breaks_append, breaks_paint, hblank, hequals, Nat.zero_add, Nat.add_zero]
  induction details with
  | nil => rfl
  | cons first rest ih =>
    rw [List.map_cons, String.join_cons, breaks_append, hdetail, ih, detailBreaks_cons]

end Log

/-- The line breaks in a note. -/
def Note.breaks (n : Note) : Nat := Log.breaks n.operation + Log.detailBreaks n.details

namespace Log

/-- An entry of a group without the line break at its end. -/
def body (e : Entry) : String :=
  Thread.lead {} e.group e.last ++ " | " ++ Colour.green.paint e.column ++ " | " ++
    (colourOf e.operation).paint e.operation ++ String.join (e.details.map detailText)

theorem line_eq_body (e : Entry) : Thread.line {} e = body e ++ "\n" := rfl

/-- A note is printed with its own line breaks and those of the column. -/
theorem breaks_body (group : String) (name : Option String) (n : Note) :
    breaks (body (Host.entry group name n)) = breaks (Host.column name) + n.breaks := by
  have hlead : breaks (Thread.lead {} (some group) false) = 0 := by
    have hstroke : breaks (stroke false) = 0 := rfl
    simp only [Thread.lead, breaks_append, breaks_repeated (s := rail) rfl, hstroke]
  have hbar : breaks " | " = 0 := rfl
  simp only [body, Host.entry, breaks_append, breaks_paint, breaks_details, hlead, hbar, Note.breaks]
  omega

end Log

/-! ## Line breaks in notes -/

/-- The name that a request gives. One with several names or with none, or that stops at an argument,
has no such name. -/
def Request.name? : Request → Option Name
  | .keyPackages (.publish p) => some p.client
  | .keyPackages (.listByClient client) | .keyPackages (.oldestForClient client)
  | .keyPackages (.countByClient client) => some client
  | .keyPackages (.getById _) | .keyPackages (.remove _) | .keyPackages (.unbound _) => none
  | .mailbox (.enqueue m) => some m.recipient
  | .mailbox (.fanOut _ _ _ _) | .mailbox (.unbound _ _) => none
  | .mailbox (.fetch recipient _) | .mailbox (.pendingCount recipient)
  | .mailbox (.acknowledge _ recipient) | .mailbox (.purge recipient) => some recipient
  | .identities (.create u) => some u.name
  | .identities (.get name) | .identities (.delete name) => some name
  | .identities (.unbound _) => none

/-- The line breaks in the name that a request gives. -/
def Request.breaks (r : Request) : Nat := (r.name?.map fun name => Log.breaks name.text).getD 0

/-- What was carried out is noted with the line breaks of the name. -/
theorem Request.breaks_deed {r : Request} {lost : Nat} {n : Note} (hn : r.deed lost = some n) :
    n.breaks = r.breaks := by
  cases r with
  | keyPackages r | mailbox r =>
    cases r <;> cases hn
    all_goals
      simp only [Note.breaks, Request.breaks, Request.name?, Log.detailBreaks_cons, Log.breaks_hex,
        Log.breaks_repr]
      simp [Log.breaks]
  | identities r =>
    cases r <;> cases hn
    all_goals
      simp only [Note.breaks, Request.breaks, Request.name?, Log.detailBreaks_cons, Log.breaks_repr]
      simp [Log.breaks]

theorem Call.breaks_operation (c : Call) : Log.breaks c.operation = 0 := by
  cases c with
  | keyPackages c => cases c <;> simp [operation, KeyPackages.Call.operation, Log.breaks]
  | mailbox c => cases c <;> simp [operation, Mailbox.Call.operation, Log.breaks]
  | identities c => cases c <;> simp [operation, Identities.Call.operation, Log.breaks]

/-- A conflict is noted with the line breaks of the name, or without the name. -/
theorem Request.breaks_conflict {operation : String} (ho : Log.breaks operation = 0) (r : Request) :
    (Completion.conflict operation r.conflictDetails).breaks = r.breaks ∨
      (Completion.conflict operation r.conflictDetails).breaks = 0 := by
  have hbreaks : (Completion.conflict operation r.conflictDetails).breaks =
      Log.detailBreaks r.conflictDetails := by
    simp only [Note.breaks, Completion.conflict, Log.detailBreaks_cons, ho]
    simp [Log.breaks]
  rw [hbreaks]
  -- Packages and messages for several are noted by their identifiers, the others with a name.
  have hpackage : Log.breaks "package_id" = 0 := rfl
  have hmessage : Log.breaks "message_id" = 0 := rfl
  have hrecipient : Log.breaks "recipient" = 0 := rfl
  have husername : Log.breaks "username" = 0 := rfl
  cases r with
  | keyPackages r =>
    right
    cases r with
    | publish p =>
      simp [conflictDetails, KeyPackages.Request.conflictDetails, Log.breaks_hex, hpackage]
    | _ => rfl
  | mailbox r =>
    cases r with
    | enqueue m =>
      left
      simp [conflictDetails, Mailbox.Request.conflictDetails, Log.breaks_hex, hmessage, hrecipient,
        breaks, name?]
    | fanOut id recipients content createdAt =>
      right
      simp [conflictDetails, Mailbox.Request.conflictDetails, Log.breaks_hex, hmessage]
    | unbound before why =>
      right
      cases before with
      | nil => rfl
      | cons m rest =>
        simp [conflictDetails, Mailbox.Request.conflictDetails, Log.breaks_hex, hmessage]
    | _ => exact .inr rfl
  | identities r =>
    cases r with
    | create u =>
      left
      simp [conflictDetails, Identities.Request.conflictDetails, husername, breaks, name?]
    | _ => exact .inr rfl

/-- A fault of storage is noted without line breaks. -/
theorem Completion.breaks_unavailable {operation : String} (ho : Log.breaks operation = 0)
    (fault : StorageFault) : (Completion.unavailable operation fault.label).breaks = 0 := by
  have hlabel : Log.breaks fault.label = 0 := by
    cases fault <;> simp [StorageFault.label, Log.breaks]
  simp only [Note.breaks, Completion.unavailable, Log.detailBreaks_cons, ho, hlabel]
  simp [Log.breaks]

/-! ## Lines -/

namespace Handle.Ends

variable {h : Handle} {s s' : Storage} {operation : String} {r : Request}
  {outcome : Except Failure (Reply Row)} {n : Note}

/-- The note of an ending has the line breaks of the name that the request gives, or none; if the
request was carried out it has those of the name. -/
theorem breaks_eq {note : Option Note} (he : h.Ends s s' operation r outcome note)
    (ho : Log.breaks operation = 0) (hn : note = some n) :
    (n.breaks = r.breaks ∨ n.breaks = 0) ∧ (∀ reply, outcome = .ok reply → n.breaks = r.breaks) := by
  cases he with
  | carriedOut reply before after free =>
    have hbreaks := Request.breaks_deed hn
    exact ⟨.inl hbreaks, fun _ _ => hbreaks⟩
  | taken before clashes =>
    cases hn
    refine ⟨r.breaks_conflict ho, ?_⟩
    rintro reply ⟨⟩
  | unavailable fault =>
    cases hn
    refine ⟨.inr (Completion.breaks_unavailable ho fault), ?_⟩
    rintro reply ⟨⟩
  | absent | overrun | unfit | unbound => cases hn

end Handle.Ends

namespace Session

variable {environment : List (String × String)} {steps : List Step} {name : String} {h : Handle}

/-- What a call prints is nothing, or the header of the group, if the history has no entry of the group,
and an entry. The entry is one line but for the line breaks in the name that the call gives, and it
has all of these if the call was carried out. -/
theorem lines_of_call
    (hh : ((start environment).run steps).2.handles.lookup name = some h) {c : Call}
    (hoffers : h.role.stores.contains c.store = true) :
    let s := ((start environment).run steps).2
    let history := (start environment).history steps
    let answer := (s.step (.call name c)).1
    answer.text = "" ∨ ∃ r entry, c.check s.host.now = .ok r ∧
      answer.text = (if c.store.group ∈ history then "" else Log.headerLine 0 true c.store.group) ++
        (entry ++ "\n") ∧
      (Log.breaks entry = r.breaks ∨ Log.breaks entry = 0) ∧
      ∀ result, answer.outcome = .done result → Log.breaks entry = r.breaks := by
  intro s history answer
  obtain ⟨hname, ⟨f, -, hrefused⟩ | ⟨r, outcome, note, hr, hends, hanswer⟩⟩ :=
    call_is_audited hh hoffers
  · exact .inl (congrArg (·.1.text) hrefused)
  -- The column shows the name of the role, which no caller chooses.
  have hcolumn : Log.breaks (Host.column h.name) = 0 := by
    rw [hname]
    cases hrole : h.role with
    | base =>
      rw [hrole] at hoffers
      cases hoffers
    | server | client => rfl
  cases note with
  | none => exact .inl (congrArg Answer.text hanswer)
  | some n =>
    obtain ⟨hbreaks, hdone⟩ := hends.breaks_eq c.breaks_operation rfl
    have hentry : Log.breaks (Log.body (Host.entry c.store.group h.name n)) = n.breaks := by
      rw [Log.breaks_body, hcolumn, Nat.zero_add]
    refine .inr ⟨r, Log.body (Host.entry c.store.group h.name n), hr,
      congrArg Answer.text hanswer, ?_, ?_⟩
    · rwa [hentry]
    · intro result hresult
      rw [hentry]
      have houtcome : Outcome.of .reply outcome = .done result :=
        (congrArg Answer.outcome hanswer).symm.trans hresult
      cases outcome with
      | ok reply => exact hdone reply rfl
      | error f => cases houtcome

/-- A name without a line break cannot forge a line: what its call prints is nothing, or the header of
the group, if the history has no entry of the group, and one line. -/
theorem one_line_of_name
    (hh : ((start environment).run steps).2.handles.lookup name = some h) {c : Call}
    (hoffers : h.role.stores.contains c.store = true)
    (hname : ∀ r n, c.check ((start environment).run steps).2.host.now = .ok r →
      r.name? = some n → '\n' ∉ n.text.toList) :
    let answer := (((start environment).run steps).2.step (.call name c)).1
    answer.text = "" ∨
      Log.breaks answer.text =
        (if c.store.group ∈ (start environment).history steps then 0 else 1) + 1 := by
  intro answer
  rcases lines_of_call hh hoffers with hnothing | ⟨r, entry, hr, htext, hbreaks, -⟩
  · exact .inl hnothing
  have hnone : r.breaks = 0 := by
    unfold Request.breaks
    cases hn : r.name? with
    | none => rfl
    | some n => exact Log.breaks_eq_zero_iff.2 (hname r n hr hn)
  have hentry : Log.breaks entry = 0 := by
    rcases hbreaks with hsame | hzero
    · rw [hsame, hnone]
    · exact hzero
  have hheader : Log.breaks (Log.headerLine 0 true c.store.group) = 1 := by
    cases c.store <;> rfl
  have hend : Log.breaks "\n" = 1 := rfl
  right
  rw [htext, Log.breaks_append, Log.breaks_append, hentry, hend]
  split
  · rfl
  · rw [hheader]

end Session

/-! ## Forged entries -/

/-- A note whose last detail goes on, behind a line break, with an entry is shown as the note without
that entry, and the entry below it. -/
theorem Log.shown_forged (history : List String) (group : String) (name : Option String)
    (operation : String) (details : List (String × String)) (key value : String) (e : Entry) :
    shown history group name (some ⟨operation, details ++ [(key, value ++ "\n" ++ body e)]⟩) =
      shown history group name (some ⟨operation, details ++ [(key, value)]⟩) ++
        Thread.line {} e := by
  simp [shown, Host.entry, line_eq_body, body, detailText, String.append_assoc]

/-- Whoever chooses the recipient of a message chooses what the log says below it: for every entry there
is a name of a recipient with which the message is logged as one for another recipient, followed by that
entry. -/
theorem Session.forged_enqueue {environment : List (String × String)} {steps : List Step}
    {name : String} {h : Handle}
    (hh : ((start environment).run steps).2.handles.lookup name = some h)
    (hoffers : h.role.stores.contains .mailbox = true) {c : Mailbox.Call} {m : Message}
    {recipient : String} {e : Log.Entry}
    (hc : c.check ((start environment).run steps).2.host.now = .ok (.enqueue m))
    (hname : m.recipient.text = recipient ++ "\n" ++ Log.body e) :
    let answer := (((start environment).run steps).2.step (.call name (.mailbox c))).1
    ∀ result, answer.outcome = .done result →
      answer.text =
        Log.shown ((start environment).history steps) Store.mailbox.group h.name
            (some ⟨"ENQUEUE", [("message_id", m.id.hex), ("recipient", recipient)]⟩) ++
          Log.Thread.line {} e := by
  intro answer result hdone
  have hcheck : (Call.mailbox c).check ((start environment).run steps).2.host.now =
      .ok (.mailbox (.enqueue m)) := by
    simp only [Call.check, hc]
    rfl
  obtain ⟨-, ⟨f, hf, -⟩ | ⟨r, outcome, note, hr, hends, hanswer⟩⟩ :=
    call_is_audited hh (c := .mailbox c) hoffers
  · cases hf.symm.trans hcheck
  cases hr.symm.trans hcheck
  rw [show answer.outcome = Outcome.of .reply outcome from congrArg Answer.outcome hanswer] at hdone
  refine (congrArg Answer.text hanswer).trans ?_
  cases hends with
  | carriedOut reply before after free =>
    dsimp only [Request.deed]
    rw [hname]
    exact Log.shown_forged _ _ _ "ENQUEUE" [("message_id", m.id.hex)] "recipient" recipient e
  | _ => cases hdone

/-- One message for a name with a line break is logged as two messages for names without one. -/
theorem one_message_reads_as_two :
    let mailbox := ((Session.start []).run
      [.opening "db" { role := .server, address := some (.text "sqlite+aiosqlite:///:memory:") },
        .initialise "db"]).2
    let enqueue (b : UInt8) (recipient : String) : Step :=
      .call "db" (.mailbox (.enqueue (.bytes .fixed (List.replicate 16 b)) (.text recipient)
        (.bytes .fixed [1]) .null))
    let printed (steps : List Step) : String := String.join ((mailbox.run steps).1.map (·.text))
    let forBob : Log.Entry := Host.entry Store.mailbox.group (some "server")
      ⟨"ENQUEUE", [("message_id", Text.Hex.text (List.replicate 16 1)), ("recipient", "bob")]⟩
    let forged := printed [enqueue 0 ("ann\n" ++ Log.body forBob)]
    forged = printed [enqueue 0 "ann", enqueue 1 "bob"] ∧ forged ≠ printed [enqueue 0 "ann"] := by
  decide +kernel

end DeliveryStore
