import DeliveryStore.Proofs.Calendar
import DeliveryStore.Proofs.StoredData
import Mathlib.Data.List.Nodup

/-!
# Well-formed rows

Whatever has been asked of a session, with whatever arguments, the rows that it has stored are well
formed: no two have one key, identifiers have their sixteen bytes, names are not empty, and times are
written in the one way in which they are ever written. Payloads may be empty, since a view can have rows
in which there is nothing. Main statements:

* `IsStamp.isCanonical` — the stored form of an instant is the canonical text of a date and time;
* `Database.WellKept.wellFormed` — the rows of well-kept tables are well formed;
* `stored_rows_wellFormed` — so are all rows that are ever stored.
-/

namespace DeliveryStore

/-! ## Canonical times -/

/-- A text in the canonical form of times: it is the stamp, `YYYY-MM-DDTHH:MM:SS.ffffffZ`, of a date
and time that there is in UTC, and that moment is written so. -/
structure IsCanonical (text : String) : Prop where
  length_eq : text.length = 27
  names : ∃ m : Moment, m.offset = some 0 ∧ text = String.ofList m.civil.stamp
  written : ∀ m : Moment, m.offset = some 0 → text = String.ofList m.civil.stamp →
    ∀ now : Moment, Argument.stamp now (.moment m) = .ok text

/-- The stored form of an instant is canonical. -/
theorem IsStamp.isCanonical {text : String} (h : IsStamp text) : IsCanonical text := by
  obtain ⟨i, hi⟩ := h
  obtain ⟨htext, hvalid, hmicros⟩ := Instant.stamp?_eq_some hi
  constructor
  case length_eq => rw [htext, String.length_ofList, Civil.length_stamp]
  case names =>
    let m : Moment :=
      { civil := i.civil
        offset := some 0
        civil_valid := hvalid
        offset_small := by simp [microsPerDay] }
    exact ⟨m, rfl, htext⟩
  case written =>
    intro m hoffset hm now
    -- A stamp can be read in one way only, so that the moment is the instant that was stored.
    have hstamp : m.civil.stamp = i.civil.stamp := String.ofList_injective (hm.symm.trans htext)
    have hcivil := Civil.eq_of_stamp_eq m.civil_valid hvalid hstamp
    have hinstant : m.instant = i := by
      rw [Moment.instant, hoffset, hcivil, hmicros]
      simp
    simp only [Argument.stamp, Argument.written, hinstant, hi]

/-! ## Rows -/

/-- A row of key packages whose fields are as they should be. -/
structure KeyPackage.WellFormed (p : KeyPackage) : Prop where
  id : p.id.bytes.length = 16
  client : p.client.text ≠ ""
  createdAt : IsCanonical p.createdAt

/-- A message whose fields are as they should be. -/
structure Message.WellFormed (m : Message) : Prop where
  id : m.id.bytes.length = 16
  recipient : m.recipient.text ≠ ""
  createdAt : IsCanonical m.createdAt

/-- A user whose fields are as they should be. -/
structure User.WellFormed (u : User) : Prop where
  name : u.name.text ≠ ""

namespace Database

/-- Data in whose tables no two rows have one key, and all rows are well formed. -/
structure WellFormed (d : Database) : Prop where
  keyPackages : ∀ rows, d.keyPackages = some rows →
    (rows.map fun p => p.id.bytes).Nodup ∧ ∀ p ∈ rows, p.WellFormed
  messages : ∀ rows, d.messages = some rows →
    (rows.map fun m => (m.id.bytes, m.recipient.text)).Nodup ∧ ∀ m ∈ rows, m.WellFormed
  users : ∀ rows, d.users = some rows →
    (rows.map fun u => u.name.text).Nodup ∧ ∀ u ∈ rows, u.WellFormed

/-- Keys that differ are told apart by what is seen of them. -/
theorem nodup_seen {ρ κ γ : Type} {key : ρ → κ} {rows : List ρ} (see : κ → γ)
    (hsee : Function.Injective see) (h : (rows.map key).Nodup) :
    (rows.map fun r => see (key r)).Nodup := by
  have hmap := h.map hsee
  rwa [List.map_map] at hmap

variable {d : Database}

/-- The rows of well-kept tables are well formed. -/
theorem WellKept.wellFormed (h : d.WellKept) : d.WellFormed := by
  constructor
  case keyPackages =>
    intro rows hrows
    have hkept := h.keyPackages rows hrows
    refine ⟨nodup_seen Identifier.bytes ?_ hkept.keys, fun p hp => ?_⟩
    · rintro ⟨a, _⟩ ⟨b, _⟩ rfl
      rfl
    · exact ⟨p.id.size_eq, p.client.text_ne, (hkept.rows p hp).isCanonical⟩
  case messages =>
    intro rows hrows
    have hkept := h.messages rows hrows
    refine ⟨nodup_seen (fun k : Identifier × Name => (k.1.bytes, k.2.text)) ?_ hkept.keys,
      fun m hm => ?_⟩
    · rintro ⟨⟨a, _⟩, ⟨r, _⟩⟩ ⟨⟨b, _⟩, ⟨q, _⟩⟩ heq
      cases heq
      rfl
    · exact ⟨m.id.size_eq, m.recipient.text_ne, (hkept.rows m hm).isCanonical⟩
  case users =>
    intro rows hrows
    have hkept := h.users rows hrows
    refine ⟨nodup_seen Name.text (fun _ _ => Name.ext) hkept.keys, fun u _ => ?_⟩
    exact ⟨u.name.text_ne⟩

end Database

/-! ## Stored rows -/

section Weaker

variable {W W' : Database → Prop}

theorem Content.All.mono {c : Content} (hc : c.All W) (h : ∀ d, W d → W' d) : c.All W' := by
  cases c with
  | text s | index => trivial
  | database writeAhead data => exact h data hc
  | log pending =>
    cases pending with
    | none => trivial
    | some data => exact h data hc

theorem Node.All.mono {n : Node} (hn : n.All W) (h : ∀ d, W d → W' d) : n.All W' := by
  cases n with
  | directory => trivial
  | file c => exact Content.All.mono hn h

/-- Storage all of whose data have a property has only data that have a weaker one. -/
theorem Storage.All.mono {s : Storage} (hs : s.All W) (h : ∀ d, W d → W' d) : s.All W' where
  tree := fun e he => (hs.tree e he).mono h
  memories := fun m hm => h m.2 (hs.memories m hm)
  channels := fun c hc data hdata => h data (hs.channels c hc data hdata)

end Weaker

/-- Whatever has been done in a session, the rows of all its data are well formed: those in files and
in logs, those in memory, and those that any handle sees. -/
theorem stored_rows_wellFormed (environment : List (String × String)) (steps : List Step) :
    let s := ((Session.start environment).run steps).2
    s.host.storage.All Database.WellFormed ∧
      ∀ (h : Handle) (d : Database), (s.host.view h id).outcome = .ok d → d.WellFormed := by
  intro s
  have hs : s.Reachable := ⟨environment, steps, rfl⟩
  have hall := hs.all Database.wellKept_empty fun hw hb => hw.becomes hb
  exact ⟨hall.mono fun d hd => hd.wellFormed, fun h d hd => (hs.wellKept hd).wellFormed⟩

/-- The rows of a file that a server and a client share, one in each table, the times given with an
offset, and calls refused in between. -/
theorem stored_rows_wellFormed_of_three :
    let key : Identifier := ⟨List.replicate 16 1, rfl⟩
    let ann : Name := ⟨"ann", by decide⟩
    let bytes (n : UInt8) : Value := .bytes .mutable [n]
    let noon : Moment :=
      { civil := { year := 2025, month := 1, day := 1, hour := 12 }
        offset := some 3600000000
        civil_valid := by decide
        offset_small := by decide }
    let address : Option Value := some (.text "sqlite+aiosqlite:///a.db")
    let steps : List Step := [.opening "s" { role := .server, address }, .initialise "s",
      .opening "c" { role := .client, address }, .initialise "c",
      .call "s" (.keyPackages (.publish (.uuid key) (.text "ann") (bytes 2) (.moment noon))),
      .call "s" (.keyPackages (.publish (.uuid key) (.text "bob") (bytes 3) .null)),
      .call "s" (.mailbox (.enqueue (.uuid key) (.text "ann") (bytes 4) .null)),
      .call "s" (.mailbox (.enqueue (bytes 1) (.text "ann") (bytes 4) .null)),
      .call "c" (.identities (.create (.text "ann") (bytes 5) (bytes 6)))]
    let s := ((Session.start []).run steps).2
    let d : Database :=
      { keyPackages := some [⟨key, ann, ⟨[2], by decide⟩, "2025-01-01T11:00:00.000000Z"⟩]
        messages := some [⟨key, ann, ⟨[4], by decide⟩, "2025-01-01T00:00:00.000000Z"⟩]
        users := some [⟨ann, ⟨[5], by decide⟩, ⟨[6], by decide⟩⟩] }
    (s.handles.lookup "c").map (fun h => (s.host.view h id).outcome) = some (.ok d) ∧
      d.WellFormed := by
  intro key ann bytes noon address steps s d
  have hview : (s.handles.lookup "c").map (fun h => (s.host.view h id).outcome) = some (.ok d) := by
    decide +kernel
  obtain ⟨h, -, hd⟩ := Option.map_eq_some_iff.1 hview
  exact ⟨hview, (stored_rows_wellFormed [] steps).2 h d hd⟩

/-- A view of three rows in which there is nothing is taken for a payload, and stored as no bytes. -/
example :
    let s := ((Session.start []).run [.opening "db"
        { role := .server, address := some (.text "sqlite+aiosqlite:///:memory:") },
      .initialise "db", .call "db" (.mailbox (.enqueue (.uuid ⟨List.replicate 16 1, rfl⟩)
        (.text "ann") (.grid [[], [], []]) .null))]).2
    (s.handles.lookup "db").map (fun h => ((s.host.view h Database.messages).outcome.toOption.join.map
      fun rows => rows.map (·.content.bytes))) = some (some [[]]) := by
  decide +kernel

end DeliveryStore
