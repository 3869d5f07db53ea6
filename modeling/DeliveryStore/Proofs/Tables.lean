import DeliveryStore.Proofs.Serving

/-!
# One table at a time

A call sees the table of its store and no other, and leaves every other table as it was. `Database.only`
restricts data to one table. Main statements:

* `Database.answer_only` — a call comes to the same where nothing is there but the table of its store;
* `Database.answer_elsewhere` — a call leaves the tables of other stores alone;
* `Database.furnish_only`, `Database.furnish_only_of_has` — making tables does to each of them what it
  does to it by itself, and nothing to one that is there;
* `Database.answer_onTable` — what a call comes to on the rows of its table.
-/

namespace DeliveryStore

/-- The store of a checked call is that of the call. -/
theorem Call.store_of_check {now : Moment} {c : Call} {r : Request} (h : c.check now = .ok r) :
    r.store = c.store := by
  cases c with
  | keyPackages c | mailbox c | identities c =>
    simp only [check, Except.map] at h
    split at h
    · cases h
    · cases h
      rfl

namespace Database

/-- The data with nothing but the table of one store. -/
def only (d : Database) : Store → Database
  | .keyPackages => { keyPackages := d.keyPackages }
  | .mailbox => { messages := d.messages }
  | .identities => { users := d.users }

variable {d d' : Database} {role : Role} {readOnly : Bool} {now : Moment} {c : Call} {r : Request}
  {store : Store}

theorem only_keyPackages_inj :
    d.only .keyPackages = d'.only .keyPackages ↔ d.keyPackages = d'.keyPackages := by
  simp only [only, mk.injEq, and_true]

theorem only_mailbox_inj : d.only .mailbox = d'.only .mailbox ↔ d.messages = d'.messages := by
  simp only [only, mk.injEq, true_and, and_true]

theorem only_identities_inj : d.only .identities = d'.only .identities ↔ d.users = d'.users := by
  simp only [only, mk.injEq, true_and]

/-! ## Calls -/

theorem carryOut_only (d : Database) (readOnly : Bool) (r : Request) :
    (d.only r.store).carryOut readOnly r =
      (d.carryOut readOnly r).map fun k => { k with database := k.database.only r.store } := by
  cases r with
  | keyPackages r =>
    simp only [carryOut, only, Request.store]
    cases onTable .keyPackages d.keyPackages r.writes readOnly r.apply <;> rfl
  | mailbox r =>
    simp only [carryOut, only, Request.store]
    cases onTable .mailbox d.messages r.writes readOnly r.apply <;> rfl
  | identities r =>
    simp only [carryOut, only, Request.store]
    cases onTable .identities d.users r.writes readOnly r.apply <;> rfl

theorem carryOut_elsewhere {k : Commit} (h : d.carryOut readOnly r = .ok k)
    (hs : store ≠ r.store) : k.database.only store = d.only store := by
  cases r with
  | keyPackages r | mailbox r | identities r =>
    obtain ⟨-, -, -, -, -, rfl⟩ := onTable_map_ok h
    cases store <;> first | rfl | exact absurd rfl hs

/-- A call comes to the same where nothing is there but the table of its store. -/
theorem answer_only (d : Database) (role : Role) (readOnly : Bool) (now : Moment) (c : Call) :
    (d.only c.store).answer role readOnly now c =
      ((d.answer role readOnly now c).1, (d.answer role readOnly now c).2.only c.store) := by
  unfold answer
  split
  swap
  · rfl
  cases hcheck : c.check now with
  | error f => rfl
  | ok r =>
    have hstore := Call.store_of_check hcheck
    dsimp only
    rw [← hstore]
    unfold respond
    rw [carryOut_only]
    cases d.carryOut readOnly r <;> rfl

/-- A call leaves the tables of other stores alone. -/
theorem answer_elsewhere (hs : store ≠ c.store) :
    (d.answer role readOnly now c).2.only store = d.only store := by
  unfold answer
  split
  swap
  · rfl
  cases hcheck : c.check now with
  | error f => rfl
  | ok r =>
    rw [← Call.store_of_check hcheck] at hs
    dsimp only
    unfold respond
    cases hcarry : d.carryOut readOnly r with
    | error obstacle => rfl
    | ok k => exact carryOut_elsewhere hcarry hs

/-- Where the table of its store is the same, a call comes to the same and leaves the same there. -/
theorem answer_congr (h : d.only c.store = d'.only c.store) (role : Role) (readOnly : Bool)
    (now : Moment) :
    (d.answer role readOnly now c).1 = (d'.answer role readOnly now c).1 ∧
      (d.answer role readOnly now c).2.only c.store =
        (d'.answer role readOnly now c).2.only c.store := by
  have hd := d.answer_only role readOnly now c
  have hd' := d'.answer_only role readOnly now c
  rw [h, hd'] at hd
  exact ⟨(congrArg Prod.fst hd).symm, (congrArg Prod.snd hd).symm⟩

/-! ## Making tables -/

theorem create_only_self (d : Database) (store : Store) :
    (d.create store).only store = (d.only store).create store := by
  cases store <;> rfl

theorem create_elsewhere {other : Store} (hs : store ≠ other) :
    (d.create other).only store = d.only store := by
  cases store <;> cases other <;> first | rfl | exact absurd rfl hs

theorem foldl_create_only (h : d.only store = d'.only store) (stores : List Store) :
    (stores.foldl create d).only store = (stores.foldl create d').only store := by
  induction stores generalizing d d' with
  | nil => exact h
  | cons first rest ih =>
    refine ih ?_
    by_cases hs : store = first
    · subst hs
      rw [create_only_self, create_only_self, h]
    · rw [create_elsewhere hs, create_elsewhere hs, h]

/-- What making the tables of a role leaves: the data with these tables, if they may be written. -/
theorem furnish_snd (d : Database) (role : Role) (readOnly : Bool) :
    (d.furnish role readOnly).2 = if readOnly then d else role.stores.foldl create d := by
  cases readOnly with
  | true =>
    rcases d.furnish_cases role true with ⟨f, h⟩ | ⟨-, -, h⟩ | ⟨hwrites, -⟩
    · rw [h, if_pos rfl]
    · rw [h, if_pos rfl]
    · cases hwrites
  | false => cases role <;> rfl

/-- Making tables does to each of them what it does to it by itself. -/
theorem furnish_only (h : d.only store = d'.only store) (role : Role) (readOnly : Bool) :
    (d.furnish role readOnly).2.only store = (d'.furnish role readOnly).2.only store := by
  rw [furnish_snd, furnish_snd]
  split
  · exact h
  · exact foldl_create_only h role.stores

/-- What making tables comes to depends on which of them there are. -/
theorem furnish_fst_congr (h : ∀ store, d.has store = d'.has store) (role : Role)
    (readOnly : Bool) : (d.furnish role readOnly).1 = (d'.furnish role readOnly).1 := by
  have hhas : d.has = d'.has := funext h
  unfold furnish ensure
  rw [hhas]
  by_cases hlacks : (readOnly && role.stores.any fun s => !d'.has s) = true
  · rw [if_pos hlacks, if_pos hlacks]
    split <;> rfl
  · rw [if_neg hlacks, if_neg hlacks]
    split <;> rfl

/-- Making tables leaves a table alone that is there. -/
theorem create_only_of_has (h : d.has store = true) (other : Store) :
    (d.create other).only store = d.only store := by
  by_cases hs : store = other
  · subst hs
    cases store <;> obtain ⟨rows, hrows⟩ := Option.isSome_iff_exists.1 h <;>
      simp only [create, only, hrows, Option.getD_some]
  · exact create_elsewhere hs

/-- Making the tables of a role leaves a table alone that is there. -/
theorem furnish_only_of_has (h : d.has store = true) (role : Role) (readOnly : Bool) :
    (d.furnish role readOnly).2.only store = d.only store := by
  have hfold : ∀ (stores : List Store) (d : Database), d.has store = true →
      (stores.foldl create d).only store = d.only store := by
    intro stores
    induction stores with
    | nil => exact fun _ _ => rfl
    | cons first rest ih =>
      intro d h
      rw [List.foldl_cons, ih _ (has_create h), create_only_of_has h]
  rw [furnish_snd]
  split
  · rfl
  · exact hfold role.stores d h

/-! ## Calls on the rows of a table -/

/-- A call that is offered, and whose table is there, is carried out on the rows of that table. -/
theorem answer_onTable {ρ κ : Type} {rows : List ρ} {checked : Except Failure κ}
    {request : κ → Request} {writes : κ → Bool} {apply : κ → List ρ → Except Refusal (Effect ρ)}
    {commit : Effect ρ → Commit} (hoffers : role.stores.contains c.store = true)
    (hcarry : ∀ r, d.carryOut readOnly (request r) =
      (onTable c.store (some rows) (writes r) readOnly (apply r)).map commit) :
    c.check now = checked.map request →
      d.answer role readOnly now c =
        match checked with
        | .error f => (.error f, d)
        | .ok r =>
          if writes r && readOnly then (.error (.unavailable c.operation .readOnly), d)
          else
            match apply r rows with
            | .error refusal => (.error ((Obstacle.refusal refusal).failure c.operation), d)
            | .ok e => (.ok (commit e).reply, (commit e).database) := by
  intro hcheck
  unfold answer
  rw [if_pos hoffers, hcheck]
  cases checked with
  | error f => rfl
  | ok r => exact respond_onTable (hcarry r) c.operation

end Database

end DeliveryStore
