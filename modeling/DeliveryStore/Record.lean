import DeliveryStore.Field
import DeliveryStore.Identifier
import DeliveryStore.Text.Quoted
import DeliveryStore.Value.Printed

/-!
# Records

The rows that the three stores keep, each with the label by which it is shown and with its size in
the database. A label never shows a payload. `Draft` is a record whose fields nobody has checked.
-/

namespace DeliveryStore

/-- A key package that a client has published, by which others can add it to a group. -/
structure KeyPackage where
  id : Identifier
  client : Name
  package : Payload
  createdAt : String
deriving DecidableEq, Repr

/-- A message that waits for one recipient. -/
structure Message where
  id : Identifier
  recipient : Name
  content : Payload
  createdAt : String
deriving DecidableEq, Repr

/-- The keys of one local user. -/
structure User where
  name : Name
  privateKey : Payload
  credential : Payload
deriving DecidableEq, Repr

/-- The label of a key package, from the digits of its identifier, its client as a literal and its
time. -/
def KeyPackage.labelOf (digits client createdAt : String) : String :=
  "<ServerKeyPackage " ++ digits ++ " client_id=" ++ client ++ " created_at=" ++ createdAt ++ ">"

/-- The label of a message, from the digits of its identifier, its recipient as a literal and its
time. -/
def Message.labelOf (digits recipient createdAt : String) : String :=
  "<ServerMessage " ++ digits ++ " recipient=" ++ recipient ++ " created_at=" ++ createdAt ++ ">"

/-- The label of a user, from the name as a literal. -/
def User.labelOf (name : String) : String := "<ClientUser " ++ name ++ ">"

/-- A key package by its identifier, client and time. -/
def KeyPackage.label (p : KeyPackage) : String :=
  labelOf p.id.hex (Text.Quoted.quote p.client.text) p.createdAt

/-- A message by its identifier, recipient and time. -/
def Message.label (m : Message) : String :=
  labelOf m.id.hex (Text.Quoted.quote m.recipient.text) m.createdAt

/-- A user by name alone. -/
def User.label (u : User) : String := labelOf (Text.Quoted.quote u.name.text)

/-! ## Sizes -/

/-- A field of a row as the database keeps it: how many bytes of text, or of anything else. -/
inductive Field where
  | text (size : Nat)
  | bytes (size : Nat)
deriving DecidableEq, Repr

namespace Field

/-- The field that a text is. -/
def ofText (s : String) : Field := text (Text.Utf8.size s)

/-- How many bytes a field takes. -/
def size : Field → Nat
  | text n | bytes n => n

/-- The number by which a row says what kind of field it has, and how long it is. -/
def kind : Field → Nat
  | text n => 2 * n + 13
  | bytes n => 2 * n + 12

/-- How many bytes such a number takes, seven bits to a byte. -/
def kindSize (f : Field) : Nat :=
  [0x80, 0x4000, 0x200000, 0x10000000].countP (· ≤ f.kind) + 1

/-- How many bytes a row takes: its fields, their kinds, and a byte that says how many those are. -/
def rowSize (fields : List Field) : Nat :=
  fields.foldr (fun f size => f.kindSize + f.size + size) 1

end Field

/-- How much room a key package takes. -/
def KeyPackage.size (p : KeyPackage) : Nat :=
  Field.rowSize [.bytes p.id.bytes.length, .ofText p.client.text, .bytes p.package.bytes.length,
    .ofText p.createdAt]

/-- How much room a message takes. -/
def Message.size (m : Message) : Nat :=
  Field.rowSize [.bytes m.id.bytes.length, .ofText m.recipient.text,
    .bytes m.content.bytes.length, .ofText m.createdAt]

/-- How much room a user takes. -/
def User.size (u : User) : Nat :=
  Field.rowSize [.ofText u.name.text, .bytes u.privateKey.bytes.length,
    .bytes u.credential.bytes.length]

/-- Whether a key package is small enough for a row. -/
def KeyPackage.fits (p : KeyPackage) : Bool := p.size ≤ Bound.greatestSize

/-- Whether a message is small enough for a row. -/
def Message.fits (m : Message) : Bool := m.size ≤ Bound.greatestSize

/-- Whether a user is small enough for a row. -/
def User.fits (u : User) : Bool := u.size ≤ Bound.greatestSize

/-! ## Unchecked records -/

/-- A record that has not been stored, with the fields that its label shows. -/
inductive Draft where
  | keyPackage (id client createdAt : Value)
  | message (id recipient createdAt : Value)
  | user (name : Value)

namespace Draft

/-- Why an identifier cannot be shown: its kind has no hexadecimal form, or has one that is not
computed on demand. -/
inductive LabelFault where
  | noHex (kind : String)
  | hexNotCallable
deriving DecidableEq, Repr

/-- The wording of a fault. -/
def LabelFault.message : LabelFault → String
  | noHex kind => "'" ++ kind ++ "' object has no attribute 'hex'"
  | hexNotCallable => "'str' object is not callable"

/-- The hexadecimal form of a value: bytes and floating-point numbers have one. -/
def hex (v : Value) : Except LabelFault String :=
  match v with
  | .bytes _ content => .ok (Text.Hex.text content)
  | .grid rows => .ok (Text.Hex.text rows.flatten)
  | .real x => .ok x.hexText
  | .uuid _ => .error .hexNotCallable
  | _ => .error (.noHex v.kindName)

/-- The label of an unchecked record. -/
def label : Draft → Except LabelFault String
  | keyPackage id client createdAt =>
    (hex id).map fun digits => KeyPackage.labelOf digits client.literal createdAt.plain
  | message id recipient createdAt =>
    (hex id).map fun digits => Message.labelOf digits recipient.literal createdAt.plain
  | user name => .ok (User.labelOf name.literal)

end Draft

/-- The draft of a key package has the label of the key package. -/
theorem KeyPackage.label_draft (p : KeyPackage) :
    (Draft.keyPackage (.bytes .fixed p.id.bytes) (.text p.client.text) (.text p.createdAt)).label =
      .ok p.label := rfl

/-- The draft of a message has the label of the message. -/
theorem Message.label_draft (m : Message) :
    (Draft.message (.bytes .fixed m.id.bytes) (.text m.recipient.text) (.text m.createdAt)).label =
      .ok m.label := rfl

/-- The draft of a user has the label of the user. -/
theorem User.label_draft (u : User) : (Draft.user (.text u.name.text)).label = .ok u.label := rfl

end DeliveryStore
