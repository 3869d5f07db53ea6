import DeliveryStore.Binary64
import DeliveryStore.Calendar
import DeliveryStore.Identifier
import DeliveryStore.Text.Unpaired

/-!
# Values as callers hand them over

Callers pass arguments whose kind nobody has checked yet. A `Value` is such an argument: one of the
kinds of data that a caller can have. The checks in `Argument` turn values into the types that the
stores work with, or say what is wrong.
-/

namespace DeliveryStore

/-- The three ways in which a caller can hold bytes in a row. -/
inductive BytesForm where
  | fixed
  | mutable
  | view
deriving DecidableEq, Repr

/-- An unchecked argument. A text is one of characters; `unpaired` is one that also holds surrogates.
A view of more than one dimension is a `grid`: it is as long as it has rows, however many bytes they
hold. -/
inductive Value where
  | null
  | bool (b : Bool)
  | int (n : Int)
  | real (x : Binary64)
  | text (s : String)
  | unpaired (t : Text.Unpaired)
  | bytes (form : BytesForm) (content : List UInt8)
  | grid (rows : List (List UInt8))
  | uuid (id : Identifier)
  | moment (m : Moment)
  | list (items : List Value)
  | tuple (items : List Value)
  | dict (entries : List (String × Value))

instance : Inhabited Value := ⟨.null⟩

namespace Value

/-- The name of a value's kind, as error messages give it. -/
def kindName : Value → String
  | null => "NoneType"
  | bool _ => "bool"
  | int _ => "int"
  | real _ => "float"
  | text _ | unpaired _ => "str"
  | bytes .fixed _ => "bytes"
  | bytes .mutable _ => "bytearray"
  | bytes .view _ | grid _ => "memoryview"
  | uuid _ => "UUID"
  | moment _ => "datetime.datetime"
  | list _ => "list"
  | tuple _ => "tuple"
  | dict _ => "dict"

/-- Whether a value counts as given: nothing, false, zero and everything empty do not. -/
def isTruthy : Value → Bool
  | null => false
  | bool b => b
  | int n => n != 0
  | real x => !x.isZero
  | text s => s != ""
  | unpaired _ => true
  | bytes _ content => !content.isEmpty
  | grid rows => !rows.isEmpty
  | uuid _ => true
  | moment _ => true
  | list items => !items.isEmpty
  | tuple items => !items.isEmpty
  | dict entries => !entries.isEmpty

/-- A text of one code point. -/
def ofPoint : Char ⊕ Text.Surrogate → Value
  | .inl c => text (String.singleton c)
  | .inr s => unpaired ⟨[], s, []⟩

/-- The elements of a collection in order: the items of a list or tuple, the keys of a dictionary,
the numbers of some bytes, the code points of a text. The other kinds have no elements, and the rows
of a grid cannot be gone through. -/
def elements? : Value → Option (List Value)
  | text s => some (s.toList.map fun c => text (String.singleton c))
  | unpaired t => some (t.points.map ofPoint)
  | bytes _ content => some (content.map fun b => int b.toNat)
  | list items => some items
  | tuple items => some items
  | dict entries => some (entries.map fun e => text e.1)
  | _ => none

end Value

end DeliveryStore
