import DeliveryStore.Failure
import DeliveryStore.Field
import DeliveryStore.Value

/-!
# Checks on arguments

Each check turns an unchecked value into the type that the stores work with, or names the flaw. No
check looks at a database, so whether a call passes its checks depends on its arguments and, for
the time of a record, on the clock alone. Nor does a check ask whether the database can take a name
or a payload: that shows only when the statement is made.
-/

namespace DeliveryStore.Argument

/-- An identifier: sixteen bytes that are not a view, or an identifier as such. -/
def identifier (v : Value) (field : String) : Except Failure Identifier :=
  match v with
  | .uuid id => .ok id
  | .bytes .fixed content | .bytes .mutable content =>
    match Identifier.ofBytes? content with
    | some id => .ok id
    | none => .error (.invalid (.identifier field))
  | _ => .error (.invalid (.identifier field))

/-- A name: a text that is not empty. -/
def name (v : Value) (field : String) : Except Failure (Bound Name) :=
  match v with
  | .text s => if s = "" then .error (.invalid (.text field)) else .ok (Name.bind s)
  | .unpaired t => .ok (.error (.unfit (.unpaired t.fault)))
  | _ => .error (.invalid (.text field))

/-- A payload: bytes in any form that has a length, of a grid the number of its rows. -/
def payload (v : Value) (field : String) : Except Failure (Bound Payload) :=
  match v with
  | .bytes _ content =>
    if content.isEmpty then .error (.invalid (.blob field)) else .ok (Payload.bind content)
  | .grid rows =>
    if rows.isEmpty then .error (.invalid (.blob field)) else .ok (Payload.bind rows.flatten)
  | _ => .error (.invalid (.blob field))

/-- The names of several recipients, each once, in the order in which they come first, and where
they stop if one of them cannot be put into a statement. A single text is refused, since its
characters would be taken for names. -/
def recipients (v : Value) : Except Failure (List Name × Option Unusable) :=
  match v with
  | .text _ | .unpaired _ => .error (.invalid .recipientsAsText)
  | .grid _ => .error .severalDimensions
  | _ =>
    match v.elements? with
    | none => .error (.notIterable v.kindName)
    | some items => do
      let names ← items.mapM fun item => name item "recipient"
      if names.isEmpty then .error (.invalid .noRecipients)
      else
        let (names, stop) := Bound.upTo names
        .ok (names.eraseDups, stop)

/-- The greatest number of messages, if it is limited: a whole number from 1 on. -/
def limit (v : Value) : Except Failure (Option Nat) :=
  match v with
  | .null => .ok none
  | .int n => if 1 ≤ n then .ok (some n.toNat) else .error (.invalid .limit)
  | _ => .error (.invalid .limit)

/-- The stored form of a moment. -/
def written (m : Moment) : Except Failure String :=
  match m.instant.stamp? with
  | some s => .ok s
  | none => .error .outsideCalendar

/-- The stored form of the present. A clock without an offset is set against the day before, so it
may not stand in the first day of the calendar. -/
def present (now : Moment) : Except Failure String :=
  if now.offset.isNone && now.civil.isFirstDay then .error .beforeCalendar else written now

/-- The stored form of a moment, in which nothing stands for the present. -/
def stamp (now : Moment) (v : Value) : Except Failure String :=
  match v with
  | .null => present now
  | .moment m => written m
  | _ => .error (.notAMoment v.kindName)

end DeliveryStore.Argument
