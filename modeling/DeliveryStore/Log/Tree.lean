import DeliveryStore.Text.Upper

/-!
# The tree log

Operations are logged as the entries of a tree. An entry may belong to a group, a path of names
between slashes: the first entry of a group in a thread is preceded by one header line for each
name on the path that the thread has not yet shown. An entry without a group hangs from the
innermost branch that the thread has entered. `Thread.write` prints an entry; all that it depends
on and all that it changes is the thread.
-/

namespace DeliveryStore.Log

/-! ## Colours and strokes -/

/-- The colours of the terminal. -/
inductive Colour where
  | red
  | green
  | yellow
  | blue
  | cyan
deriving DecidableEq, Repr

/-- The control sequence that switches a colour on. -/
def Colour.code : Colour → String
  | red => "\x1b[31m"
  | green => "\x1b[32m"
  | yellow => "\x1b[33m"
  | blue => "\x1b[34m"
  | cyan => "\x1b[36m"

/-- The control sequence that switches colours off. -/
def reset : String := "\x1b[0m"

/-- A text in a colour. -/
def Colour.paint (c : Colour) (s : String) : String := c.code ++ s ++ reset

/-- How operations are coloured: by how their names begin, whatever the case. -/
def palette : List (Colour × List String) :=
  [(.red, ["CONFLICT", "UNAVAILABLE", "INVALID"]),
   (.blue, ["PUBLISH", "ENQUEUE", "CREATE"]),
   (.yellow, ["REMOVE", "ACK", "PURGE", "DELETE"]),
   (.green, ["INIT"])]

/-- The colour of an operation. -/
def colourOf (operation : String) : Colour :=
  let capitals := (Text.upper operation).toList
  match palette.find? fun row => row.2.any fun start => start.toList.isPrefixOf capitals with
  | some row => row.1
  | none => .cyan

/-- The stroke in front of a name: the corner for the last of its siblings, else the branching. -/
def stroke (last : Bool) : String := if last then "└───" else "├───"

/-- One column of a level that goes on below. -/
def rail : String := "│   "

/-- One column of indentation. -/
def indent : String := "    "

/-- A text as often as asked for. -/
def repeated (n : Nat) (s : String) : String := String.join (List.replicate n s)

/-! ## Threads -/

/-- A branch that a thread has entered: its operation, and whether it was announced as the last of
its level. -/
structure Branch where
  operation : String
  last : Bool
deriving DecidableEq, Repr

/-- What the log knows of a thread: the branches it is in, innermost first, and the group paths
whose headers it has printed, in the order of printing. -/
structure Thread where
  stack : List Branch := []
  printed : List String := []
deriving DecidableEq, Repr

/-- The names along a group path. Empty names count, so that a path with `n` slashes has `n + 1`. -/
def components (group : String) : List String := (group.toList.splitOn '/').map String.ofList

/-- The path one name further down. -/
def below (above : Option String) (name : String) : String :=
  match above with
  | none => name
  | some path => path ++ "/" ++ name

/-- The header line of a name at a depth; the name that ends the path gets the corner. -/
def headerLine (depth : Nat) (ends : Bool) (name : String) : String :=
  repeated depth indent ++ stroke ends ++ name ++ "\n"

/-- The header lines for the rest of a path below `above`, and the paths printed after them. A path
that has been printed before is not printed again. -/
def announce (above : Option String) (depth : Nat) (printed : List String) :
    List String → String × List String
  | [] => ("", printed)
  | name :: rest =>
    let path := below above name
    if printed.contains path then announce (some path) (depth + 1) printed rest
    else
      let (lines, printed) := announce (some path) (depth + 1) (printed ++ [path]) rest
      (headerLine depth rest.isEmpty name ++ lines, printed)

/-- Prints the headers that an entry needs: those of its group that the thread has not printed. -/
def Thread.announce (t : Thread) (group : Option String) : String × Thread :=
  match group with
  | none => ("", t)
  | some path =>
    let (lines, printed) := Log.announce none 0 t.printed (components path)
    (lines, { t with printed })

/-- Printing headers leaves the branches alone. -/
@[simp] theorem Thread.announce_stack (t : Thread) (group : Option String) :
    (t.announce group).2.stack = t.stack := by
  cases group <;> rfl

/-! ## Entries -/

/-- One entry: an operation, its group if it has one, the text of the database column, and details
as names and values. -/
structure Entry where
  operation : String
  group : Option String := none
  last : Bool := false
  column : String
  details : List (String × String) := []
deriving DecidableEq, Repr

/-- What stands in front of an entry: its stroke below the rails of its group, or below those of
the branches with the innermost one's operation, or nothing. -/
def Thread.lead (t : Thread) (group : Option String) (last : Bool) : String :=
  match group with
  | some g => repeated ((components g).length - 1) rail ++ stroke last
  | none =>
    match t.stack with
    | [] => ""
    | b :: outer => repeated outer.length rail ++ stroke last ++ b.operation

/-- A detail behind an entry. -/
def detailText (d : String × String) : String := " " ++ Colour.yellow.paint d.1 ++ "=" ++ d.2

/-- The line of an entry. -/
def Thread.line (t : Thread) (e : Entry) : String :=
  t.lead e.group e.last ++ " | " ++ Colour.green.paint e.column ++ " | " ++
    (colourOf e.operation).paint e.operation ++ String.join (e.details.map detailText) ++ "\n"

/-- Prints an entry: the headers that its group needs, then its line. -/
def Thread.write (t : Thread) (e : Entry) : String × Thread :=
  let (headers, t) := t.announce e.group
  (headers ++ t.line e, t)

/-- Printing an entry leaves the branches alone. -/
@[simp] theorem Thread.write_stack (t : Thread) (e : Entry) : (t.write e).2.stack = t.stack :=
  t.announce_stack e.group

/-! ## The database column -/

/-- The width of the database column, unless a logger sets another. -/
def columnWidth : Int := 12

/-- The first `width` characters; a negative width leaves that many off the end. -/
def cut {α : Type} (width : Int) (s : List α) : List α :=
  s.take (if 0 ≤ width then width.toNat else (s.length + width).toNat)

/-- Fills up to `width` characters at the end. -/
def pad {α : Type} (blank : α) (width : Int) (s : List α) : List α :=
  s ++ List.replicate (width.toNat - s.length) blank

/-- A text cut and filled to the width of a column. -/
def fit {α : Type} (blank : α) (width : Int) (s : List α) : List α := pad blank width (cut width s)

/-- The column of a database name. -/
def column (width : Int) (name : String) : String := String.ofList (fit ' ' width name.toList)

/-- At a width that is not negative the column is exactly that wide. -/
theorem length_fit {α : Type} (blank : α) (width : Nat) (s : List α) :
    (fit blank width s).length = width := by
  have hw : (0 : Int) ≤ width := by omega
  simp only [fit, pad, cut, if_pos hw, Int.toNat_natCast, List.length_append,
    List.length_replicate, List.length_take]
  omega

end DeliveryStore.Log
