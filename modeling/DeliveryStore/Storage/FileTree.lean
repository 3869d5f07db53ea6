import DeliveryStore.Database
import DeliveryStore.Text.Utf8

/-!
# File trees

The directories and files below the working directory. A name in a directory is a row of bytes, a
`Path` the list of names from the top. Files hold text, a database, or what stands beside a database
in use: its write-ahead log and the index of that log. `locate` and `walk` find a written path, the
one by its names alone and the other from directory to directory; `makeDirectories` makes a
directory together with those above it, and `writeText` puts a text into a file.
-/

namespace DeliveryStore

/-- A name in a directory, byte by byte. -/
abbrev FileName := List UInt8

/-- A place in a tree, by the names from the top. -/
abbrev Path := List FileName

/-- The bytes of a text as a name. -/
def FileName.ofText (s : String) : FileName := Text.Utf8.encode s.toList

/-- A name as a text. -/
def FileName.text (name : FileName) : String := String.ofList (Text.Utf8.decode name)

namespace Path

/-- The byte that parts the names of a written path. -/
def slash : UInt8 := 0x2f

/-- The first name of a path that does not begin in the working directory. -/
def top : FileName := [slash]

/-- The name of the same directory. -/
def here : FileName := [0x2e]

/-- The name of the directory above. -/
def above : FileName := [0x2e, 0x2e]

/-- How many bytes a name may have. -/
def greatestName : Nat := 255

/-- How many bytes a written path may have. -/
def greatestLength : Nat := 4095

/-- The names along a written path, without the empty ones and those that mean the same
directory. -/
def names (written : FileName) : List FileName :=
  (if written.head? == some slash then [top] else []) ++
    (written.splitOn slash).filter fun n => n != [] && n != here

/-- The names along a path that is written as a text. -/
def namesOfText (s : String) : List FileName := names (FileName.ofText s)

/-- The place of a name that stands in, or leads out of, a place. -/
def descend (p : Path) (name : FileName) : Path :=
  if name = above then
    match p.getLast? with
    | none => [above]
    -- There is nothing above the very top, and above what is outside there is more of the outside.
    | some last => if last = top then p else if last = above then p ++ [above] else p.dropLast
  else p ++ [name]

/-- The place that names lead to. -/
def resolve (names : List FileName) : Path := names.foldl descend []

/-- Names as a written path; no names mean the working directory. -/
def written (names : List FileName) : String :=
  let text (n : FileName) : String := String.ofList (Text.Utf8.decode n)
  match names with
  | [] => "."
  | first :: rest =>
    if first = top then text top ++ "/".intercalate (rest.map text)
    else "/".intercalate (names.map text)

/-- Whether a place lies at or above the working directory, or at the very top. -/
def isOuter (p : Path) : Bool := p.all fun n => n == above || n == top

/-- The place of a file beside another one, whose name goes on with a text. -/
def beside (p : Path) (more : String) : Path :=
  match p.getLast? with
  | none => []
  | some last => p.dropLast ++ [last ++ FileName.ofText more]

/-- How many bytes the names take, with a slash before each. -/
def length (p : Path) : Nat := (p.map fun n => n.length + 1).foldl (· + ·) 0

end Path

/-- What a file holds. A write-ahead log has the data that are not yet in the database itself. -/
inductive Content where
  | text (s : String)
  | database (writeAhead : Bool) (data : Database)
  | log (pending : Option Database)
  | index
deriving DecidableEq, Repr

/-- What can stand at a place. -/
inductive Node where
  | directory
  | file (c : Content)
deriving DecidableEq, Repr

/-- The directories and files that have been made. -/
structure FileTree where
  nodes : List (Path × Node) := []
deriving DecidableEq, Repr

namespace FileTree

/-- What stands at a place. The working directory and those above it are always there. -/
def get? (t : FileTree) (p : Path) : Option Node :=
  if Path.isOuter p then some .directory else t.nodes.lookup p

/-- Puts something at a place, instead of what stood there. -/
def put (t : FileTree) (p : Path) (n : Node) : FileTree :=
  ⟨(p, n) :: t.nodes.filter (·.1 != p)⟩

/-- Takes away what stands at a place. -/
def remove (t : FileTree) (p : Path) : FileTree := ⟨t.nodes.filter (·.1 != p)⟩

/-- Whether there is a directory at a place. -/
def isDirectory (t : FileTree) (p : Path) : Bool := t.get? p == some .directory

/-- Takes away the file at a place, but no directory. -/
def removeFile (t : FileTree) (p : Path) : FileTree := if t.isDirectory p then t else t.remove p

/-- Whether there is a file at a place. -/
def isFile (t : FileTree) (p : Path) : Bool :=
  match t.get? p with
  | some (.file _) => true
  | _ => false

/-! ## Finding a place -/

/-- The place that names lead to, taken by the names alone. No name may be too long, and none may
stand below a file; what is missing does not matter. -/
def locateFrom (t : FileTree) (p : Path) : List FileName → Option Path
  | [] => some p
  | name :: rest =>
    -- A name that leads up is taken without a look at where it stands.
    if name ≠ Path.above ∧ (Path.greatestName < name.length ∨ t.isFile p = true) then none
    else t.locateFrom (Path.descend p name) rest

/-- The place that names lead to from the working directory, taken by the names alone. -/
def locate (t : FileTree) (names : List FileName) : Option Path := t.locateFrom [] names

/-- The place that names lead to from a directory, each name but the last being a directory. The
fault speaks of the whole path. -/
def walkFrom (t : FileTree) (whole : String) (p : Path) : List FileName → Except PathFault Path
  | [] => .ok p
  | name :: rest =>
    match t.get? p with
    | none => .error (.nothingAbove whole)
    | some (.file _) => .error (.fileAbove whole)
    | some .directory =>
      if Path.greatestName < name.length then .error (.nameTooLong whole)
      else t.walkFrom whole (Path.descend p name) rest

/-- The place that names lead to from the working directory, walked from directory to directory. -/
def walk (t : FileTree) (names : List FileName) : Except PathFault Path :=
  t.walkFrom (Path.written names) [] names

/-- What stands where a written path leads. -/
def look (t : FileTree) (path : String) : Option Node :=
  match t.walk (Path.namesOfText path) with
  | .ok p => t.get? p
  | .error _ => none

/-! ## Making directories and files -/

/-- Makes the directories along a path, `done` being the names already walked, and `made` telling
whether one of them had to be made. A file on the way, or a name that is too long, stops the walk.
If nothing had to be made before it, the fault speaks of the path as a whole, otherwise of the path
as far as the name. -/
def makeAlong (t : FileTree) (done : List FileName) (made : Bool) :
    List FileName → Option PathFault × FileTree
  | [] => (none, t)
  | name :: rest =>
    let walked := done ++ [name]
    let place := Path.resolve walked
    let far := rest.isEmpty || made
    if Path.greatestName < name.length then
      (some (.nameTooLong (Path.written (if far then walked else walked ++ rest))), t)
    else
      match t.get? place with
      | some .directory => t.makeAlong walked made rest
      | some (.file _) =>
        let fault : PathFault :=
          if far then .fileInPlace (Path.written walked)
          else .fileAbove (Path.written (walked ++ rest))
        (some fault, t)
      | none => (t.put place .directory).makeAlong walked true rest

/-- Makes a directory together with those above it, so far as they are missing. -/
def makeDirectories (t : FileTree) (names : List FileName) : Option PathFault × FileTree :=
  if Path.greatestLength < Text.Utf8.size (Path.written names) then
    (some (.nameTooLong (Path.written names)), t)
  else t.makeAlong [] false names

/-- How many names along a path are left from the first that nothing stands for, `done` being the
names already walked. A file on the way, or a name that is too long, ends the walk. -/
def missingAlong (t : FileTree) (done : List FileName) : List FileName → Nat
  | [] => 0
  | name :: rest =>
    let walked := done ++ [name]
    if Path.greatestName < name.length then 0
    else
      match t.get? (Path.resolve walked) with
      | some .directory => t.missingAlong walked rest
      | some (.file _) => 0
      | none => rest.length + 1

/-- How deep calls are nested to make a directory: those above it are made by calls within the call,
one for each that is missing. -/
def callsFor (t : FileTree) (names : List FileName) : Nat :=
  if Path.greatestLength < Text.Utf8.size (Path.written names) then 0 else t.missingAlong [] names

/-- Writes a text into a file, in place of what it held, and makes the file if it is missing. -/
def writeText (t : FileTree) (names : List FileName) (text : String) :
    Except PathFault FileTree := do
  let place ← t.walk names
  match t.get? place with
  | some .directory => .error (.directoryInPlace (Path.written names))
  | some (.file _) => return t.put place (.file (.text text))
  | none =>
    if t.isDirectory place.dropLast then return t.put place (.file (.text text))
    else .error (.nothingAbove (Path.written names))

/-! ## Laws -/

/-- What was put at a place is found there. -/
theorem get?_put_self {t : FileTree} {p : Path} {n : Node} (h : Path.isOuter p = false) :
    (t.put p n).get? p = some n := by
  simp [get?, put, h]

/-- A filter by key that spares a key does not change what is found under it. -/
theorem lookup_filter_key {α β : Type} [BEq α] [LawfulBEq α] {f : α → Bool} {q : α}
    (h : f q = true) (nodes : List (α × β)) :
    (nodes.filter fun e => f e.1).lookup q = nodes.lookup q := by
  induction nodes with
  | nil => rfl
  | cons e es ih =>
    obtain ⟨k, v⟩ := e
    by_cases hk : f k = true
    · rw [List.filter_cons_of_pos (by simpa using hk), List.lookup_cons, List.lookup_cons, ih]
    · have hqk : (q == k) = false := beq_false_of_ne fun heq => hk (heq ▸ h)
      rw [List.filter_cons_of_neg (by simpa using hk), List.lookup_cons, hqk, ih]

theorem lookup_filter_ne {α β : Type} [BEq α] [LawfulBEq α] {p q : α} (h : q ≠ p)
    (nodes : List (α × β)) : (nodes.filter (·.1 != p)).lookup q = nodes.lookup q :=
  lookup_filter_key (f := (· != p)) (by simpa using h) nodes

/-- Putting something at one place leaves the others alone. -/
theorem get?_put_of_ne {t : FileTree} {p q : Path} {n : Node} (h : q ≠ p) :
    (t.put p n).get? q = t.get? q := by
  have hqp : (q == p) = false := beq_false_of_ne h
  simp [get?, put, List.lookup_cons, hqp, lookup_filter_ne h]

/-- Taking away what stands at one place leaves the others alone. -/
theorem get?_remove_of_ne {t : FileTree} {p q : Path} (h : q ≠ p) :
    (t.remove p).get? q = t.get? q := by
  simp [get?, remove, lookup_filter_ne h]

end FileTree

end DeliveryStore
