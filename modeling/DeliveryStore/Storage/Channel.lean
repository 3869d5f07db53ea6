import DeliveryStore.Storage.Image
import DeliveryStore.Storage.Target

/-!
# Channels

A channel is a connection to a database; handles that ask to share have one in common. To a file it
writes in one of two ways. Without a write-ahead log it writes into the database itself. With one,
what it writes is pending in the log until the last channel leaves, and all channels on the file see
it there. Whether a file keeps a log stands in the file and is looked up by `Channel.refresh`.
-/

namespace DeliveryStore

/-- Where one database is: in a file, in memory that belongs to all who open its name or to those
who share it, or in memory of one channel's own. -/
inductive Place where
  | file (path : Path)
  | store (name : FileName)
  | shared (system : FileSystem) (name : FileName)
  | own (number : Nat)
deriving DecidableEq, Repr

/-- How a database secures its changes. -/
inductive Journal where
  | memory
  | writeAhead
  | rollback
deriving DecidableEq, Repr

/-- The name of a journal. -/
def Journal.name : Journal → String
  | memory => "memory"
  | writeAhead => "wal"
  | rollback => "delete"

/-- A connection to a database: the handles that use it, how it reaches the data, and the stores
whose tables it has seen last. One that is `frozen` goes on seeing the data that it found, as nobody
is expected to change them. -/
structure Channel where
  number : Nat
  members : List Nat
  place : Place
  system : FileSystem := .unix
  shared : Bool := false
  readOnly : Bool := false
  keepsLog : Bool := false
  locksBeside : Bool := false
  journal : Journal := .rollback
  logging : Bool := false
  known : List Store := []
  frozen : Option Database := none
deriving DecidableEq, Repr

/-! ## Files beside a database -/

namespace Path

/-- The place of the write-ahead log of a database. -/
def log (p : Path) : Path := p.beside "-wal"

/-- The place of the index of the write-ahead log. -/
def index (p : Path) : Path := p.beside "-shm"

/-- The place of the journal from which a change is taken back. -/
def journal (p : Path) : Path := p.beside "-journal"

/-- The place of the directory that stands for a lock on a database. -/
def lock (p : Path) : Path := p.beside ".lock"

/-- Whether no name along a path is too long. -/
def fits (p : Path) : Bool := p.all (·.length ≤ greatestName)

/-- How long the path of the working directory is taken to be. -/
def workingLength : Nat := 16

/-- How long the path of a database may be. -/
def greatestDatabase : Nat := 504

/-- Whether the path of a database is too long. -/
def isTooLong (p : Path) : Bool :=
  greatestDatabase < if p.head? == some top then p.tail.length else workingLength + p.length

end Path

/-! ## Databases in files -/

namespace Content

/-- A content read as a database: whether it keeps a write-ahead log, and the data. A log that
nothing was written to is as blank as an empty text. -/
def database? : Content → Except StorageFault (Bool × Database)
  | text s =>
    let bytes := Text.Utf8.encode s.toList
    match Image.fault? bytes with
    | none => .ok (Image.keepsLog bytes, {})
    | some fault => .error fault
  | database writeAhead data => .ok (writeAhead, data)
  | log none => .ok (false, {})
  | log (some _) | index => .error .notADatabase

/-- Whether a content says that there is a write-ahead log. -/
def keepsLog : Content → Bool
  | text s => Image.keepsLog (Text.Utf8.encode s.toList)
  | database writeAhead _ => writeAhead
  | _ => false

/-- Whether a content passes for a database because there is next to nothing in it. -/
def isBlank : Content → Bool
  | text s => Image.isBlank (Text.Utf8.encode s.toList)
  | log none => true
  | _ => false

/-- Whether there is anything in a content. -/
def isEmpty : Content → Bool
  | text s => s == ""
  | log none => true
  | _ => false

/-- Whether a content is a journal from which a change has to be taken back. -/
def isHot : Content → Bool
  | text s => s.toList.head?.any (· != '\x00')
  | _ => false

end Content

namespace FileTree

/-- The database in the file at a place, without what is pending in its log. -/
def database? (t : FileTree) (p : Path) : Except StorageFault (Bool × Database) :=
  match t.get? p with
  | none => .error .cannotOpen
  | some .directory => .error .unreadable
  | some (.file c) => c.database?

/-- Whether the file at a place says that there is a write-ahead log. -/
def keepsLog (t : FileTree) (p : Path) : Bool :=
  match t.get? p with
  | some (.file c) => c.keepsLog
  | _ => false

/-- What is pending in the log of the database at a place. -/
def pending? (t : FileTree) (p : Path) : Option Database :=
  match t.get? p.log with
  | some (.file (.log pending)) => pending
  | _ => none

/-- The data of the database at a place: those in its log if there are any. -/
def dataAt (t : FileTree) (p : Path) : Database :=
  match t.pending? p, t.database? p with
  | some data, _ => data
  | none, .ok (_, data) => data
  | none, .error _ => {}

/-- Whether the file at a place passes for a database without any data. -/
def isBlank (t : FileTree) (p : Path) : Bool :=
  match t.get? p with
  | some (.file c) => c.isBlank
  | _ => false

/-- Whether a text has come in place of the database whose log is in use, so that the data which are
not in the log are lost. Pages that were read before are kept in mind, so that a database without
tables goes on unless nothing is left of it. -/
def isLost (t : FileTree) (p : Path) (known : List Store) : Bool :=
  match t.pending? p, t.get? p with
  | none, some (.file (.text _)) => !known.isEmpty || t.isBlank p
  | _, _ => false

/-- Whether there is a log beside the database at a place, with anything in it. -/
def hasLog (t : FileTree) (p : Path) : Bool :=
  match t.get? p.log with
  | none => false
  | some .directory => true
  | some (.file c) => !c.isEmpty

/-- Whether a journal can be written beside the database at a place. -/
def canJournal (t : FileTree) (p : Path) : Bool :=
  p.journal.fits && !t.isDirectory p.journal

/-- Takes away the journal and the log that were left beside the database at a place, so far as
they have nothing to do with it. -/
def tidy (t : FileTree) (p : Path) : FileTree :=
  -- What was left beside a blank file cannot belong to it.
  let blank := t.isBlank p
  let t := match t.get? p.journal with
    | some (.file c) => if !c.isEmpty && (blank || c.isHot) then t.remove p.journal else t
    | _ => t
  match t.get? p.log with
  | some (.file c) => if blank && !c.isEmpty then t.remove p.log else t
  | _ => t

/-- Opens the log of the database at a place, with an index unless there is no need of one. -/
def openLog (t : FileTree) (p : Path) (indexed : Bool) : Except StorageFault FileTree := do
  let t ← match t.get? p.log with
    | some .directory => throw .cannotOpen
    | some (.file (.log _)) => pure t
    | _ => pure (t.put p.log (.file (.log none)))
  if indexed then
    if t.isDirectory p.index then throw .cannotOpen
    else return t.put p.index (.file .index)
  else return t

/-- How much a log may hold before it is moved into the database in passing: a thousand pages. What
was written takes at least as many pages as its rows fill. -/
def greatestLog : Nat := 4096000

/-- Whether data outgrow the log of the database at a place, by what they have more than the database
itself. -/
def outgrowsLog (t : FileTree) (p : Path) (data : Database) : Bool :=
  match t.database? p with
  | .ok (_, old) => old.size + greatestLog ≤ data.size
  | .error _ => false

/-- Writes data into the log of the database at a place. A log that is outgrown is moved into the
database, but is left where it is. -/
def writeLog (t : FileTree) (p : Path) (data : Database) : FileTree :=
  let logged := t.put p.log (.file (.log (some data)))
  if t.outgrowsLog p data then logged.put p (.file (.database true data)) else logged

/-- Writes the database at a place by way of a journal, which is taken away again. -/
def overwrite (t : FileTree) (p : Path) (writeAhead : Bool) (data : Database) : FileTree :=
  (t.put p (.file (.database writeAhead data))).remove p.journal

/-- Moves what is pending in the log into the database, and takes the log away. -/
def closeLog (t : FileTree) (p : Path) : FileTree :=
  let t := match t.pending? p with
    | some data => t.put p (.file (.database true data))
    | none => t
  (t.remove p.log).removeFile p.index

/-- The tree with a file at a place, which is made if that is allowed and its directory is there. A
directory can be opened, but only to be read, and reading it fails later. -/
def openFile (t : FileTree) (p : Path) (target : Target) : Except StorageFault FileTree :=
  if p.isTooLong then .error .cannotOpen
  else if target.modeOf.any fun path => (t.look path).isNone then .error .unreadable
  else
    match t.get? p with
    | some .directory => if target.access = .readOnly then .ok t else .error .cannotOpen
    | some (.file _) => .ok t
    | none =>
      if target.access = .create && t.isDirectory p.dropLast then .ok (t.put p (.file (.text "")))
      else .error .cannotOpen

end FileTree

/-! ## Channels on files -/

namespace Channel

/-- The channel that a target opens, before it has looked at any data. Only what is in a file can be
immutable or keep a log. -/
def new (number : Nat) (place : Place) (target : Target) : Channel :=
  let channel : Channel :=
    { number, members := [number], place
      system := target.system
      shared := target.shared
      readOnly := target.access == .readOnly }
  match target.medium with
  | .file _ =>
    { channel with
      readOnly := channel.readOnly || target.immutable
      keepsLog := target.system.sharesMemory && !target.unlocked && !target.immutable
      locksBeside := target.system == .dotfile && !target.unlocked }
  | .store _ =>
    { channel with readOnly := channel.readOnly || target.immutable, journal := .memory }
  | .memory _ => { channel with journal := .memory }
  | .temporary => channel

/-- Looks up whether the file at a place keeps a log, and opens the log if it does. A channel that
cannot keep one, or cannot lock the file, stops there; any other goes on and reads the whole file.
The index is made by the first channel in the log, unless a channel keeps all others out of it. -/
def refresh (c : Channel) (t : FileTree) (others : List Channel) (p : Path) :
    Except StorageFault (Channel × FileTree) :=
  if c.frozen.isSome then .ok (c, t)
  else if c.logging then
    if t.isLost p c.known then .error .malformed else .ok (c, t)
  else do
    -- The lock comes first, since nothing is read or tidied up without it.
    if c.locksBeside && !p.lock.fits then throw .unreadable
    let t := t.tidy p
    if t.keepsLog p && !c.keepsLog then throw .cannotOpen
    -- A log with changes in it hides the first page of the file, and what is said there.
    let writeAhead ←
      if (t.pending? p).isSome then pure true else (t.database? p).map (·.1)
    if writeAhead || t.hasLog p then
      if c.keepsLog then
        let onFile := others.filter (·.place == c.place)
        let indexed := !(c :: onFile).any (·.system == .exclusive) && !onFile.any (·.logging)
        return ({ c with logging := true, journal := .writeAhead }, ← t.openLog p indexed)
      else throw .cannotOpen
    else return ({ c with journal := .rollback }, t)

/-- Makes the file at a place keep a log, if it does not and the channel can. -/
def startLog (c : Channel) (t : FileTree) (p : Path) : Except StorageFault (Channel × FileTree) :=
  if c.journal = .writeAhead || !c.keepsLog then .ok (c, t)
  else if c.readOnly then .error .readOnly
  else if !t.canJournal p then .error .cannotOpen
  else
    -- The log itself is made at the next look-up; here only the file comes to speak of it.
    .ok ({ c with journal := .writeAhead }, t.overwrite p true (t.dataAt p))

/-- Freezes the data that a channel has found. -/
def freeze (c : Channel) (t : FileTree) (p : Path) : Except StorageFault Channel := do
  let (_, data) ← t.database? p
  return { c with frozen := some data }

/-- The first look at the file at a place: its log is opened, or started if `log` asks for it. -/
def settle (c : Channel) (t : FileTree) (others : List Channel) (p : Path)
    (immutable log : Bool) : Except StorageFault (Channel × FileTree) := do
  if immutable then return (← c.freeze t p, t)
  let (c, t) ← c.refresh t others p
  if log then c.startLog t p else return (c, t)

end Channel

end DeliveryStore
