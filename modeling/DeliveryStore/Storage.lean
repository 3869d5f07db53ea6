import DeliveryStore.Storage.Channel

/-!
# Storage

All databases that can be reached: those in files, and those in memory, which last as long as a
channel is open to them. A handle goes by a number. `Storage.connect` opens a channel for a handle,
`Storage.enter` makes it ready for an operation, `Storage.read` and `Storage.write` reach the data,
and `Storage.disconnect` lets the handle go.
-/

namespace DeliveryStore

/-- The files, the databases in memory, and the open channels. -/
structure Storage where
  tree : FileTree := {}
  memories : List (Place × Database) := []
  channels : List Channel := []
deriving DecidableEq, Repr

namespace Storage

/-! ## Data -/

/-- The data that a channel sees. -/
def read (s : Storage) (c : Channel) : Database :=
  match c.frozen, c.place with
  | some data, _ => data
  | none, .file path => s.tree.dataAt path
  | none, place => (s.memories.lookup place).getD {}

/-! ## Channels -/

/-- The channel of a handle. -/
def channel? (s : Storage) (handle : Nat) : Option Channel :=
  s.channels.find? (·.members.contains handle)

/-- The channels but one. -/
def others (s : Storage) (number : Nat) : List Channel := s.channels.filter (·.number != number)

/-- Puts a channel in place of what it was. -/
def putChannel (s : Storage) (c : Channel) : Storage :=
  { s with channels := c :: s.others c.number }

/-- Puts a channel in place of what it was, with the tables that it sees now. -/
def noteTables (s : Storage) (c : Channel) : Storage :=
  s.putChannel { c with known := (s.read c).stores }

/-! ## Writing -/

/-- Puts data in place of those that were there. What is not written to a log needs a journal, which
is gone afterwards. -/
def write (s : Storage) (c : Channel) (data : Database) : Except StorageFault Storage :=
  match c.place with
  | .file path =>
    if c.logging then
      .ok (noteTables { s with tree := s.tree.writeLog path data } c)
    else if s.tree.canJournal path then
      .ok (noteTables { s with tree := s.tree.overwrite path false data } c)
    else .error .cannotOpen
  | place =>
    .ok (noteTables { s with memories := (place, data) :: s.memories.filter (·.1 != place) } c)

/-! ## Opening and closing -/

/-- Where the data are that a target opens for a handle. A file in memory whose name begins with a
slash and goes on belongs to all who open it. -/
def placeOf (s : Storage) (handle : Nat) (target : Target) : Except StorageFault Place :=
  let inMemory (name : FileName) : Place :=
    if target.shared then .shared target.system name else .own handle
  match target.medium with
  | .file names =>
    match s.tree.locate names with
    | some path => .ok (.file path)
    | none => .error .cannotOpen
  | .memory name => .ok (inMemory name)
  | .store name =>
    .ok (if name.head? == some Path.slash && 1 < name.length then .store name else inMemory name)
  | .temporary => .ok (.own handle)

/-- The channel that a target shares with others. -/
def sharing? (s : Storage) (target : Target) (place : Place) : Option Channel :=
  if target.shared then
    s.channels.find? fun c => c.shared && c.system == target.system && c.place == place
  else none

/-- Opens a channel for a handle. A file may have been made even if that fails. Unless the address
passes for memory, a file is made to keep a write-ahead log. -/
def openChannel (s : Storage) (handle : Nat) (target : Target) (place : Place)
    (passesForMemory : Bool) : Except StorageFault Channel × Storage :=
  let c := Channel.new handle place target
  match place with
  | .file path =>
    match s.tree.openFile path target with
    | .error fault => (.error fault, s)
    | .ok tree =>
      match c.settle tree (s.others handle) path target.immutable !passesForMemory with
      -- A file that was made stays, even if it is not fit for use.
      | .error fault => (.error fault, { s with tree })
      | .ok (c, tree) => (.ok c, { s with tree }.noteTables c)
  | _ => (.ok c, s.noteTables c)

/-- The channel of a handle, opened or joined if there is none yet. -/
def connect (s : Storage) (handle : Nat) (target : Target) (passesForMemory : Bool) :
    Except StorageFault Channel × Storage :=
  match s.channel? handle with
  | some c => (.ok c, s)
  | none =>
    match s.placeOf handle target with
    | .error fault => (.error fault, s)
    | .ok place =>
      match s.sharing? target place with
      | some c =>
        let joined := { c with members := handle :: c.members }
        (.ok joined, s.putChannel joined)
      | none => s.openChannel handle target place passesForMemory

/-- The channel of a handle, ready for an operation. -/
def enter (s : Storage) (handle : Nat) (target : Target) (passesForMemory : Bool) :
    Except StorageFault Channel × Storage :=
  match s.connect handle target passesForMemory with
  | (.error fault, s) => (.error fault, s)
  | (.ok c, s) =>
    match c.place with
    | .file path =>
      match c.refresh s.tree (s.others c.number) path with
      | .error fault => (.error fault, s)
      | .ok (c, tree) => (.ok c, { s with tree }.noteTables c)
    | _ => (.ok c, s)

/-- Why a store could not be reached through the channel of a handle. A table that the channel has
not seen is missed before the database is looked at. -/
def faultFor (s : Storage) (handle : Nat) (store : Store) (fault : StorageFault) : StorageFault :=
  match s.channel? handle with
  | some c => if c.known.contains store then fault else .noTable store.table
  | none => fault

/-- Leaves the log of a file. The last channel to leave moves what is pending into the database,
unless it may not write. -/
def leaveLog (s : Storage) (c : Channel) : Storage :=
  match c.place with
  | .file path =>
    if c.logging && !c.readOnly && !s.channels.any fun d => d.logging && d.place == c.place then
      { s with tree := s.tree.closeLog path }
    else s
  | _ => s

/-- Lets a handle go, and with it its channel if no other handle uses that, and the databases in
memory that no channel is open to. -/
def disconnect (s : Storage) (handle : Nat) : Storage :=
  match s.channel? handle with
  | none => s
  | some c =>
    let members := c.members.filter (· != handle)
    if members.isEmpty then
      -- What is in memory goes with its last channel.
      let channels := s.others c.number
      { s with
        channels
        memories := s.memories.filter fun m => channels.any (·.place == m.1) }.leaveLog c
    else s.putChannel { c with members }

/-! ## Laws -/

/-- Noting tables leaves the files alone. -/
@[simp] theorem noteTables_tree (s : Storage) (c : Channel) : (s.noteTables c).tree = s.tree := rfl

/-- Noting tables leaves what is in memory alone. -/
@[simp] theorem noteTables_memories (s : Storage) (c : Channel) :
    (s.noteTables c).memories = s.memories := rfl

/-- What a channel sees does not depend on the channels that there are. -/
@[simp] theorem read_noteTables (s : Storage) (c d : Channel) :
    (s.noteTables c).read d = s.read d := rfl

/-- What is written through a channel in the log of a file is written into the log. -/
theorem write_of_logging {s : Storage} {c : Channel} {path : Path} (hp : c.place = .file path)
    (hl : c.logging = true) (data : Database) :
    s.write c data = .ok ({ s with tree := s.tree.writeLog path data }.noteTables c) := by
  simp only [write, hp, hl, if_true]

/-- A handle with a channel keeps it, and nothing changes. -/
theorem connect_of_channel {s : Storage} {handle : Nat} {c : Channel}
    (h : s.channel? handle = some c) (target : Target) (passesForMemory : Bool) :
    s.connect handle target passesForMemory = (.ok c, s) := by
  simp only [connect, h]

end Storage

end DeliveryStore
