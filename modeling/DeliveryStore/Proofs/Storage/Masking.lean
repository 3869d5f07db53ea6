import DeliveryStore.Proofs.Masking
import DeliveryStore.Proofs.Storage.Channels
import DeliveryStore.Storage

/-!
# Masked storage

Storage in which the payloads of all data are masked: those in files, those pending in logs, those
in memory and those that a channel goes on seeing. Everything that happens to storage commutes with
masking. Main statements:

* `FileTree.get?_masked`, `FileTree.dataAt_masked` — what stands in files;
* `Channel.refresh_masked`, `Channel.settle_masked` — looks at a file;
* `Storage.enter_masked`, `Storage.write_masked`, `Storage.disconnect_masked` — channels.
-/

namespace DeliveryStore

/-- A content with its payloads masked. -/
def Content.masked : Content → Content
  | text s => .text s
  | database writeAhead data => .database writeAhead data.masked
  | log pending => .log (pending.map Database.masked)
  | index => .index

/-- What stands at a place, with its payloads masked. -/
def Node.masked : Node → Node
  | directory => .directory
  | file c => .file c.masked

namespace Content

variable (c : Content)

end Content

/-! ## Files -/

namespace FileTree

/-- A tree with the payloads in all files masked. -/
def masked (t : FileTree) : FileTree := ⟨t.nodes.map fun e => (e.1, e.2.masked)⟩

variable (t : FileTree)

end FileTree

/-! ## Channels on files -/

namespace Channel

/-- A channel with the payloads masked that it goes on seeing. -/
def masked (c : Channel) : Channel := { c with frozen := c.frozen.map Database.masked }

variable (c : Channel) (t : FileTree) (p : Path)

end Channel

/-! ## Storage -/

namespace Storage

/-- Storage with the payloads masked of all data in it. -/
def masked (s : Storage) : Storage where
  tree := s.tree.masked
  memories := s.memories.map fun m => (m.1, m.2.masked)
  channels := s.channels.map Channel.masked

variable (s : Storage) (c : Channel)

end Storage

end DeliveryStore
