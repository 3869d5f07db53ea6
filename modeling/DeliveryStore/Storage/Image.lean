import DeliveryStore.Failure
import DeliveryStore.Text.Utf8

/-!
# Texts read as databases

A file may hold a text where a database is looked for. A text of at most one byte passes for a
database without data, and so does one that is laid out as such. Any other fails, and `Image.fault?`
says how: the header, of a hundred bytes, is looked at from its first bytes on, as far as it is one,
and then the page that lists the tables.
-/

namespace DeliveryStore.Image

/-- The longest text that passes for a database without any data, in bytes. -/
def greatestBlank : Nat := 1

/-- The bytes with which every database begins. -/
def magic : List UInt8 := Text.Utf8.encode "SQLite format 3\x00".toList

/-- The sizes that a page may have. -/
def pageSizes : List Nat := [512, 1024, 2048, 4096, 8192, 16384, 32768, 65536]

/-- How much of a page must at least be in use. -/
def leastUsable : Nat := 480

/-- The greatest version of the layout of tables. -/
def greatestFormat : Nat := 4

/-- The greatest version of the way in which the file is read. -/
def greatestVersion : Nat := 2

/-- How full pages may be, which is the same in every database. -/
def payloadFractions : List Nat := [64, 32, 32]

/-- The byte at a place in the header. What is missing is zero. -/
def byteAt (bytes : List UInt8) (i : Nat) : Nat := (bytes.getD i 0).toNat

/-- The bytes from a place in the header on. -/
def bytesAt (bytes : List UInt8) (i count : Nat) : List Nat :=
  (List.range count).map fun k => byteAt bytes (i + k)

/-- A number of several bytes, the greatest place first. -/
def numberAt (bytes : List UInt8) (i count : Nat) : Nat :=
  (bytesAt bytes i count).foldl (fun n b => 256 * n + b) 0

/-- The size of a page. -/
def pageSize (bytes : List UInt8) : Nat := byteAt bytes 16 * 256 + byteAt bytes 17 * 65536

/-- How much of a page is in use. -/
def usable (bytes : List UInt8) : Nat := pageSize bytes - byteAt bytes 20

/-- How many pages the header speaks of, which counts only if the two counters of changes agree. -/
def statedPages (bytes : List UInt8) : Nat :=
  if bytesAt bytes 24 4 = bytesAt bytes 92 4 then numberAt bytes 28 4 else 0

/-- How many pages there are. -/
def filePages (bytes : List UInt8) : Nat :=
  (bytes.length + pageSize bytes - 1) / pageSize bytes

/-- Whether some bytes pass for a database without any data. -/
def isBlank (bytes : List UInt8) : Bool := bytes.length ≤ greatestBlank

/-! ## The header -/

/-- What is wrong with a header. -/
def headerFault? (bytes : List UInt8) : Option StorageFault :=
  if bytes.take magic.length ≠ magic || greatestVersion < byteAt bytes 19 ||
      bytesAt bytes 21 3 ≠ payloadFractions || !pageSizes.contains (pageSize bytes) then
    some .notADatabase
  else if filePages bytes < statedPages bytes then some .malformed
  else if usable bytes < leastUsable then some .notADatabase
  else if greatestFormat < byteAt bytes 47 then some .unsupportedFormat
  else none

/-- Whether a header speaks of nothing but tables: no page is free, none is moved about, and texts
are in UTF-8. -/
def isPlain (bytes : List UInt8) : Bool :=
  byteAt bytes 18 ≤ greatestVersion && numberAt bytes 36 4 == 0 && numberAt bytes 52 4 == 0 &&
    numberAt bytes 56 4 ≤ 1

/-! ## The list of tables -/

/-- The byte that marks a page of rows. -/
def rowPage : Nat := 13

/-- Where rows may begin in the first page, after both headers. -/
def firstRow : Nat := 108

/-- Where the rows of the first page begin, as its header says. Zero stands for the greatest place,
which two bytes cannot hold. -/
def rowsAt (bytes : List UInt8) : Nat :=
  let place := numberAt bytes 105 2
  if place = 0 then 65536 else place

/-- Whether the first page lists no tables: it has neither rows nor gaps, and room for rows. -/
def listsNothing (bytes : List UInt8) : Bool :=
  byteAt bytes 100 == rowPage && numberAt bytes 101 4 == 0 && firstRow ≤ rowsAt bytes &&
    rowsAt bytes + byteAt bytes 107 ≤ usable bytes

/-! ## Databases -/

/-- What is wrong with some bytes as a database. -/
def fault? (bytes : List UInt8) : Option StorageFault :=
  if isBlank bytes then none
  else
    match headerFault? bytes with
    | some fault => some fault
    | none => if isPlain bytes && listsNothing bytes then none else some .malformed

/-- Whether a header says that there is a write-ahead log, whatever else it says. -/
def keepsLog (bytes : List UInt8) : Bool :=
  bytes.take magic.length = magic && byteAt bytes 19 == greatestVersion

/-- Blank bytes are without fault, and so are those that list no tables after a header without
fault. -/
theorem fault?_eq_none_iff {bytes : List UInt8} :
    fault? bytes = none ↔ isBlank bytes = true ∨
      headerFault? bytes = none ∧ isPlain bytes = true ∧ listsNothing bytes = true := by
  grind [fault?]

/-- Blank bytes keep no log. -/
theorem keepsLog_of_isBlank {bytes : List UInt8} (h : isBlank bytes = true) :
    keepsLog bytes = false := by
  have hb : bytes.length ≤ 19 :=
    Nat.le_trans (of_decide_eq_true h) (by decide)
  simp [keepsLog, byteAt, greatestVersion, List.getD_eq_getElem?_getD, List.getElem?_eq_none hb]

end DeliveryStore.Image
