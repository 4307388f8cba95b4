import MsxWorkbench.Text.Blank
import MsxWorkbench.Disk.Fat
/-
# The root directory

A directory entry is 32 bytes: a name of eight characters and an extension of three, the time and
date of the last change, the first cluster and the size. A byte 0xE5 at its start marks a deleted
file.
-/
namespace MsxWorkbench.Disk

/-- Why a disk could not be read. -/
inductive DiskError where
  | beyondEnd
  | shortWord
  | shortLongWord
deriving DecidableEq, Repr

/-- The message for a disk that could not be read. -/
def DiskError.message : DiskError → String
  | .beyondEnd => "index out of range"
  | .shortWord => "unpack requires a buffer of 2 bytes"
  | .shortLongWord => "unpack requires a buffer of 4 bytes"

/-- A directory entry as it stands on the disk; the last one of an image may be cut short. -/
abbrev Entry := List UInt8

namespace Entry

/-- `count` bytes of the entry from `start` on. -/
def bytes (e : Entry) (start count : Nat) : List UInt8 := (e.drop start).take count

/-- The word at a place of the entry. -/
def word (e : Entry) (start : Nat) : Except DiskError Nat :=
  match word? (e.bytes start 2) with
  | some n => .ok n
  | none => .error .shortWord

/-- The number of four bytes at a place of the entry. -/
def longWord (e : Entry) (start : Nat) : Except DiskError Nat :=
  match longWord? (e.bytes start 4) with
  | some n => .ok n
  | none => .error .shortLongWord

/-- The text of ASCII bytes; `none` when one is not ASCII. -/
def ascii? (bs : List UInt8) : Option (List Char) :=
  if bs.all (· < 0x80) then some (bs.map fun b => Char.ofNat b.toNat) else none

/-- The name with the extension after a point, or alone when there is no extension; `none` when it is
not ASCII. -/
def fileName? (e : Entry) : Option (List Char) := do
  let name ← ascii? (e.bytes 0 8)
  let extension ← ascii? (e.bytes 8 3)
  let name := Text.trim name
  let extension := Text.trim extension
  some (if extension.isEmpty then name else name ++ '.' :: extension)

/-- Whether the entry is free or of a deleted file. -/
def isUnused (e : Entry) : Bool := e.head? = some 0xE5 || e.head? = some 0

end Entry

/-- A number with at least two digits. -/
def twoPlaces (n : Nat) : String := if n < 10 then s!"0{n}" else toString n

/-- A file as a listing of the directory shows it. -/
structure FileRecord where
  name : List Char
  size : Nat
  date : String
  time : String
deriving DecidableEq, Repr

/-- The text of a packed date: day, month and year since 1980. -/
def dateText (raw : Nat) : String :=
  s!"{twoPlaces (raw % 32)}/{twoPlaces (raw / 32 % 16)}/{raw / 512 % 128 + 1980}"

/-- The text of a packed time: hour, minute and every second one of the seconds. -/
def timeText (raw : Nat) : String :=
  s!"{twoPlaces (raw / 2048 % 32)}:{twoPlaces (raw / 32 % 64)}:{twoPlaces (raw % 32 * 2)}"

/-- The record of an entry; `none` for one that is not listed. -/
def Entry.record (e : Entry) : Except DiskError (Option FileRecord) :=
  if e.isUnused then .ok none
  else match e.fileName? with
    | none => .ok none
    | some name => do
      let size ← e.longWord 28
      let time ← e.word 22
      let date ← e.word 24
      .ok (some ⟨name, size, dateText date, timeText time⟩)

/-- The records of all listed entries in order. -/
def listEntries : List Entry → Except DiskError (List FileRecord)
  | [] => .ok []
  | e :: rest => do
    let record ← e.record
    let records ← listEntries rest
    .ok (record.toList ++ records)

end MsxWorkbench.Disk
