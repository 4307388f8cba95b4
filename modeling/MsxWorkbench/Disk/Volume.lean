import MsxWorkbench.Text.Case
import MsxWorkbench.Disk.Directory
/-
# Disk images

An MSX-DOS disk: a boot sector with the geometry, the allocation tables, the root directory and the
clusters of the files. Opening reads the geometry, the first table and the directory; what was read
before a failure stays.
-/
namespace MsxWorkbench.Disk

/-- Bytes of a sector. -/
def sectorSize : Nat := 512

/-- The facts about a disk that its boot sector holds. -/
inductive Field where
  | sectorsPerCluster
  | reservedSectors
  | fatCount
  | rootEntries
  | totalSectors
  | sectorsPerFat
deriving DecidableEq, Repr

/-- Where each field lies in the boot sector and how many bytes it has, in reading order. -/
def bootLayout : List (Field × Nat × Nat) :=
  [(.sectorsPerCluster, 0x0D, 1), (.reservedSectors, 0x0E, 2), (.fatCount, 0x10, 1),
    (.rootEntries, 0x11, 2), (.totalSectors, 0x13, 2), (.sectorsPerFat, 0x16, 2)]

/-- `count` bytes of an image from `start` on, as many as there are. -/
def readAt (image : Array UInt8) (start count : Nat) : List UInt8 :=
  (image.extract start (start + count)).toList

/-- One field of the boot sector. -/
def readField (image : Array UInt8) (start width : Nat) : Except DiskError Nat :=
  if width = 1 then
    match image[start]? with
    | some b => .ok b.toNat
    | none => .error .beyondEnd
  else match word? (readAt image start width) with
    | some n => .ok n
    | none => .error .shortWord

/-- The fields of the boot sector up to the first that cannot be read. -/
def readFields (image : Array UInt8) : List (Field × Nat × Nat) →
    List (Field × Nat) × Option DiskError
  | [] => ([], none)
  | (field, start, width) :: rest =>
    match readField image start width with
    | .error e => ([], some e)
    | .ok n =>
      let (fields, e?) := readFields image rest
      ((field, n) :: fields, e?)

/-- The geometry of a disk. -/
structure Geometry where
  sectorsPerCluster : Nat
  reservedSectors : Nat
  fatCount : Nat
  rootEntries : Nat
  totalSectors : Nat
  sectorsPerFat : Nat
deriving DecidableEq, Repr

namespace Geometry

/-- Where the root directory starts. -/
def directoryOffset (g : Geometry) : Nat :=
  sectorSize * (g.reservedSectors + g.fatCount * g.sectorsPerFat)

/-- Where the clusters start; the first one has number two. -/
def dataOffset (g : Geometry) : Nat := g.directoryOffset + g.rootEntries * 32

/-- Bytes of a cluster. -/
def clusterBytes (g : Geometry) : Nat := sectorSize * g.sectorsPerCluster

/-- The geometry that a complete set of fields gives. -/
def ofFields? (fields : List (Field × Nat)) : Option Geometry := do
  some {
    sectorsPerCluster := ← fields.lookup .sectorsPerCluster
    reservedSectors := ← fields.lookup .reservedSectors
    fatCount := ← fields.lookup .fatCount
    rootEntries := ← fields.lookup .rootEntries
    totalSectors := ← fields.lookup .totalSectors
    sectorsPerFat := ← fields.lookup .sectorsPerFat }

end Geometry

/-- The directory entries from a place on, at most `count`, up to a free one. The image must not end
before. -/
def readEntries (image : Array UInt8) : Nat → Nat → List Entry × Option DiskError
  | 0, _ => ([], none)
  | count + 1, start =>
    match readAt image start 32 with
    | [] => ([], some .beyondEnd)
    | b :: rest =>
      if b = 0 then ([], none)
      else
        let (entries, e?) := readEntries image count (start + 32)
        ((b :: rest) :: entries, e?)

/-- A disk and what has been read of it (`MSXDiskReader`). -/
structure Volume where
  image : Array UInt8
  fields : List (Field × Nat) := []
  fat : Option Fat := none
  entries : List Entry := []

namespace Volume

/-- The geometry, once all fields have been read. -/
def geometry? (v : Volume) : Option Geometry := Geometry.ofFields? v.fields

/-- Reads the geometry, the allocation table and the directory (`open_disk`). -/
def openDisk (v : Volume) : Volume × Option DiskError :=
  let (fields, e?) := readFields v.image bootLayout
  match e?, Geometry.ofFields? fields with
  | none, some g =>
    let fat := v.image.extract (sectorSize * g.reservedSectors)
      (sectorSize * g.reservedSectors + sectorSize * g.sectorsPerFat)
    let (entries, e?) := readEntries v.image g.rootEntries g.directoryOffset
    ({ v with fields, fat := some fat, entries }, e?)
  | _, _ => ({ v with fields }, e?)

/-- The table entry of a cluster (`read_fat_entry`); zero while no table has been read. -/
def fatEntry (v : Volume) (cluster : Int) : Except DiskError Nat :=
  match v.fat with
  | none => .ok 0
  | some fat =>
    match fat.entry? cluster with
    | some n => .ok n
    | none => .error .shortWord

/-- The files of the directory (`list_files`). -/
def list (v : Volume) : Except DiskError (List FileRecord) := listEntries v.entries

/-- The first entry whose name is the given one without regard to case. -/
def find? (v : Volume) (name : List Char) : Option Entry :=
  v.entries.find? fun e => (e.fileName?.map Text.upper) == some (Text.upper name)

/-- An extraction under way: the bytes still to come, the current cluster and what was written. -/
structure Copying where
  left : Nat
  cluster : Nat
  written : Array UInt8
deriving DecidableEq, Repr

/-- What happens to an extraction in one step. -/
inductive CopyStep where
  | finished
  | failed (next : Copying) (e : DiskError)
  | going (next : Copying)

/-- Whether a cluster number is one of a file's cluster and no mark. -/
def isDataCluster (cluster : Nat) : Bool := 0x002 ≤ cluster && cluster ≤ 0xFF6

/-- Copies from the current cluster and goes to the next one. -/
def copyStep (v : Volume) (g : Geometry) (c : Copying) : CopyStep :=
  if c.left = 0 ∨ !isDataCluster c.cluster then .finished
  else
    let count := min c.left g.clusterBytes
    let part := readAt v.image (g.dataOffset + (c.cluster - 2) * g.clusterBytes) count
    let c := { c with left := c.left - count, written := c.written ++ part.toArray }
    match v.fatEntry c.cluster with
    | .error e => .failed c e
    | .ok next => .going { c with cluster := next }

/-- How an extraction ended, with the bytes written; `endless` when it would go on for ever. -/
inductive Extraction where
  | missing
  | unreadable (e : DiskError)
  | complete (written : Array UInt8)
  | broken (written : Array UInt8) (e : DiskError)
  | endless
deriving DecidableEq, Repr

/-- Copies for at most `fuel` steps. -/
def copy (v : Volume) (g : Geometry) : Nat → Copying → Extraction
  | 0, _ => .endless
  | fuel + 1, c =>
    match v.copyStep g c with
    | .finished => .complete c.written
    | .failed c e => .broken c.written e
    | .going c => copy v g fuel c

/-- Extracts a file by name (`extract_file`). With clusters of some length every step leaves fewer
bytes, and with empty clusters a walk of more than 4096 steps has come back to a cluster, so the
bound on the steps is reached only by a walk without end. -/
def extract (v : Volume) (name : List Char) : Extraction :=
  match v.find? name, v.geometry? with
  | some e, some g =>
    match e.word 26, e.longWord 28 with
    | .error x, _ => .unreadable x
    | _, .error x => .unreadable x
    | .ok first, .ok size => v.copy g (size + 4097) ⟨size, first, #[]⟩
  | _, _ => .missing

end Volume

end MsxWorkbench.Disk
