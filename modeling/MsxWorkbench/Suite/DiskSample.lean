import MsxWorkbench.Disk.Fat
import MsxWorkbench.Suite.ProgramSample
/-
# Sample disks

The image of a disk of 720 kilobytes with a number of program files. Every file has a chain of its own
in the table of clusters, and two entries at the end of the directory are none: a deleted one and one
whose name cannot be read.
-/
namespace MsxWorkbench.Suite

/-- The bytes of a disk. -/
def diskBytes : Nat := 737280

/-- Bytes of a cluster. -/
def clusterBytes : Nat := 1024

/-- Entries of the directory. -/
def directoryEntries : Nat := 112

/-- The files that fit beside the entries that are none. -/
def mostFiles : Nat := 109

/-- The number of files on a disk for which more may have been asked. -/
def fileCount (files : Nat) : Nat := min files mostFiles

/-- Some bytes with zeros behind them up to a length. -/
def padTo (length : Nat) (bs : List UInt8) : List UInt8 :=
  bs.take length ++ List.replicate (length - bs.length) 0

/-- The first sector: the geometry of the disk. -/
def bootSector : List UInt8 :=
  padTo 512 ([0, 0, 0, 0, 0, 0, 0, 0, 0, 0, 0, 0, 0] ++ [2] ++ wordBytes 1 ++ [2] ++
    wordBytes directoryEntries ++ wordBytes 1440 ++ [0] ++ wordBytes 3)

/-- The first cluster of a file. -/
def firstCluster (clusters file : Nat) : Nat := 2 + file * clusters

/-- The entries of a file's chain: each cluster names the next, and the last one ends it. -/
def chain (clusters file : Nat) : List (Nat × Int) :=
  (List.range clusters).map fun k =>
    let cluster := firstCluster clusters file + k
    (cluster, if k + 1 = clusters then 0xFFF else (cluster + 1 : Nat))

/-- A table of clusters with some entries set. -/
def setEntries (fat : Disk.Fat) (entries : List (Nat × Int)) : Disk.Fat :=
  entries.foldl (fun fat e => fat.setEntry e.1 e.2) fat

/-- The tables of clusters, of which the second one stays empty. -/
def clusterTable (files clusters : Nat) : List UInt8 :=
  let entries := (0, 0xFF9) :: (1, 0xFFF) :: (List.range (fileCount files)).flatMap (chain clusters)
  (setEntries (Array.replicate 1536 0) entries).toList ++ List.replicate 1536 0

/-- The bytes of a name. -/
def nameBytes (name : String) : List UInt8 := name.toList.map fun c => UInt8.ofNat c.toNat

/-- A number with four digits. -/
def fourDigits (n : Nat) : String :=
  let digits := toString n
  String.ofList (List.replicate (4 - digits.length) '0') ++ digits

/-- The size of a file. -/
def fileSize (clusters file : Nat) : Nat := 200 + file + clusterBytes * (clusters - 1)

/-- The directory entry of a file; all were written on 15 June 2000. -/
def fileEntry (clusters file : Nat) : List UInt8 :=
  nameBytes ("FILE" ++ fourDigits file ++ "BAS") ++ List.replicate 11 0 ++ wordBytes 0x63CF ++
    wordBytes 0x28CF ++ wordBytes (firstCluster clusters file) ++ wordBytes (fileSize clusters file) ++
    wordBytes (fileSize clusters file / 65536)

/-- The entry of a deleted file. -/
def deletedEntry : List UInt8 := padTo 32 (0xE5 :: nameBytes "DELETEDBAS")

/-- An entry whose name cannot be read. -/
def unreadableEntry : List UInt8 := padTo 28 (0xC0 :: nameBytes "BADNAME   ") ++ [10, 0, 0, 0]

/-- The directory. -/
def directory (files clusters : Nat) : List UInt8 :=
  padTo (32 * directoryEntries)
    ((List.range (fileCount files)).flatMap (fileEntry clusters) ++ deletedEntry ++ unreadableEntry)

/-- What every cluster holds: the start of a long program. -/
def clusterContent : List UInt8 := (tokenProgram 100).take clusterBytes

/-- The image of a disk with a number of files, each with a number of clusters. -/
def diskImage (files clusters : Nat) : List UInt8 :=
  padTo diskBytes (bootSector ++ clusterTable files clusters ++ directory files clusters ++
    (List.replicate (fileCount files * clusters) clusterContent).flatten)

end MsxWorkbench.Suite
