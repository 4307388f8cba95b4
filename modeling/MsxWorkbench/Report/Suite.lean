import MsxWorkbench.Report.Picture
import MsxWorkbench.Suite.Benchmark
import MsxWorkbench.Suite.TextBuffer
/-
# The suite as JSON

Sample data and the text buffer.
-/
namespace MsxWorkbench.Suite

/-- A sample disk: the number of its files, the size and checksum of the image, its first bytes, the
first bytes of the table of clusters, and some entries of the directory. -/
def diskReport (files clusters : Nat) (entries : List Nat) : Json :=
  let image := (diskImage files clusters).toArray
  let part (start count : Nat) : Json := .ofBytes (image.extract start (start + count)).toList
  .obj [("r", .ofNat (fileCount files)), ("len", .ofNat image.size),
    ("crc", Checksum.report image.toList), ("boot", part 0 32), ("fat", part 512 64),
    ("dir", .ofList (fun e => part (3584 + 32 * e) 32) entries)]

/-- The sample character sources by file name. -/
def characterReport : Json := .obj (characterFiles.map fun f => (f.1, .str f.2))

/-- The lines of a text buffer. -/
def TextBuffer.report (b : TextBuffer) : Json := .ofList .ofChars b.lines

end MsxWorkbench.Suite
