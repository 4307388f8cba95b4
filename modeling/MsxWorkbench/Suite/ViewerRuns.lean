import MsxWorkbench.Contents.ContentsViewer
import MsxWorkbench.Contents.ManualViewer
import MsxWorkbench.Suite.PictureRuns
import MsxWorkbench.Suite.ProgramRuns
import MsxWorkbench.Viewer.FileViewer
/-
# Measured runs of the windows

The editor, the file viewer and the help viewers at work on sample files.
-/
namespace MsxWorkbench.Suite

/-- How often the editor shades the program while it is numbered, respaced and searched. -/
def editorShadings : Nat := 7

/-- The parts shaded in texts that are the same for every size. -/
def fixedParts : Nat := 36

/-- The margins of the editor: the line numbers and the ruler. -/
def margins : Nat := 2

/-- The listing of a tokenised sample program. -/
def sampleListing (lines : Nat) : List Char := Program.Segment.textOf (sampleSegments lines)

/-- Numbers a program in the editor and opens a tokenised one: the length of the text, the number of
parts shaded on the way, and the margins. The new numbers go to a table of the store, which may not be
there. -/
def editorRun (hasTable : Bool) (lines : Nat) : Outcome :=
  if !hasTable then .error .noTable
  else
    let text := (sourceProgram lines).toList
    let parts := editorShadings * shadedCount text + shadedCount (sampleListing lines) + fixedParts
    .ok (.arr [.ofNat text.length, .ofNat parts, .ofNat margins])

/-- The files that are always there: one of each kind but screens and plain text. -/
def fixedFiles : List (String × List UInt8) := [
  ("prog.bas", tokenProgram 20),
  ("shape.shp", shapeRecords (.ofSeed 2) 0 3),
  ("font.alf", alphabetFile),
  ("pic.lay", layoutFile (packedRuns (.ofSeed 3) 0 40)),
  ("data.bin", [0x00, 0x81, 0xFE])]

/-- The further files: screens, texts and files of bytes in turn. -/
def furtherFile (position : Nat) : String × List UInt8 :=
  match position % 3 with
  | 0 => (s!"f{position}.scr", List.replicate (Picture.screenHeader + Picture.screenBytes) 0)
  | 1 => (s!"f{position}.txt", (sourceProgram 5).toUTF8.toList)
  | _ => (s!"f{position}.bin", [0x00, 0x81, 0xFE])

/-- Opens files one after the other: the kinds shown, in order, and the number of files. -/
def viewerRun (files : Nat) : Outcome :=
  let all := fixedFiles ++ (List.range files).map furtherFile
  let desk : Viewer.Desk :=
    { tree := all.foldl (fun t f => t.write ["work", f.1] f.2) { folders := [["work"]] } }
  let opened := all.map fun f => ((Viewer.FileViewer.unlisted desk {}).openFile desk f.1).1
  let kinds := opened.filterMap fun v => v.current.map fun c => c.2.kindName
  let kinds := kinds.mergeSort fun a b => Program.Analysis.textLe a.toList b.toList
  .ok (.arr [.ofList .str kinds, .ofNat all.length])

/-- The archive that the help viewer is asked for and that is not there. -/
def missingArchive : String := "nonexistent.CHM"

/-- Reads a table of contents and decodes a program for each item: the number of topics, the segments
decoded, the number of items and the manuals. -/
def helpRun (items : Nat) : Outcome :=
  .ok (.arr [.ofNat (sampleNames items).length, .ofNat (items * (sampleSegments 150).length),
    .ofNat items, .obj (Contents.manuals.map fun m => (m.1, .str m.2))])

/-- What the help viewer prints while it is made ready. -/
def helpPrinted : String :=
  let v : Contents.ContentsViewer := { shelf := {} }
  String.join (v.load missingArchive).2.1.printed

end MsxWorkbench.Suite
