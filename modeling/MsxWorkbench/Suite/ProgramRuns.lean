import MsxWorkbench.Charset.Source
import MsxWorkbench.Disk.Volume
import MsxWorkbench.Program.Analysis
import MsxWorkbench.Program.Highlight
import MsxWorkbench.Program.Renumber
import MsxWorkbench.Program.Spacing
import MsxWorkbench.Program.Tokens
import MsxWorkbench.Report.Program
import MsxWorkbench.Report.Settings
import MsxWorkbench.Suite.CharacterSample
import MsxWorkbench.Suite.DiskSample
import MsxWorkbench.Suite.Outcome
/-
# Measured runs on programs and disks

Each run works on sample data of a given size and reports a few numbers and texts of its result.
-/
namespace MsxWorkbench.Suite

/-- The segments of a tokenised sample program. -/
def sampleSegments (lines : Nat) : List Program.Segment :=
  (Program.segments (tokenProgram lines)).toOption.getD []

/-- Decodes a tokenised program: the number of segments, the length of the text, and the first and the
last segment. -/
def decodeRun (lines : Nat) : Outcome :=
  let segments := sampleSegments lines
  match segments.head?, segments.getLast? with
  | some first, some last =>
    .ok (.arr [.ofNat segments.length, .ofNat (Program.Segment.textOf segments).length,
      first.report, last.report])
  | _, _ => .error .noItem

/-- The summary of a source program. -/
def sampleSummary (lines : Nat) : Program.Analysis.Summary :=
  (Program.Analysis.addText {} (sourceProgram lines).toList).1.summarize.2

/-- Analyses a source program: the numbers of variables, jumps and subroutines, and the memory. -/
def analyzeRun (lines : Nat) : Outcome :=
  let s := sampleSummary lines
  .ok (.arr [.ofNat s.vars.length, .ofNat s.flow.length, .ofNat s.subroutines.length,
    .ofNat s.memory])

/-- The number of segments of an extracted program; what could not be extracted has none. -/
def extractedSegments : Disk.Volume.Extraction → Nat
  | .complete written => ((Program.segments written.toList).toOption.getD []).length
  | _ => 0

/-- Reads a disk: the number of files, the segments of all of them, the date of the first and the size
of the last. -/
def diskRun (files : Nat) : Outcome :=
  let volume := (Disk.Volume.openDisk { image := (diskImage files 3).toArray }).1
  let records := volume.list.toOption.getD []
  match records.head?, records.getLast? with
  | some first, some last =>
    let segments := (records.map fun r => extractedSegments (volume.extract r.name)).foldl (· + ·) 0
    .ok (.arr [.ofNat records.length, .ofNat segments, .str first.date, .ofNat last.size])
  | _, _ => .error .noItem

/-- Writes settings and reads them back, then analyses and decodes programs: the values read, the
colours of the plain theme, the memory, the number of jumps and the number of segments. -/
def settingsRun (lines : Nat) : Outcome :=
  let numbers := List.range 6
  let store := numbers.foldl (fun s i => s.set s!"k{i}" s!"v{i}") ({} : Settings.Store)
  let s := sampleSummary lines
  .ok (.arr [.ofList (fun i => .str (store.get s!"k{i}" "")) numbers, Settings.Theme.classico.report,
    .ofNat s.memory, .ofNat s.flow.length, .ofNat (sampleSegments (lines / 2)).length])

/-- Reads character sources: the number of items of an array, its first items, the first characters
after the assignments, and the number of segments of a program. -/
def characterRun (items : Nat) : Outcome :=
  let source := arraySource "CHARS" ((List.range items).map mixedItem)
  let read := ((Charset.readArray source.toList "CHARS".toList).toOption.bind id).getD []
  let assigned := "\n".intercalate ((List.range (min items 128)).map fun i =>
    assignmentSource i ("'" ++ String.ofList [placeLetter i] ++ "'"))
  let high := (List.range 128).map fun i => [Char.ofNat (0x80 + i)]
  let high := (Charset.readOverrides assigned.toList high).toOption.getD []
  .ok (.arr [.ofNat read.length, .ofList .ofChars (read.take 4), .ofList .ofChars (high.take 4),
    .ofNat (sampleSegments (3 * items)).length])

/-- Lines in mixed case, respaced without changing it. -/
def mixedLines : List String :=
  ["10 rem mixed", "print A", "20 print \"unterminated", "for I=1 to 10", "", "30 let A=B:print A"]

/-- Respaces a program: the length of all lines, the first line, and the lines in mixed case. -/
def respaceRun (lines : Nat) : Outcome :=
  let respaced := (sourceLines lines).map fun l => Program.respace false l.toList
  match respaced.head? with
  | none => .error .noItem
  | some first =>
    .ok (.arr [.ofNat ((respaced.map List.length).foldl (· + ·) 0), .ofChars first,
      .ofList (fun l => .ofChars (Program.respace true l.toList)) mixedLines])

/-- A program with the numbers that the suite gives it. -/
def renumbered (lines : Nat) : List Char :=
  let renumber : Except Text.IntegerError (List Char) := do
    let assigned := (Program.Numbering.mk 100 10).assign
      (← Program.programLines (sourceProgram lines).toList)
    Program.renumberLines (Program.lookupAssigned assigned) assigned
  renumber.toOption.getD []

/-- How often the suite shades a renumbered text. -/
def shadings : Nat := 4

/-- The parts of a text that are shaded. -/
def shadedCount (text : List Char) : Nat :=
  ((Text.rows text).map fun l => (Program.shadedParts l).length).foldl (· + ·) 0

/-- Renumbers a program and shades it: the length of the text, its first line and the number of parts
shaded. -/
def renumberRun (lines : Nat) : Outcome :=
  if lines = 0 then .error .noItem
  else
    let text := renumbered lines
    .ok (.arr [.ofNat text.length, .ofChars ((Text.rows text).headD []),
      .ofNat (shadings * shadedCount text)])

end MsxWorkbench.Suite
