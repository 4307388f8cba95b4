import MsxWorkbench.Files.Path
import MsxWorkbench.Json.Demand
import MsxWorkbench.Json.Shown
import MsxWorkbench.Text.Lines
/-
# Coverage of a suite

How much of the programs a suite of benchmarks reaches: statements and missing lines of each file, the
totals, and the benchmarks that failed. The table lists the files with the least coverage first.

A record of coverage may leave out any part, which then counts as zero or empty. A part of the wrong
kind is a mismatch, and there is no coverage then.
-/
namespace MsxWorkbench

/-- The path without double dots where a name stands before them; at the root they mean nothing. -/
def Path.collapsed (p : Path) : List String :=
  p.names.foldl (fun done n => if n == ".." then done.dropLast else done ++ [n]) []

/-- How many names two lists share at their start. -/
def Path.sharedNames : List String → List String → Nat
  | a :: as, b :: bs => if a == b then sharedNames as bs + 1 else 0
  | _, _ => 0

/-- A path as seen from the folder `home`; a relative path starts there. -/
def Path.seenFrom (home p : Path) : String :=
  let start := home.collapsed
  let goal := (home.join p).collapsed
  let shared := sharedNames start goal
  let names := List.replicate (start.length - shared) ".." ++ goal.drop shared
  if names.isEmpty then "." else "/".intercalate names

namespace Round

/-- What is known of one file. -/
structure FileCoverage where
  name : String
  statements : Int
  missing : Int
  percent : Binary64
  /-- The numbers of the missing lines as they were written. -/
  missingLines : List String

/-- What is known of all files. -/
structure Coverage where
  percent : Binary64
  covered : Int
  statements : Int
  /-- Benchmarks that failed, each with its message. -/
  failures : List (String × String)
  /-- The files, those with less coverage first. -/
  files : List FileCoverage

namespace Coverage

/-- The name of a file in the report: an absolute path is given as seen from `home`. -/
def fileName (home : Path) (path : String) : String :=
  if path.toList.head? = some '/' then Path.seenFrom home (.read path) else path

/-- Reads the numbers that were recorded of a file. -/
def readNumbers (home : Path) (path : String) (j : Json) : Except Json.Mismatch FileCoverage := do
  let summary ← j.part "summary"
  return {
    name := fileName home path
    statements := ← Json.wholeOf "num_statements" summary
    missing := ← Json.wholeOf "missing_lines" summary
    percent := ← Json.realOf "percent_covered" summary
    missingLines := [] }

/-- Adds the missing lines that were recorded of a file. -/
def readLines (f : FileCoverage) (j : Json) : Except Json.Mismatch FileCoverage := do
  let lines ← Json.itemsOf (← j.part "missing_lines")
  return { f with missingLines := lines.map Json.shown }

/-- Does a file stand before another one? The one with less coverage does, and of two with the same
the one with more statements. -/
def FileCoverage.before (a b : FileCoverage) : Bool :=
  a.percent.lt b.percent || (!b.percent.lt a.percent && b.statements ≤ a.statements)

/-- Reads a record of coverage. The numbers of all files are read before the missing lines, and these in
the order of the table. -/
def read (home : Path) (j : Json) : Except Json.Mismatch Coverage := do
  let totals ← j.part "totals"
  let percent ← Json.realOf "percent_covered" totals
  let covered ← Json.wholeOf "covered_lines" totals
  let statements ← Json.wholeOf "num_statements" totals
  let failures ← Json.partOf "_pti_bench_errors" (← j.part "meta")
  let records ← Json.membersOf (← j.part "files")
  let numbers ← records.mapM fun (path, r) => return (← readNumbers home path r, r)
  let ordered := numbers.mergeSort fun a b => FileCoverage.before a.1 b.1
  let files ← ordered.mapM fun (f, r) => readLines f r
  let failures ← Json.countedMembersOf failures
  return { percent, covered, statements, files, failures := failures.map fun (k, v) => (k, v.shown) }

/-- The width of the first column: as wide as the longest name, but no more than sixty. -/
def nameWidth (c : Coverage) : Nat :=
  match (c.files.map (·.name.length)).max? with
  | some n => min 60 n
  | none => 4

/-- One line of the table. -/
def line (width : Nat) (name statements missing percent : String) : String :=
  Text.leftAligned width name ++ "  " ++ Text.rightAligned 5 statements ++ "  " ++
    Text.rightAligned 4 missing ++ "  " ++ Text.rightAligned 5 percent

/-- A share without decimals. -/
def percentText (x : Binary64) : String := String.ofList (x.fixed 0) ++ "%"

/-- The first twelve missing lines, with a mark if there are more. -/
def missingText (lines : List String) : String :=
  ",".intercalate (lines.take 12) ++ if lines.length > 12 then "…" else ""

/-- The table of files and the line of totals. -/
def table (c : Coverage) : List String :=
  let width := c.nameWidth
  let dashes := Text.rule (width + 42)
  let rows := c.files.map fun f =>
    line width (String.ofList (f.name.toList.take width)) (toString f.statements)
      (toString f.missing) (percentText f.percent) ++ "  " ++ missingText f.missingLines
  [line width "Name" "Stmts" "Miss" "Cover" ++ "  Missing", dashes] ++ rows ++
    [dashes, line width "TOTAL" (toString c.statements) (toString (c.statements - c.covered))
      (percentText c.percent)]

/-- The benchmarks that failed, at most eight of them, below a blank line. -/
def failureLines (c : Coverage) : List String :=
  if c.failures.isEmpty then []
  else ["", s!"{c.failures.length} bench error(s):"] ++
    (c.failures.take 8).map fun (name, message) => s!"  {name}: {message}"

end Coverage

end Round

end MsxWorkbench
