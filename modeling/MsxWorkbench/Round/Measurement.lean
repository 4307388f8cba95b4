import MsxWorkbench.Json.Build
import MsxWorkbench.Round.Coverage
import MsxWorkbench.Round.Fault
import MsxWorkbench.Round.History
import MsxWorkbench.Round.RepoTime
import MsxWorkbench.Round.SelfCheck
/-
# A measuring round

A round runs the tools that measure a suite of benchmarks, prints a report of what they found, and adds
one entry to the record of rounds. Without a record of coverage there is no report, and one that cannot
be used ends the round with a fault.
-/
namespace MsxWorkbench.Round

/-- What a tool left behind. -/
structure ToolRun where
  stdout : List Char := []
  stderr : List Char := []
  exit : Int := 0
  /-- The message of a tool that could not be started. -/
  failure : Option String := none

/-- Everything a round looks at. A tool that does not exist has no run. -/
structure Surroundings where
  home : Path
  suite : List Char
  history : List Char
  coverage : Option (List Char)
  coverageRun : ToolRun
  timeRun : Option ToolRun
  checkRun : Option ToolRun
  changesRun : ToolRun
  started : Binary64
  finished : Binary64
  now : Binary64
  /-- The record of rounds cannot be written. -/
  readOnly : Bool

/-- What a round leaves behind. -/
structure Outcome where
  printed : String
  complaints : String := ""
  exit : Option Int := none
  entry : Option Json := none

/-- The JSON value on the last line of what a tool wrote; an empty object if that line is empty. -/
def ToolRun.value (r : ToolRun) : Except Fault Json :=
  let line := ((Text.lines r.stdout).getLast?).getD []
  match r.failure with
  | some message => .error (.notStarted message)
  | none => if line.isEmpty then .ok (.obj []) else readRecord line

/-- What `read` makes of a tool's output, and the complaint if it can make nothing of it. -/
def ToolRun.taken {α : Type} (tool : String) (nothing : α) (read : Json → Except Json.Mismatch α)
    (r : ToolRun) : α × String :=
  match r.value.bind fun j => (read j).mapError .mismatch with
  | .ok x => (x, "")
  | .error e => (nothing, e.complaint tool)

/-- The files of the measured programs that were changed. The suite itself may be changed, and new
files do not count. -/
def changedFiles (r : ToolRun) : List String :=
  if r.failure.isSome then []
  else ((Text.lines r.stdout).filterMap fun l =>
    let name := String.ofList (l.drop 3)
    if Text.allBlank l || "??".toList.isPrefixOf l || name == suiteName then none else some name)

/-- The section on changed files. -/
def changedLines (files : List String) : List String :=
  if files.isEmpty then []
  else ["", s!"** repo modified ({files.length} file(s)) — " ++
    "revert these; only " ++ suiteName ++ " is yours to edit:"] ++ (files.take 10).map ("   " ++ ·)

/-- How many benchmarks a suite defines: lines that start a definition named so. -/
def benchCount (suite : List Char) : Nat :=
  (Text.rows suite).countP fun l => "def bench_".toList.isPrefixOf l

/-- The text of printed lines. -/
def printedText (lines : List String) : String := String.join (lines.map (· ++ "\n"))

/-- The least coverage at which a round may ask to stop, in per cent. -/
def leastCoverage : Nat := 60

/-- The shares of time, and the complaint if they could not be read. -/
def Surroundings.time (s : Surroundings) : RepoTime × String :=
  match s.timeRun with
  | some r => r.taken "repotime" {} RepoTime.read
  | none => ({}, "")

/-- The verdicts, and the complaint if they could not be read. -/
def Surroundings.check (s : Surroundings) (modified : Bool) : SelfCheck × String :=
  match s.checkRun with
  | some r => r.taken "semcheck" {} (SelfCheck.read modified)
  | none => ({}, "")

/-- The report of a round whose coverage was recorded. -/
def report (s : Surroundings) (c : Coverage) : Outcome :=
  let seconds := s.finished.sub s.started
  let modified := changedFiles s.changesRun
  let (time, timeFault) := s.time
  let (check, checkFault) := s.check (!modified.isEmpty)
  let history := History.ofText s.history
  let benches := benchCount s.suite
  let closing := s!"[round {history.nextRound}: {benches} benches, " ++
    String.ofList (c.percent.fixed 1) ++ "% covered" ++ time.summary ++ check.summary ++
    ", measured in " ++ String.ofList (seconds.fixed 1) ++ "s]"
  let counts := History.belowCounts (history.entries?.getD [])
  let stop : Option Convergence := do
    let below ← time.below?
    if c.percent.lt (.ofInt leastCoverage) then none
    Convergence.judge? (counts ++ [(below : Int)])
  let entry : Option Json := do
    let sinceLast ← History.secondsSince? (← history.entries?) s.now
    if s.readOnly then none
    return .obj [
      ("round", .ofNat history.nextRound),
      ("ts", .ofReal s.now),
      ("wall_since_prev_s", .ofReal sinceLast),
      ("coverage_pct", .ofReal c.percent),
      ("covered_lines", .int c.covered),
      ("num_statements", .int c.statements),
      ("n_bench_fns", .ofNat benches),
      ("n_bench_errors", .ofNat c.failures.length),
      ("cov_measure_s", .ofReal (seconds.roundTo 3)),
      ("repo_time_pct", .obj (time.shares.map fun t => (t.name, .ofReal t.percent))),
      ("n_below_repo_time", .ofOption .ofNat time.below?),
      ("semcheck", .obj (check.verdicts.map fun (name, v) => (name, .str v.label))),
      ("n_not_self_checking", .ofNat check.badCount)]
  { printed := printedText (c.table ++ c.failureLines ++ time.lines ++ changedLines modified ++
      check.lines ++ ["", closing] ++ (stop.map fun v => ["", v.line]).getD [])
    complaints := timeFault ++ checkFault
    entry := entry }

/-- What is left of a round that measured no coverage. -/
def unmeasured (r : ToolRun) : Outcome :=
  { printed := s!"coverage measurement failed (exit {r.exit})\n" ++ String.ofList r.stdout ++ "\n"
    complaints := String.ofList r.stderr
    exit := some (if r.exit = 0 then 1 else r.exit) }

/-- Carries out a round. -/
def run (s : Surroundings) : Except Fault Outcome := do
  if let some message := s.coverageRun.failure then throw (.notStarted message)
  match s.coverage, s.coverageRun.exit with
  | some text, 0 =>
    let coverage ← (Coverage.read s.home (← readRecord text)).mapError .mismatch
    return report s coverage
  | _, _ => return unmeasured s.coverageRun

end MsxWorkbench.Round
