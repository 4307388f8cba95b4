import MsxWorkbench.Json.Access
import MsxWorkbench.Json.Demand
import MsxWorkbench.Json.Shown
import MsxWorkbench.Text.Lines
/-
# Self-checking benchmarks

Whether the result of a benchmark can serve as a check of the program: it must return something, the
same at each run, made by the measured programs and depending on the parameter. The first rule that a
benchmark breaks is its verdict.
-/
namespace MsxWorkbench.Round

/-- What is said of a benchmark. -/
inductive Verdict where
  | error
  | returnsNone
  | unstable
  | returnsInput
  | lowRepoTime
  | tooFast
  | paramInvariant
  | repoModified
  /-- Good, but it has no parameter to vary. -/
  | okUnparam
  | ok
deriving DecidableEq, Repr

namespace Verdict

/-- The word for a verdict. -/
def label : Verdict → String
  | .error => "error"
  | .returnsNone => "returns-none"
  | .unstable => "unstable"
  | .returnsInput => "returns-input"
  | .lowRepoTime => "low-repo-time"
  | .tooFast => "too-fast"
  | .paramInvariant => "param-invariant"
  | .repoModified => "repo-modified"
  | .okUnparam => "ok-unparam"
  | .ok => "ok"

/-- Can the benchmark serve as a check? -/
def isGood (v : Verdict) : Bool := v == .ok || v == .okUnparam

end Verdict

/-- What was observed of a benchmark. -/
structure Observation where
  name : String
  /-- The type of the result; an unknown one and a failure stand between angle brackets or are
  written as a question mark. -/
  returned : String
  /-- Fingerprints of the results of repeated runs. -/
  repeated : List Json
  /-- Fingerprints of the results by parameter. -/
  byParameter : List Json
  /-- Fingerprints of the parameters themselves. -/
  parameters : List Json
  /-- Shares of the time spent in the measured programs. -/
  shares : List Binary64
  /-- Milliseconds spent in the measured programs. -/
  times : List Binary64

/-- The middle one of some numbers, or half the sum of the two middle ones; zero if there are none. -/
def median (xs : List Binary64) : Binary64 :=
  let sorted := xs.mergeSort fun a b => !b.lt a
  let half := xs.length / 2
  if xs.length % 2 = 1 then sorted.getD half (.ofInt 0)
  else ((sorted.getD (half - 1) (.ofInt 0)).add (sorted.getD half (.ofInt 0))).div (.ofInt 2)

/-- The least of some numbers; zero if there are none. -/
def least : List Binary64 → Binary64
  | [] => .ofInt 0
  | x :: rest => rest.foldl (fun low y => if y.lt low then y else low) x

/-- Are all elements equal to the first? -/
def allSame (xs : List Json) : Bool := xs.all fun x => some x == xs.head?

namespace Observation

/-- Reads what was observed of a benchmark. -/
def read (name : String) (j : Json) : Except Json.Mismatch Observation := do
  let values (key : String) : Except Json.Mismatch (List Json) := do
    return (← Json.membersOf (← j.part key)).map Prod.snd
  return {
    name := name
    returned := ((← j.part "ret_type").map Json.shown).getD "?"
    repeated := (j.member "fp_stable").items
    byParameter := ← values "fp_by_param"
    parameters := (j.member "param_fps").items
    shares := ← (← values "repo_frac").mapM Json.toReal
    times := ← (← values "repo_tt_ms").mapM Json.toReal }

/-- The verdict on a benchmark; `modified` tells whether the measured programs were changed. -/
def verdict (modified : Bool) (o : Observation) : Verdict :=
  if o.returned == "?" || o.returned.toList.head? == some '<' then .error
  else if o.returned == "NoneType" then .returnsNone
  else if o.repeated.isEmpty || !allSame o.repeated then .unstable
  else if o.parameters.any fun p => some p == o.repeated.head? then .returnsInput
  else if o.shares.any fun x => x.lt (.ofRatio false 1 2) then .lowRepoTime
  else if !o.times.isEmpty && (median o.times).lt (.ofInt 1) then .tooFast
  else if o.byParameter.length ≥ 2 && allSame o.byParameter then .paramInvariant
  else if modified then .repoModified
  else if o.byParameter.length < 2 then .okUnparam
  else .ok

/-- The line of a benchmark in the report. -/
def line (modified : Bool) (o : Observation) : String :=
  let verdict := o.verdict modified
  let share := (least o.shares).mul (.ofInt 100)
  "  " ++ (if verdict.isGood then " " else "*") ++ " " ++ Text.leftAligned 32 o.name ++ " " ++
    Text.leftAligned 16 verdict.label ++ " (" ++ o.returned ++ ", repo " ++
    String.ofList (share.fixed 0) ++ "%) " ++ String.ofList ((median o.times).fixed 1) ++ "ms"

end Observation

/-- The observations of all benchmarks, and whether the measured programs were changed. -/
structure SelfCheck where
  modified : Bool := false
  observations : List Observation := []

namespace SelfCheck

/-- Reads a record of observations; a benchmark without an object of its own is left out. -/
def read (modified : Bool) (j : Json) : Except Json.Mismatch SelfCheck := do
  let objects := (← Json.membersOf (← j.part "semcheck")).filter fun (_, o) => o.isObject
  return ⟨modified, ← objects.mapM fun (name, o) => Observation.read name o⟩

/-- The verdicts by benchmark. -/
def verdicts (s : SelfCheck) : List (String × Verdict) :=
  s.observations.map fun o => (o.name, o.verdict s.modified)

/-- How many benchmarks cannot serve as a check. -/
def badCount (s : SelfCheck) : Nat := s.verdicts.countP fun v => !v.2.isGood

/-- What the verdicts ask for. -/
def legend : List String :=
  ["  returns-none: run() has no return — collect and return the call results",
   "  unstable: seed RNG in setup; avoid time/uuid/id in the return",
   "  returns-input: return repo output, not the parameter value",
   "  low-repo-time: <50% of run() time is in repo code — move glue to setup",
   "  param-invariant: return something derived from run()'s work, not setup",
   "  repo-modified: revert edits to repo files (git checkout -- <path>)"]

/-- The section of the report: benchmarks that cannot serve come first. -/
def lines (s : SelfCheck) : List String :=
  if s.observations.isEmpty then []
  else
    let (good, bad) := s.observations.partition fun o => (o.verdict s.modified).isGood
    ["", "self-check (* = fix needed):"] ++ legend ++ (bad ++ good).map (Observation.line s.modified)

/-- What the closing line says about the verdicts. -/
def summary (s : SelfCheck) : String :=
  if s.observations.isEmpty then ""
  else s!", {s.badCount}/{s.observations.length} not self-checking"

end SelfCheck

end MsxWorkbench.Round
