import MsxWorkbench.Json.Access
import MsxWorkbench.Json.Kind
import MsxWorkbench.Json.Reader
import MsxWorkbench.Text.Blank
import MsxWorkbench.Text.Lines
/-
# Earlier rounds

The record of earlier measuring rounds, one to a line, and the two signs that further rounds are of no
use: no share is too low, or the count of low shares has not fallen for four rounds.
-/
namespace MsxWorkbench.Round

/-- The lines of the record that are not blank. -/
structure History where
  lines : List (List Char)

namespace History

/-- The record that a text holds. -/
def ofText (text : List Char) : History := ⟨(Text.lines text).filter fun l => !Text.allBlank l⟩

/-- The number of the round that follows. -/
def nextRound (h : History) : Nat := h.lines.length + 1

/-- The entries; nothing if a line is no JSON object. -/
def entries? (h : History) : Option (List Json) :=
  h.lines.mapM fun l => (Json.read l).toOption.filter Json.isObject

/-- Seconds since the last round, with two decimals; zero if that round has no time, and nothing if its
time is no number. -/
def secondsSince? (entries : List Json) (now : Binary64) : Option Binary64 :=
  match entries.getLast?.map fun e => e.member "ts" with
  | none => some (.ofInt 0)
  | some time =>
    if time.isNothing then some (.ofInt 0)
    else time.number?.map fun t => (now.sub t).roundTo 2

/-- The counts of low shares in the rounds that have one. -/
def belowCounts (entries : List Json) : List Int :=
  entries.filterMap fun e => (e.member "n_below_repo_time").whole?

end History

/-- The file that holds the suite of benchmarks, the only one to be changed between rounds. -/
def suiteName : String := "microbench.py"

/-- Why no further round is needed. -/
inductive Convergence where
  | noneBelow
  | noImprovement (best : Int)
deriving DecidableEq, Repr

namespace Convergence

/-- How many rounds without a lower count end the work. -/
def patience : Nat := 4

/-- Judges the counts of low shares, the newest last. -/
def judge? (counts : List Int) : Option Convergence :=
  if counts.getLast? = some 0 then some .noneBelow
  else
    let before := counts.take (counts.length - patience)
    let recent := counts.drop (counts.length - patience)
    match before.min?, recent.min? with
    | some old, some new => if old ≤ new then some (.noImprovement old) else none
    | _, _ => none

/-- The line that asks to stop. -/
def line (c : Convergence) : String :=
  let reason := match c with
    | .noneBelow => "0 below"
    | .noImprovement best => s!"no improvement in {patience} rounds; best {best} below"
  ">>> STOP: repo_time converged (" ++ reason ++ "). Finalize " ++ suiteName ++ " now. <<<"

end Convergence

end MsxWorkbench.Round
