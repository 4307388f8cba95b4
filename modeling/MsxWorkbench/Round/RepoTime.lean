import MsxWorkbench.Json.Access
import MsxWorkbench.Json.Demand
import MsxWorkbench.Text.Lines
/-
# Time inside the measured programs

Which share of its time a benchmark spends in the programs it measures. A negative share stands for a
benchmark that could not be measured; a share below 45 % is too low, and what took the time instead is
listed with it.
-/
namespace MsxWorkbench.Round

/-- The share of one benchmark. -/
structure TimeShare where
  name : String
  percent : Binary64
  /-- Where else the time went, as shares of modules. -/
  elsewhere : List (Binary64 × String)

/-- The shares of all benchmarks, in the order in which they were measured. -/
structure RepoTime where
  shares : List TimeShare := []

namespace TimeShare

/-- Could the benchmark be measured? -/
def isMeasured (t : TimeShare) : Bool := !t.percent.lt (.ofInt 0)

/-- Is the share too low? -/
def isLow (t : TimeShare) : Bool := t.isMeasured && t.percent.lt (.ofInt 45)

/-- The line of a benchmark in the report. -/
def line (t : TimeShare) : String :=
  let share := if t.isMeasured then t.percent else .ofInt 0
  let front := "  " ++ (if t.isLow then "*" else " ") ++ " " ++ Text.leftAligned 32 t.name ++ " " ++
    Text.rightAligned 5 (String.ofList (share.fixed 1)) ++ "%"
  if !t.isMeasured then front ++ "  <error>"
  else if t.isLow && !t.elsewhere.isEmpty then
    front ++ " (hot: " ++ " ".intercalate (t.elsewhere.map fun (share, name) =>
      name ++ " " ++ String.ofList (share.fixed 0) ++ "%") ++ ")"
  else front

end TimeShare

namespace RepoTime

/-- Where else the time of a benchmark went; what is no pair of a share and a name is left out. -/
def readElsewhere (name : String) (hot : Json) : List (Binary64 × String) :=
  (hot.member name).items.filterMap fun
    | .arr [share, .str module] => some (share.number, module)
    | _ => none

/-- Reads a record of shares. -/
def read (j : Json) : Except Json.Mismatch RepoTime := do
  let shares ← Json.membersOf (← j.part "repo_time_pct")
  let hot ← j.part "hot_ext"
  return ⟨← shares.mapM fun (name, share) =>
    return ⟨name, ← share.toReal, readElsewhere name (hot.getD .null)⟩⟩

/-- The benchmarks that could be measured. -/
def measured (r : RepoTime) : List TimeShare := r.shares.filter TimeShare.isMeasured

/-- How many shares are too low; nothing can be said if none was measured. -/
def below? (r : RepoTime) : Option Nat :=
  if r.measured.isEmpty then none else some (r.shares.countP TimeShare.isLow)

/-- The section of the report, the lowest shares first. -/
def lines (r : RepoTime) : List String :=
  if r.shares.isEmpty then []
  else ["", "repo_time (target 50%; * = below 45%):"] ++
    (r.shares.mergeSort fun a b => !b.percent.lt a.percent).map TimeShare.line

/-- What the closing line says about the shares. -/
def summary (r : RepoTime) : String :=
  if r.shares.isEmpty then ""
  else s!", {r.shares.countP TimeShare.isLow}/{r.measured.length} below repo_time 45%"

end RepoTime

end MsxWorkbench.Round
