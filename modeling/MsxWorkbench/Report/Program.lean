import MsxWorkbench.Json.Build
import MsxWorkbench.Program.Analysis
import MsxWorkbench.Program.Segment
/-
# Reports on programs

Listings and analyses of programs, as JSON.
-/
namespace MsxWorkbench.Program

/-- A segment: its kind and text. -/
def Segment.report (s : Segment) : Json := .arr [.str s.kind.name, .ofChars s.text]

/-- A variable: its name, type, size, number of uses and lines. -/
def Variable.report (v : Variable) : Json :=
  .arr [.ofChars v.name, .str v.type.name, .ofNat v.type.size, .ofNat v.count, .ofList .ofNat v.lines]

/-- A jump: where it starts, where it leads and its kind. -/
def Jump.report (j : Jump) : Json := .arr [.ofNat j.source, .ofNat j.target, .str j.kind.name]

/-- The result of an analysis. -/
def Analysis.Summary.report (s : Analysis.Summary) : Json :=
  .obj [("variables", .ofList Variable.report s.vars), ("flow", .ofList Jump.report s.flow),
    ("subroutines", .ofList .ofNat s.subroutines), ("total_memory_est", .ofNat s.memory)]

end MsxWorkbench.Program
