import MsxWorkbench.Program.Analysis
import MsxWorkbench.Text.Lines
/-
# The map of a program

The report of an analysis as two texts: a table of the variables with the memory they need, and the
list of subroutines and jumps.
-/
namespace MsxWorkbench.Program

open MsxWorkbench.Text (leftAligned rule)

/-- The map of a program: its variables and its flow. -/
structure Map where
  vars : String
  flow : String
deriving DecidableEq, Repr

namespace Map

/-- A row of the table of variables. -/
def variableRow (name type count size lines : String) : String :=
  leftAligned 10 name ++ " | " ++ leftAligned 6 type ++ " | " ++ leftAligned 6 count ++ " | " ++
    leftAligned 8 size ++ " | " ++ lines ++ "\n"

/-- The row of a variable. -/
def rowOf (v : Variable) : String :=
  variableRow (String.ofList v.name) v.type.name (toString v.count) (toString v.type.size)
    (", ".intercalate (v.lines.map toString))

/-- The table of variables. -/
def variablesText (s : Analysis.Summary) : String :=
  variableRow "Nome" "Tipo" "Usos" "Mem(est)" "Linhas" ++ rule 75 ++ "\n" ++
    String.join (s.vars.map rowOf) ++ "\n" ++ rule 75 ++ "\n" ++
    s!"Memória total estimada para variáveis simples: {s.memory} bytes\n" ++
    "(Nota: Strings usam 3 bytes para descritor + conteúdo; Arrays não contabilizados)\n"

/-- A row of the table of jumps. -/
def jumpRow (source target type : String) : String :=
  leftAligned 10 source ++ " | " ++ leftAligned 10 target ++ " | " ++ type ++ "\n"

/-- The row of a jump. -/
def rowOfJump (j : Jump) : String := jumpRow (toString j.source) (toString j.target) j.kind.name

/-- The lines of the subroutines. -/
def subroutinesText (targets : List Nat) : String :=
  if targets.isEmpty then "Nenhuma subrotina identificada.\n"
  else String.join (targets.map fun n => s!"Linha {n}\n")

/-- The subroutines and the jumps. -/
def flowText (s : Analysis.Summary) : String :=
  "--- Subrotinas Identificadas (GOSUB targets) ---\n" ++ subroutinesText s.subroutines ++
    "\n--- Fluxo de Execução (GOTO/GOSUB) ---\n" ++
    jumpRow "Origem" "Destino" "Tipo" ++ rule 40 ++ "\n" ++ String.join (s.flow.map rowOfJump)

/-- The map of a report (`_show_program_map_window`). -/
def ofSummary (s : Analysis.Summary) : Map := ⟨variablesText s, flowText s⟩

/-- The map of a program's text. -/
def ofText (text : List Char) : Except AnalysisError Map :=
  match ({} : Analysis).addText text with
  | (_, some e) => .error e
  | (a, none) => .ok (ofSummary a.summarize.2)

end Map

end MsxWorkbench.Program
