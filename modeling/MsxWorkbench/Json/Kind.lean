import MsxWorkbench.Json.Value
/-
# Kinds of JSON values

The word for the kind of a value in messages, and which values count as nothing.
-/
namespace MsxWorkbench.Json

/-- The word for a value's kind in messages. -/
def kindWord : Json → String
  | .null => "NoneType"
  | .bool _ => "bool"
  | .int _ => "int"
  | .real _ => "float"
  | .str _ => "str"
  | .arr _ => "list"
  | .obj _ => "dict"

/-- Does a value count as nothing? Zero and everything empty do. -/
def isNothing : Json → Bool
  | .null => true
  | .bool b => !b
  | .int n => n == 0
  | .real (.finite _ m _) => m == 0
  | .real _ => false
  | .str s => s.isEmpty
  | .arr xs => xs.isEmpty
  | .obj ms => ms.isEmpty

end MsxWorkbench.Json
