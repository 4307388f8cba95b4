import MsxWorkbench.Json.Value
/-
# Looking into JSON

The parts of a value, taken as empty where the value is of another kind.
-/
namespace MsxWorkbench.Json

/-- The value of a member; `null` if there is none. -/
def member (j : Json) (key : String) : Json := (j.get? key).getD .null

/-- Is the value an object? -/
def isObject : Json → Bool
  | .obj _ => true
  | _ => false

/-- The items of an array. -/
def items : Json → List Json
  | .arr xs => xs
  | _ => []

/-- The number that a value is. -/
def number? : Json → Option Binary64
  | .int n => some (.ofInt n)
  | .real x => some x
  | _ => none

/-- The number that a value is, zero if it is none. -/
def number (j : Json) : Binary64 := j.number?.getD (.ofInt 0)

/-- The whole number that a value is. -/
def whole? : Json → Option Int
  | .int n => some n
  | .real x => x.toInt?
  | _ => none

end MsxWorkbench.Json
