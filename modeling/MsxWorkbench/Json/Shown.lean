import MsxWorkbench.Json.Value
import MsxWorkbench.Text.Quoted
/-
# Values in a report

How a report shows a JSON value: a text stands as it is, a text inside a list or an object is quoted,
and the words for nothing and for truth start with a capital.
-/
namespace MsxWorkbench.Json

mutual

/-- A value inside a list or an object. -/
def shownInside : Json → List Char
  | .null => "None".toList
  | .bool b => (if b then "True" else "False").toList
  | .int n => (toString n).toList
  | .real x => x.toText
  | .str s => Text.quoted s.toList
  | .arr xs => '[' :: shownItems xs ++ [']']
  | .obj ms => '\x7b' :: shownMembers ms ++ ['\x7d']

/-- The items of a list, with commas between them. -/
def shownItems : List Json → List Char
  | [] => []
  | [x] => shownInside x
  | x :: rest => shownInside x ++ ", ".toList ++ shownItems rest

/-- The members of an object, with commas between them. -/
def shownMembers : List (String × Json) → List Char
  | [] => []
  | [(k, v)] => Text.quoted k.toList ++ ": ".toList ++ shownInside v
  | (k, v) :: rest =>
    Text.quoted k.toList ++ ": ".toList ++ shownInside v ++ ", ".toList ++ shownMembers rest

end

/-- A value as a report shows it. -/
def shown : Json → String
  | .str s => s
  | j => String.ofList (shownInside j)

end MsxWorkbench.Json
