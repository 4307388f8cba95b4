import MsxWorkbench.Json.Kind
import MsxWorkbench.Text.Real
/-
# Demands on JSON values

What a program needs a value to be: something with members, a number, a sequence to take items from.
A value that counts as nothing is treated as missing; one of the wrong kind is a mismatch. Numbers may
also be given as texts.
-/
namespace MsxWorkbench.Json

/-- Why a value is not what was needed. -/
inductive Mismatch where
  /-- A member was looked for in a value that is no object. -/
  | noMember (kind : String)
  /-- All members were asked of a value that is no object. -/
  | noMembers (kind : String)
  /-- The number of members was asked of a value that has no parts. -/
  | noSize (kind : String)
  /-- The first items were asked of a value without an order of items. -/
  | noItems (kind : String)
  /-- The first items were asked of an object. -/
  | unorderedItems
  | noWhole (kind : String)
  | noReal (kind : String)
  | badWhole (error : Text.IntegerError)
  | badReal (text : String)
  | wholeOfNan
  | wholeOfInfinity
  | realTooLarge
deriving DecidableEq, Repr

namespace Mismatch

/-- The message for a mismatch. -/
def message : Mismatch → String
  | .noMember kind => s!"'{kind}' object has no attribute 'get'"
  | .noMembers kind => s!"'{kind}' object has no attribute 'items'"
  | .noSize kind => s!"object of type '{kind}' has no len()"
  | .noItems kind => s!"'{kind}' object is not subscriptable"
  | .unorderedItems => "unhashable type: 'slice'"
  | .noWhole kind =>
    s!"int() argument must be a string, a bytes-like object or a real number, not '{kind}'"
  | .noReal kind => s!"float() argument must be a string or a real number, not '{kind}'"
  | .badWhole e => e.message
  | .badReal text => "could not convert string to float: " ++ String.ofList (Text.quoted text.toList)
  | .wholeOfNan => "cannot convert float NaN to integer"
  | .wholeOfInfinity => "cannot convert float infinity to integer"
  | .realTooLarge => "int too large to convert to float"

/-- The word that a report puts before the message. -/
def word : Mismatch → String
  | .noMember _ | .noMembers _ => "AttributeError"
  | .noSize _ | .noItems _ | .unorderedItems | .noWhole _ | .noReal _ => "TypeError"
  | .badWhole _ | .badReal _ | .wholeOfNan => "ValueError"
  | .wholeOfInfinity | .realTooLarge => "OverflowError"

end Mismatch

/-- A member that counts as something. -/
def part (key : String) : Json → Except Mismatch (Option Json)
  | .obj ms => .ok ((ms.lookup key).filter fun v => !v.isNothing)
  | j => .error (.noMember j.kindWord)

/-- A part of a part. -/
def partOf (key : String) : Option Json → Except Mismatch (Option Json)
  | some j => j.part key
  | none => .ok none

/-- All members, none if the value is missing. -/
def membersOf : Option Json → Except Mismatch (List (String × Json))
  | some (.obj ms) => .ok ms
  | some j => .error (.noMembers j.kindWord)
  | none => .ok []

/-- All members of a value whose parts are counted first, none if the value is missing. -/
def countedMembersOf : Option Json → Except Mismatch (List (String × Json))
  | some (.bool _) => .error (.noSize "bool")
  | some (.int _) => .error (.noSize "int")
  | some (.real _) => .error (.noSize "float")
  | j => membersOf j

/-- A whole number; a fraction is cut off. -/
def toWhole : Json → Except Mismatch Int
  | .bool b => .ok (if b then 1 else 0)
  | .int n => .ok n
  | .real (.finite neg m e) =>
    let (num, den) := Binary64.ratio m e
    .ok (if neg then -((num / den : Nat) : Int) else ((num / den : Nat) : Int))
  | .real (.infinite _) => .error .wholeOfInfinity
  | .real .nan => .error .wholeOfNan
  | .str s => (Text.readInteger 10 s.toList).mapError .badWhole
  | j => .error (.noWhole j.kindWord)

/-- A number that may have a fraction. -/
def toReal : Json → Except Mismatch Binary64
  | .bool b => .ok (.ofInt (if b then 1 else 0))
  | .int n => match Binary64.ofInt n with
    | .infinite _ => .error .realTooLarge
    | x => .ok x
  | .real x => .ok x
  | .str s => match Text.readReal? s.toList with
    | some x => .ok x
    | none => .error (.badReal s)
  | j => .error (.noReal j.kindWord)

/-- A part as a whole number, zero if it is missing. -/
def wholeOf (key : String) (j : Option Json) : Except Mismatch Int := do
  match ← partOf key j with
  | some v => v.toWhole
  | none => .ok 0

/-- A part as a number, zero if it is missing. -/
def realOf (key : String) (j : Option Json) : Except Mismatch Binary64 := do
  match ← partOf key j with
  | some v => v.toReal
  | none => .ok (.ofInt 0)

/-- The items of a list or the characters of a text, none if the value is missing. -/
def itemsOf : Option Json → Except Mismatch (List Json)
  | none => .ok []
  | some (.arr xs) => .ok xs
  | some (.str s) => .ok (s.toList.map fun c => .str (String.singleton c))
  | some (.obj _) => .error .unorderedItems
  | some j => .error (.noItems j.kindWord)

end MsxWorkbench.Json
