/-
# Indices into lists

An index may be negative: it then counts from the end. One that does not fit a signed word of 64 bits is
a fault of its own.
-/
namespace MsxWorkbench

/-- Why a list has no item at an index. -/
inductive PositionError where
  | outside
  | beyondWord
deriving DecidableEq, Repr

/-- The message for an index without item. -/
def PositionError.message : PositionError → String
  | .outside => "list index out of range"
  | .beyondWord => "cannot fit 'int' into an index-sized integer"

/-- The position that an index means in a list of `size` items. -/
def positionIn (size : Nat) (index : Int) : Except PositionError Nat :=
  let i := if index < 0 then index + size else index
  if index < -0x8000000000000000 ∨ 0x8000000000000000 ≤ index then .error .beyondWord
  else if 0 ≤ i ∧ i < size then .ok i.toNat
  else .error .outside

/-- The item at an index. -/
def itemAt {α : Type} (xs : List α) (index : Int) : Except PositionError α := do
  match xs[← positionIn xs.length index]? with
  | some x => return x
  | none => throw .outside

end MsxWorkbench
