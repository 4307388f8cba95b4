/-
# The extent of an enlarged picture

The sides of an enlarged picture have to fit a signed word of 32 bits, have to be positive, and a row
has to fit into memory. The faults are found in that order, and the width is looked at before the
height.
-/
namespace MsxWorkbench.Picture

/-- Why a picture cannot have an extent. -/
inductive ExtentError where
  /-- A side does not even fit 64 bits. -/
  | beyondWord
  | tooLarge
  | tooSmall
  | empty
  | noMemory
deriving DecidableEq, Repr

namespace ExtentError

/-- The message for an extent that is not possible; there is none when memory is short. -/
def message : ExtentError → String
  | .beyondWord => "Python int too large to convert to C long"
  | .tooLarge => "signed integer is greater than maximum"
  | .tooSmall => "signed integer is less than minimum"
  | .empty => "height and width must be > 0"
  | .noMemory => ""

end ExtentError

/-- What is wrong with the length of a side. -/
def sideError? (n : Int) : Option ExtentError :=
  if n < -0x8000000000000000 ∨ 0x8000000000000000 ≤ n then some .beyondWord
  else if 0x80000000 ≤ n then some .tooLarge
  else if n < -0x80000000 then some .tooSmall
  else none

/-- The widest row, in pixels. -/
def widestRow : Nat := 0x20000000 - 2

/-- What is wrong with an extent. -/
def extentError? (width height : Int) : Option ExtentError :=
  ((sideError? width).or (sideError? height)).or <|
    if width < 1 ∨ height < 1 then some .empty
    else if (widestRow : Int) < width then some .noMemory
    else none

end MsxWorkbench.Picture
