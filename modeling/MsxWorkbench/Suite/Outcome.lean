import MsxWorkbench.Json.Build
/-
# Outcomes of measured runs

A measured run reports what it computed, as a check that it did the work, or fails because it was given
nothing to work on.
-/
namespace MsxWorkbench.Suite

/-- Why a run failed. -/
inductive SuiteError where
  /-- The first item of an empty list was wanted. -/
  | noItem
  /-- A pixel of a picture that was never drawn was wanted. -/
  | noPixel
  /-- The size of a picture that was never drawn was wanted. -/
  | noSize
  /-- No picture was ever loaded. -/
  | noPicture
  /-- The store has no table of line numbers. -/
  | noTable
deriving DecidableEq, Repr

/-- The message of a failed run. -/
def SuiteError.message : SuiteError → String
  | .noItem => "list index out of range"
  | .noPixel => "'NoneType' object has no attribute 'getpixel'"
  | .noSize => "'NoneType' object has no attribute 'size'"
  | .noPicture => "cannot access local variable 'img' where it is not associated with a value"
  | .noTable => "no such table: renum_map"

/-- What a run reports. -/
abbrev Outcome := Except SuiteError Json

/-- A pair of numbers. -/
def pairReport (a b : Nat) : Json := .arr [.ofNat a, .ofNat b]

end MsxWorkbench.Suite
