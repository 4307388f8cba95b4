import MsxWorkbench.Text.Blank
/-
# Floating-point constants

A single-precision constant is four bytes: a sign bit with an exponent, and six decimal digits packed
two to a byte. This module writes such a constant the way a listing shows it.
-/
namespace MsxWorkbench.Program

/-- The place in a text of `size` characters that a position names; negative ones count from the end,
and all are kept inside the text. -/
def placeOf (size : Nat) (position : Int) : Nat :=
  if position < 0 then (size + position).toNat else min position.toNat size

/-- The text with a decimal point at a position (`insert_decimal_point`). -/
def insertPoint (mantissa : List Char) (position : Int) : List Char :=
  let k := placeOf mantissa.length position
  mantissa.take k ++ '.' :: mantissa.drop k

/-- The text with its point moved to the right by `shift` places, filled with zeros and marked as a
whole number when the point leaves it (`shift_point_right`). -/
def shiftPointRight (mantissa : List Char) (shift : Int) : List Char :=
  if (mantissa.length : Int) ≤ shift then
    mantissa ++ List.replicate (shift - mantissa.length).toNat '0' ++ ['!']
  else insertPoint mantissa shift

/-- Why a text could not be filled up with zeros. -/
inductive FillError where
  | beyondWord
  | noMemory
deriving DecidableEq, Repr

/-- The message for a text that could not be filled up; there is none when memory is short. -/
def FillError.message : FillError → String
  | .beyondWord => "cannot fit 'int' into an index-sized integer"
  | .noMemory => ""

/-- `shiftPointRight` for any shift: the zeros have to be counted in a word and kept in memory. -/
def tryShiftPointRight (mantissa : List Char) (shift : Int) : Except FillError (List Char) :=
  let zeros := shift - mantissa.length
  if 0x8000000000000000 ≤ zeros then .error .beyondWord
  else if 0x100000000 ≤ zeros then .error .noMemory
  else .ok (shiftPointRight mantissa shift)

/-- Without zeros at the end, and then without points at the end (`remove_trailing_zeros`). -/
def trimZeros (numeral : List Char) : List Char :=
  Text.dropRightWhile (· == '.') (Text.dropRightWhile (· == '0') numeral)

/-- A number in the given base with upper-case digits. -/
def upperDigits (base n : Nat) : List Char := (Nat.toDigits base n).map Char.toUpper

/-- The two hexadecimal digits of a byte. -/
def hexByte (b : UInt8) : List Char :=
  upperDigits 16 (b.toNat / 16) ++ upperDigits 16 (b.toNat % 16)

/-- A natural number with at least two digits. -/
def twoDigits (n : Nat) : List Char :=
  if n < 10 then '0' :: Nat.toDigits 10 n else Nat.toDigits 10 n

/-- A single-precision constant: sign, exponent and the packed digits. -/
structure Constant where
  head : UInt8
  high : UInt8
  mid : UInt8
  low : UInt8
deriving DecidableEq, Repr

namespace Constant

/-- Whether the constant is below zero. -/
def negative (k : Constant) : Bool := k.head &&& 0x80 != 0

/-- The power of ten of the constant, whose digits follow the point. -/
def exponent (k : Constant) : Int := ((k.head &&& 0x7F).toNat : Int) - 64

/-- The six digits. -/
def digits (k : Constant) : List Char := hexByte k.high ++ hexByte k.mid ++ hexByte k.low

/-- The digits with the point after the first one. -/
def scientific (k : Constant) : List Char := trimZeros (insertPoint k.digits 1)

/-- The text of the constant in a listing. -/
def render (k : Constant) : List Char :=
  let sign := if k.negative then ['-'] else []
  let e := k.exponent
  if e = -64 then ['0', '!']
  else if e < -1 then sign ++ k.scientific ++ ['E', '-'] ++ twoDigits (e - 1).natAbs
  else if e = -1 then sign ++ trimZeros ('.' :: '0' :: k.digits)
  else if e < 15 then sign ++ trimZeros (shiftPointRight k.digits e)
  else sign ++ k.scientific ++ ['E', '+'] ++ twoDigits (e - 1).natAbs

end Constant

/-- The text of a constant given by its bytes (`custom_bcd_to_string`); nothing unless there are
four. -/
def renderConstant : List UInt8 → List Char
  | [head, high, mid, low] => (Constant.mk head high mid low).render
  | _ => []

end MsxWorkbench.Program
