import Mathlib.Algebra.Group.Nat.Defs
import MsxWorkbench.HexDump
import MsxWorkbench.Text.Case
import MsxWorkbench.Text.Quoted
/-
# Hexadecimal numerals

Hexadecimal digits in capital and small letters have a value (`hexValue`). A number is written with a fixed number of
upper-case digits (`IsHex`): offsets and bytes of a dump are such numerals (`isHex_hexNumber`, `isHex_hexByte`), and so are
lower-case digits in capitals (`isHex_upper_hexDigits`).
-/
namespace MsxWorkbench.Text

/-- The hexadecimal digits. -/
def hexDigitChars : List Char :=
  ['0', '1', '2', '3', '4', '5', '6', '7', '8', '9', 'a', 'b', 'c', 'd', 'e', 'f', 'A', 'B', 'C', 'D', 'E', 'F']

/-- The value of a hexadecimal digit. -/
def hexDigitValue (c : Char) : Nat :=
  if c.isDigit then c.toNat - 48 else if c.isLower then c.toNat - 97 + 10 else c.toNat - 65 + 10

/-- The value of hexadecimal digits, the highest one first. -/
def hexValue (digits : List Char) : Nat := digits.foldl (fun n d => 16 * n + hexDigitValue d) 0

/-- A hexadecimal digit that is not a small letter. -/
def isUpperHexDigit (c : Char) : Bool := hexDigitChars.contains c && !c.isLower

/-- The value of upper-case hexadecimal digits. -/
def readHex? (s : List Char) : Option Nat := if s.all isUpperHexDigit then some (hexValue s) else none

/-- The text is the numeral of a number, with exactly `width` upper-case hexadecimal digits. -/
structure IsHex (width n : Nat) (s : List Char) : Prop where
  length : s.length = width
  value : readHex? s = some n

theorem readHex?_eq_some_iff {s : List Char} {n : Nat} :
    readHex? s = some n ↔ s.all isUpperHexDigit = true ∧ hexValue s = n := by
  rw [readHex?, Option.ite_none_right_eq_some, Option.some.injEq]

/-- One more digit makes the number sixteen times as large. -/
theorem IsHex.concat {width n : Nat} {s : List Char} {c : Char} (hs : IsHex width n s) (hc : isUpperHexDigit c = true) :
    IsHex (width + 1) (16 * n + hexDigitValue c) (s ++ [c]) where
  length := by rw [List.length_append, hs.length, List.length_singleton]
  value := by
    obtain ⟨hdigits, rfl⟩ := readHex?_eq_some_iff.1 hs.value
    refine readHex?_eq_some_iff.2 ⟨?_, ?_⟩
    · rw [List.all_append, hdigits, List.all_cons, hc]
      rfl
    · rw [hexValue, List.foldl_append]
      rfl

theorem isHex_nil : IsHex 0 0 [] := ⟨rfl, rfl⟩

/-! ## Digits of a dump -/

/-- The digits are in order, and the capital of a lower-case digit is the digit of a dump. -/
theorem hexDigit_spec (n : Nat) : isUpperHexDigit (HexDump.hexDigit n) = true ∧
    hexDigitValue (HexDump.hexDigit n) = n % 16 ∧ upperChar (Nat.digitChar (n % 16)) = [HexDump.hexDigit n] := by
  have hall : ∀ d < 16, isUpperHexDigit (Nat.digitChar d).toUpper = true ∧ hexDigitValue (Nat.digitChar d).toUpper = d ∧
    upperChar (Nat.digitChar d) = [(Nat.digitChar d).toUpper] := by decide
  exact hall _ (Nat.mod_lt n (by decide))

theorem isHex_hexNumber (width n : Nat) (h : n < 16 ^ width) : IsHex width n (HexDump.hexNumber width n) := by
  induction width generalizing n with
  | zero =>
    obtain rfl : n = 0 := by simpa using h
    exact isHex_nil
  | succ width ih =>
    have hhigh : n / 16 < 16 ^ width := Nat.div_lt_of_lt_mul (by rwa [Nat.pow_succ'] at h)
    have hnumber := (ih _ hhigh).concat (hexDigit_spec n).1
    rwa [(hexDigit_spec n).2.1, Nat.div_add_mod] at hnumber

theorem isHex_hexByte (b : UInt8) : IsHex 2 b.toNat (HexDump.hexByte b) :=
  isHex_hexNumber 2 b.toNat b.toNat_lt

theorem upper_hexDigits (width n : Nat) : upper (hexDigits width n) = HexDump.hexNumber width n := by
  induction width generalizing n with
  | zero => rfl
  | succ width ih =>
    have ih := ih (n / 16)
    rw [upper] at ih
    rw [hexDigits, upper, List.flatMap_append, ih, List.flatMap_singleton, (hexDigit_spec n).2.2]
    rfl

theorem isHex_upper_hexDigits (width n : Nat) (h : n < 16 ^ width) : IsHex width n (upper (hexDigits width n)) := by
  rw [upper_hexDigits]
  exact isHex_hexNumber width n h

end MsxWorkbench.Text
