import MsxWorkbench.Json.Writer
/-
# Sample character sources

Source files from which character tables are made: arrays of consecutive characters and assignments to
single places.
-/
namespace MsxWorkbench.Suite

/-- Hexadecimal digits in capitals, at least as many as `width`. -/
def hexCapitals (width n : Nat) : String :=
  let digits := (Nat.toDigits 16 n).map Char.toUpper
  String.ofList (List.replicate (width - digits.length) '0' ++ digits)

/-- A character by its number, as a source writes it. -/
def escapedItem (n : Nat) : String := "'\\u" ++ hexCapitals 4 n ++ "'"

/-- The declaration of an array of items. -/
def arraySource (name : String) (items : List String) : String :=
  "export const " ++ name ++ ": string[] = [" ++ ", ".intercalate items ++ "];\n"

/-- The declaration of an array of consecutive characters. -/
def rangeSource (name : String) (first count : Nat) : String :=
  arraySource name ((List.range count).map fun i => escapedItem (first + i))

/-- The assignment of an item to a place of the upper half. -/
def assignmentSource (place : Nat) (item : String) : String :=
  "chars[0x" ++ hexCapitals 2 (0x80 + place) ++ " - 0x80] = " ++ item ++ ";"

/-- The sample files. -/
def characterFiles : List (String × String) := [
  ("common.ts", String.join [
    rangeSource "GRAPHIC_CHARS_INTL" 0x2500 32,
    rangeSource "GRAPHIC_CHARS_JP" 0x3040 32,
    rangeSource "GRAPHIC_CHARS_AE" 0x0600 32,
    rangeSource "GRAPHIC_CHARS_AR" 0x0620 32,
    rangeSource "HIGH_CHARS_INTERNATIONAL" 0x00C0 128,
    rangeSource "BLOCK_ELEMENTS_MSX" 0x2580 24,
    rangeSource "MATH_GREEK_CHARS" 0x0390 31]),
  ("japanese.ts", rangeSource "HIGH_CHARS_JAPANESE" 0x30A0 128),
  ("arabic-ar.ts", rangeSource "HIGH_CHARS_ARABIC" 0x0620 128),
  ("brazilian-br.ts",
    "\n".intercalate ((List.range 32).map fun i => assignmentSource i (escapedItem (0xC0 + i)))),
  ("russian.ts", "// placeholder\n")]

/-- Items in the four ways a source writes them, again and again. -/
def mixedItem (position : Nat) : String :=
  match position % 4 with
  | 0 => "'\\u01E3'"
  | 1 => "'='"
  | 2 => "'\\u\x7b3F5\x7d'"
  | _ => "'\\0'"

/-- A letter for each place: small ones at even places and capitals at odd ones. -/
def placeLetter (place : Nat) : Char := Char.ofNat ((if place % 2 = 0 then 97 else 65) + place % 26)

end MsxWorkbench.Suite
