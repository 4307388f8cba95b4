/-
# Hex dumps

How the viewer shows a binary file: rows of sixteen bytes with their offset, the bytes in
hexadecimal and as characters. Only the start of a long file is shown.
-/
namespace MsxWorkbench.HexDump

/-- How many bytes are shown. -/
def previewBytes : Nat := 4096

/-- Bytes of a row. -/
def rowBytes : Nat := 16

/-- An upper-case hexadecimal digit. -/
def hexDigit (n : Nat) : Char := (Nat.digitChar (n % 16)).toUpper

/-- A number as exactly `width` upper-case hexadecimal digits. -/
def hexNumber : Nat → Nat → List Char
  | 0, _ => []
  | width + 1, n => hexNumber width (n / 16) ++ [hexDigit n]

/-- The two digits of a byte. -/
def hexByte (b : UInt8) : List Char := [hexDigit (b.toNat / 16), hexDigit b.toNat]

/-- The character of a byte in the right column; a point for one that cannot be shown. -/
def shown (b : UInt8) : Char := if 32 ≤ b ∧ b ≤ 126 then Char.ofNat b.toNat else '.'

/-- A text with blanks after it up to a width. -/
def padRight (width : Nat) (s : List Char) : List Char := s ++ List.replicate (width - s.length) ' '

/-- One row: offset, bytes in hexadecimal and characters. -/
def row (offset : Nat) (bs : List UInt8) : List Char :=
  hexNumber 8 offset ++ [' ', ' '] ++ padRight 47 ([' '].intercalate (bs.map hexByte)) ++
    [' ', ' '] ++ bs.map shown

/-- The rows of bytes that start at an offset. -/
def rows (offset : Nat) (bs : List UInt8) : List (List Char) :=
  match bs with
  | [] => []
  | b :: rest =>
    row offset ((b :: rest).take rowBytes) :: rows (offset + rowBytes) ((b :: rest).drop rowBytes)
termination_by bs.length
decreasing_by
  simp only [List.length_drop, List.length_cons, rowBytes]
  omega

/-- The notice about bytes that are not shown. -/
def notice (hidden : Nat) : List Char := s!"... {hidden} bytes nao exibidos".toList

/-- The dump of a file (`_hex_dump`). -/
def render (bs : List UInt8) : List Char :=
  let shownRows := rows 0 (bs.take previewBytes)
  let more := if bs.length > previewBytes then [[], notice (bs.length - previewBytes)] else []
  ['\n'].intercalate (shownRows ++ more)

end MsxWorkbench.HexDump
