import MsxWorkbench.Text.Visible
/-
# Quoted texts in messages

A message quotes a text between apostrophes, or between double quotes when it holds an apostrophe and
no double quote. Backslashes are doubled and characters without a visible form are escaped.
-/
namespace MsxWorkbench.Text

/-- The apostrophe. -/
def apostrophe : Char := Char.ofNat 39

/-- A number as exactly `width` lower-case hexadecimal digits. -/
def hexDigits : Nat → Nat → List Char
  | 0, _ => []
  | width + 1, n => hexDigits width (n / 16) ++ [Nat.digitChar (n % 16)]

/-- One character inside a quoted text. -/
def quoteChar (mark c : Char) : List Char :=
  if c == mark || c == '\\' then ['\\', c]
  else if c == '\t' then ['\\', 't']
  else if c == '\n' then ['\\', 'n']
  else if c == '\r' then ['\\', 'r']
  else if isVisible c then [c]
  else if c.toNat < 0x100 then '\\' :: 'x' :: hexDigits 2 c.toNat
  else if c.toNat < 0x10000 then '\\' :: 'u' :: hexDigits 4 c.toNat
  else '\\' :: 'U' :: hexDigits 8 c.toNat

/-- The text as a message quotes it. -/
def quoted (s : List Char) : List Char :=
  let mark := if s.contains apostrophe && !s.contains '"' then '"' else apostrophe
  mark :: s.flatMap (quoteChar mark) ++ [mark]

end MsxWorkbench.Text
