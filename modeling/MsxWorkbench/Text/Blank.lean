/-
# Blank characters

Which characters count as white space, and the ways a text is trimmed. The class is Unicode's
white space together with the four separator controls U+001C to U+001F.
-/
namespace MsxWorkbench.Text

/-- White space: the ASCII blanks and separators, and Unicode's space characters. -/
def isBlank (c : Char) : Bool :=
  let n := c.toNat
  (9 ≤ n && n ≤ 13) || (0x1C ≤ n && n ≤ 0x20) || n == 0x85 || n == 0xA0 || n == 0x1680 ||
    (0x2000 ≤ n && n ≤ 0x200A) || n == 0x2028 || n == 0x2029 || n == 0x202F || n == 0x205F ||
    n == 0x3000

/-- Drops the longest run at the end whose elements all satisfy `p`. -/
def dropRightWhile {α : Type} (p : α → Bool) (s : List α) : List α :=
  (s.reverse.dropWhile p).reverse

/-- Without blanks at the start. -/
def trimLeft (s : List Char) : List Char := s.dropWhile isBlank

/-- Without blanks at the end. -/
def trimRight (s : List Char) : List Char := dropRightWhile isBlank s

/-- Without blanks at either end. -/
def trim (s : List Char) : List Char := trimRight (trimLeft s)

/-- Holds of a text with no visible character. -/
def allBlank (s : List Char) : Bool := s.all isBlank

end MsxWorkbench.Text
