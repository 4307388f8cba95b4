/-
# Lines and columns

Two ways to cut a text into lines: at line feeds only, and at every character that breaks a line. The
texts of a table are filled up with blanks to the width of their column; a text that is too long stays
as it is.
-/
namespace MsxWorkbench.Text

/-- Characters that break a line. -/
def isLineBreak (c : Char) : Bool :=
  let n := c.toNat
  (10 ≤ n && n ≤ 13) || (0x1C ≤ n && n ≤ 0x1E) || n == 0x85 || n == 0x2028 || n == 0x2029

/-- The lines of a text without their breaks, `line` being the start of the current one, last
character first. A carriage return and a line feed together break once; a break at the very end
starts no further line. -/
def breakLines : List Char → List Char → List (List Char)
  | [], [] => []
  | line, [] => [line.reverse]
  | line, '\r' :: '\n' :: rest => line.reverse :: breakLines [] rest
  | line, c :: rest =>
    if isLineBreak c then line.reverse :: breakLines [] rest else breakLines (c :: line) rest

/-- The lines of a text, cut at every kind of line break. -/
def lines (s : List Char) : List (List Char) := breakLines [] s

/-- The parts of a text between separators; one more than there are separators. -/
def splitAt (separator : Char) : List Char → List (List Char)
  | [] => [[]]
  | c :: rest =>
    match splitAt separator rest with
    | [] => [[c]]
    | part :: parts => if c = separator then [] :: part :: parts else (c :: part) :: parts

/-- The lines of a text, cut at line feeds only. -/
def rows (s : List Char) : List (List Char) := splitAt '\n' s

/-- Lines put together with line feeds between them. -/
def unrows (ls : List (List Char)) : List Char := ['\n'].intercalate ls

/-- A text with blanks behind it up to a width. -/
def leftAligned (width : Nat) (s : String) : String :=
  s ++ String.ofList (List.replicate (width - s.length) ' ')

/-- A text with blanks before it up to a width. -/
def rightAligned (width : Nat) (s : String) : String :=
  String.ofList (List.replicate (width - s.length) ' ') ++ s

/-- A line of dashes. -/
def rule (width : Nat) : String := String.ofList (List.replicate width '-')


end MsxWorkbench.Text
