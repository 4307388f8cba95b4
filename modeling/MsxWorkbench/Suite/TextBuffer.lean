import MsxWorkbench.Text.Integer
import MsxWorkbench.Text.Lines
/-
# A text held as lines

The text of the suite's editor windows: a list of lines, at first one empty line. A place in it is
written as the number of a line, a dot and a column; every other text names a place too, so that
nothing can fail.
-/
namespace MsxWorkbench.Suite

/-- A text as a list of lines (`_TextBuffer`). -/
structure TextBuffer where
  lines : List (List Char) := [[]]
deriving DecidableEq, Repr

/-- A place: its line, counted from zero, and its column. A negative column counts from the end of the
line. -/
structure Place where
  line : Nat
  column : Int
deriving DecidableEq, Repr

/-- How a place is written; lines are counted from one. -/
def Place.text (p : Place) : String := s!"{p.line + 1}.{p.column}"

/-- The number of characters of a line before a column. -/
def columnIn (line : List Char) (column : Int) : Nat :=
  if column < 0 then (line.length + column).toNat else min column.toNat line.length

namespace TextBuffer

/-- The whole text. -/
def text (b : TextBuffer) : List Char := Text.unrows b.lines

/-- The line with a number. -/
def lineAt (b : TextBuffer) (line : Nat) : List Char := b.lines.getD line []

/-- The place behind the last character. -/
def lastPlace (b : TextBuffer) : Place :=
  let line := b.lines.length - 1
  ⟨line, (b.lineAt line).length⟩

/-- The place that a text names: the last one if the text begins with the name of the end or of the
cursor, the first one if it has no dot. A line that is no number is the first, and one beyond the text
is the nearest; a column that is no number, or too great, is the end of the line. -/
def place (b : TextBuffer) (name : List Char) : Place :=
  if "end".toList.isPrefixOf name || "insert".toList.isPrefixOf name then b.lastPlace
  else match Text.splitAt '.' name with
    | number :: column :: _ =>
      let line := ((Text.readInteger 10 number).toOption.getD 1 - 1).toNat
      let line := min line (b.lines.length - 1)
      let length : Int := (b.lineAt line).length
      match Text.readInteger 10 column with
      | .ok n => ⟨line, min n length⟩
      | .error _ => ⟨line, length⟩
    | _ => ⟨0, 0⟩

/-- The part of a line before a place. -/
def front (b : TextBuffer) (p : Place) : List Char :=
  (b.lineAt p.line).take (columnIn (b.lineAt p.line) p.column)

/-- The part of a line from a place on. -/
def back (b : TextBuffer) (p : Place) : List Char :=
  (b.lineAt p.line).drop (columnIn (b.lineAt p.line) p.column)

/-- The text between two places. -/
def get (b : TextBuffer) (first last : Place) : List Char :=
  if first.line = last.line then (b.front last).drop (b.front first).length
  else
    let between := (b.lines.take last.line).drop (first.line + 1)
    Text.unrows (b.back first :: between ++ [b.front last])

/-- Puts lines in the place of those from one number up to another, which is left out; nothing is
removed if the second is not greater. -/
def replaceLines (b : TextBuffer) (first last : Nat) (new : List (List Char)) : TextBuffer :=
  ⟨b.lines.take first ++ new ++ b.lines.drop (max first last)⟩

/-- Removes the text between two places. -/
def delete (b : TextBuffer) (first last : Place) : TextBuffer :=
  b.replaceLines first.line (last.line + 1) [b.front first ++ b.back last]

/-- The lines that a text becomes between the two parts of a line. -/
def spliced (before after : List Char) : List (List Char) → List (List Char)
  | [] => [before ++ after]
  | [row] => [before ++ row ++ after]
  | row :: rest => (before ++ row) :: spliced [] after rest

/-- Inserts a text at a place. -/
def insert (b : TextBuffer) (p : Place) (text : List Char) : TextBuffer :=
  if text.isEmpty then b
  else b.replaceLines p.line (p.line + 1) (spliced (b.front p) (b.back p) (Text.rows text))

end TextBuffer

end MsxWorkbench.Suite
