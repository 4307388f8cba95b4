import MsxWorkbench.Text.Lines
import MsxWorkbench.Text.Search
import MsxWorkbench.Text.Word
/-
# The text being edited

A text with a cursor and perhaps a selection. A position is the number of characters before it, from
0 to one past the end: behind the text there is always one more line break, which can be read and
never removed, and the position after it is the end. For the reader a position is a line, counted from
1, and a column, counted from 0.
-/
namespace MsxWorkbench.Editor

/-- A line and a column. -/
structure Spot where
  line : Nat
  column : Nat
deriving DecidableEq, Repr

/-- How a spot is written. -/
def Spot.text (s : Spot) : String := s!"{s.line}.{s.column}"

/-- A text being edited. -/
structure Buffer where
  text : List Char := []
  cursor : Nat := 0
  selection : Option (Nat × Nat) := none
  modified : Bool := false
deriving DecidableEq, Repr

namespace Buffer

/-! ## Positions -/

/-- The text with the line break behind it. -/
def full (b : Buffer) : List Char := b.text ++ ['\n']

/-- The position after everything. -/
def endPosition (b : Buffer) : Nat := b.text.length + 1

/-- The lines of the text. -/
def lines (b : Buffer) : List (List Char) := Text.rows b.text

/-- The line and column of a position; the end is on a line of its own. -/
def spot (b : Buffer) (position : Nat) : Spot :=
  if b.text.length < position then ⟨b.lines.length + 1, 0⟩
  else
    let before := b.text.take position
    ⟨before.count '\n' + 1, (before.reverse.takeWhile (· != '\n')).length⟩

/-- The number of characters in lines and their line breaks. -/
def sizeOfLines (ls : List (List Char)) : Nat := ls.foldl (fun n l => n + l.length + 1) 0

/-- The position of a line and column. Above the first line is the start, below the last the end, and
a column outside the line is the nearest one inside it. -/
def position (b : Buffer) (line column : Int) : Nat :=
  if line < 1 then 0
  else
    let n := (line - 1).toNat
    match b.lines[n]? with
    | none => b.endPosition
    | some l => sizeOfLines (b.lines.take n) + min column.toNat l.length

/-- The position at the end of the line with a number. -/
def lineEnd (b : Buffer) (line : Int) : Nat :=
  if line < 1 then b.position 1 ((b.lines.head?.getD []).length)
  else b.position line ((b.lines[(line - 1).toNat]?.getD []).length)

/-- The position some characters further, or back, within the text. -/
def move (b : Buffer) (position : Nat) (step : Int) : Nat :=
  min (position + step).toNat b.endPosition

/-- The position some lines further down, or up, in the same column. -/
def moveLines (b : Buffer) (position : Nat) (step : Int) : Nat :=
  let s := b.spot position
  b.position (s.line + step) s.column

/-- The start of the word at a position; a position outside words is its own. -/
def wordStart (b : Buffer) (position : Nat) : Nat :=
  match b.full[position]? with
  | some c =>
    if Text.isWord c then
      position - ((b.full.take position).reverse.takeWhile Text.isWord).length
    else position
  | none => position

/-- The end of the word at a position; outside words, the next position. -/
def wordEnd (b : Buffer) (position : Nat) : Nat :=
  match b.full[position]? with
  | some c =>
    if Text.isWord c then position + ((b.full.drop position).takeWhile Text.isWord).length
    else b.move position 1
  | none => b.move position 1

/-- The characters between two positions. -/
def slice (b : Buffer) (first last : Nat) : List Char := (b.full.take last).drop first

/-- The characters of the line with a number. -/
def lineText (b : Buffer) (line : Int) : List Char :=
  b.slice (b.position line 0) (b.lineEnd line)

/-- Everything, with the line break behind the text. -/
def content (b : Buffer) : List Char := b.full

/-! ## Editing -/

/-- Where a position goes when `size` characters are inserted at `place`: one at or after the place
moves on. -/
def afterInsert (place size position : Nat) : Nat :=
  if place ≤ position then position + size else position

/-- Where a position goes when the characters from `first` to `last` are deleted. -/
def afterDelete (first last position : Nat) : Nat :=
  if last ≤ position then position - (last - first) else min position first

/-- The selection after its ends have moved; an empty one is none. -/
def moveSelection (move : Nat → Nat) : Option (Nat × Nat) → Option (Nat × Nat)
  | some (a, z) => if move a < move z then some (move a, move z) else none
  | none => none

/-- Inserts a text; past the end it goes at the end. -/
def insert (b : Buffer) (position : Nat) (new : List Char) : Buffer :=
  if new.isEmpty then b
  else
    let place := min position b.text.length
    { text := b.text.take place ++ new ++ b.text.drop place
      cursor := afterInsert place new.length b.cursor
      selection := moveSelection (afterInsert place new.length) b.selection
      modified := true }

/-- Deletes the characters between two positions. -/
def delete (b : Buffer) (first last : Nat) : Buffer :=
  let last := min last b.text.length
  if last ≤ first then b
  else
    { text := b.text.take first ++ b.text.drop last
      cursor := afterDelete first last b.cursor
      selection := moveSelection (afterDelete first last) b.selection
      modified := true }

/-- Deletes everything. -/
def clear (b : Buffer) : Buffer := b.delete 0 b.endPosition

/-- Puts another text in the place of everything. -/
def replace (b : Buffer) (new : List Char) : Buffer := b.clear.insert 0 new

/-- Puts the cursor at a position; the end is the end of the text. -/
def setCursor (b : Buffer) (position : Nat) : Buffer :=
  { b with cursor := min position b.text.length }

/-- Selects the characters between two positions. -/
def select (b : Buffer) (first last : Nat) : Buffer :=
  { b with selection := if first < last then some (first, last) else none }

/-- Puts another text in the place of the line with a number. -/
def replaceLine (b : Buffer) (line : Int) (new : List Char) : Buffer :=
  let b := b.delete (b.position line 0) (b.lineEnd line)
  b.insert (b.position line 0) new

/-! ## Searching -/

/-- The positions at which `needle` stands in `haystack`, a form of the text, from a position on; the
search goes on `size` characters behind each of them. At most `count` are given. -/
def occurrences (b : Buffer) (haystack needle : List Char) (size : Nat) : Nat → Nat → List Nat
  | 0, _ => []
  | count + 1, start =>
    match Text.indexOf? needle (haystack.drop start) with
    | some n => (start + n) :: occurrences b haystack needle size count (b.move (start + n) size)
    | none => []

end Buffer

end MsxWorkbench.Editor
