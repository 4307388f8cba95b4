import MsxWorkbench.Editor.Buffer
import MsxWorkbench.Json.Value
/-
# The margins of the text

Beside the text stands a column of line numbers and above it a ruler of columns. Thirty lines of
twenty pixels are visible, characters are eight pixels wide, and the text starts two pixels in.
-/
namespace MsxWorkbench.Editor

/-- What is visible of the text: the first line, how far it is scrolled to the right as a part of its
width, and whether it is shown at all. -/
structure View where
  top : Int := 1
  scrolled : Binary64 := .ofInt 0
  hidden : Bool := false
deriving DecidableEq, Repr

/-- The height of a visible line from the top of the window. -/
def View.height? (v : View) (lineCount line : Nat) : Option Int :=
  if v.hidden || line < 1 || lineCount < line || (line : Int) < v.top || v.top + 30 ≤ line then none
  else some ((line - v.top) * 20)

/-- What is drawn in a margin. Colours are settings, which may hold any value. -/
inductive MarginItem where
  | label (x : Binary64) (y : Int) (text : String) (color : Json) (anchor : String)
  | tick (x : Binary64) (top bottom : Int) (color : Json) (width : Option Nat)

/-- A margin: its background and what is drawn on it. -/
structure Margin where
  background : Json
  items : List MarginItem := []

/-- A line number beside its line. -/
def lineLabel (y : Int) (line : Nat) (color : Json) : MarginItem :=
  .label (.ofInt 45) y (toString line) color "ne"

/-! ## The ruler -/

/-- The columns that the ruler stresses. -/
def stressedColumns : List Nat := [0, 32, 40, 80]

/-- Can the start of a line be seen? -/
def View.showsStart (v : View) (lineCount line : Nat) : Bool :=
  (v.height? lineCount line).isSome && !Binary64.lt (.ofInt 0) v.scrolled

/-- Where column 0 is on the ruler: two pixels in, less what is scrolled away of 800 pixels unless the
start of a line can be seen. -/
def rulerStart (v : View) (seen : Bool) : Binary64 :=
  if seen then .ofInt 2
  else Binary64.sub (.ofInt 2) (Binary64.mul v.scrolled (.ofInt 800))

/-- The colours of the ruler. -/
structure RulerColors where
  stressed : Json
  cursor : Json

/-- The marks of one column: long and labelled for stressed ones, shorter for tens and shortest for
fives. -/
def columnMarks (colors : RulerColors) (x : Binary64) (column : Nat) : List MarginItem :=
  if stressedColumns.contains column then
    [.tick x 15 25 colors.stressed (some 2), .label x 5 (toString column) colors.stressed "n"]
  else if column % 10 == 0 then
    [.tick x 20 25 (.str "#555555") none, .label x 8 (toString column) (.str "#858585") "n"]
  else if column % 5 == 0 then [.tick x 22 25 (.str "#555555") none]
  else []

/-- The ruler of 120 columns with a mark at the cursor's column. -/
def rulerItems (colors : RulerColors) (start : Binary64) (cursorColumn : Nat) : List MarginItem :=
  (List.range 120).flatMap fun column =>
    let x := Binary64.add start (.ofInt (column * 8 : Nat))
    columnMarks colors x column ++
      (if column == cursorColumn then [.tick x 0 25 colors.cursor (some 1)] else [])

end MsxWorkbench.Editor
