import MsxWorkbench.Picture.Palette
/-
# Shape files

A shape file is a sequence of shapes up to a byte 0xFF. A shape has a number, a type, a width in
pixels, a height in tiles, and planes of one byte for each row of a tile: patterns, and depending on
the type colours and a mask.
-/
namespace MsxWorkbench.Picture

/-- How many planes a shape of a type has. -/
def planeCount (type : UInt8) : Nat :=
  if type = 1 then 1 else if type = 2 ∨ type = 3 then 2 else if type = 4 then 3 else 0

/-- The offsets of the shapes of a file from an offset on. -/
def shapeOffsetsFrom (file : Array UInt8) (offset : Nat) : List Nat :=
  if h : offset + 3 < file.size then
    if file[offset] = 0xFF then []
    else
      let planes := file[offset + 2].toNat * file[offset + 3].toNat
      offset :: shapeOffsetsFrom file (offset + 4 + planes * planeCount file[offset + 1])
  else []
termination_by file.size - offset

/-- The offsets of the shapes of a file (`_scan_file_offsets`). -/
def shapeOffsets (file : Array UInt8) : List Nat := shapeOffsetsFrom file 0

/-- A shape ready to be drawn: its size in tiles and its planes. -/
structure Shape where
  columns : Nat
  rows : Nat
  patterns : Array UInt8
  colors : Array UInt8

/-- Why a shape could not be shown. -/
inductive ShapeError where
  | emptyImage
  | shortColors
deriving DecidableEq, Repr

/-- The message for a shape that could not be shown. -/
def ShapeError.message : ShapeError → String
  | .emptyImage => "height and width must be > 0"
  | .shortColors => "index out of range"

/-- The colour byte of shapes without colours: white on transparent. -/
def plainColor : UInt8 := 0xF0

/-- The shape at an offset of a file (`_load_shape_at_index`). Planes are cut where the file ends,
and an unknown type has empty ones. -/
def shapeAt? (file : Array UInt8) (offset : Nat) : Option Shape := do
  let type ← file[offset + 1]?
  let width ← file[offset + 2]?
  let height ← file[offset + 3]?
  let size := width.toNat * height.toNat
  let plane (k : Nat) := file.extract (offset + 4 + k * size) (offset + 4 + (k + 1) * size)
  let (patterns, colors) :=
    if type = 1 then (plane 0, Array.replicate size plainColor)
    else if type = 2 then (plane 0, plane 1)
    else if type = 3 then (plane 1, Array.replicate size plainColor)
    else if type = 4 then (plane 1, plane 2)
    else (Array.replicate size 0, Array.replicate size 0)
  some ⟨width.toNat / 8, height.toNat, patterns, colors⟩

namespace Shape

/-- Where the bytes for a line of a tile lie in the planes: the tiles of a row lie one after the other,
and the rows do. -/
def position (s : Shape) (tx ty line : Nat) : Nat := (tx + ty * s.columns) * 8 + line

/-- The strokes for a line of a tile: each of its eight pixels has one of the line's two colours. -/
def lineStrokes (pattern color : UInt8) (tx ty line : Nat) : List Stroke :=
  (List.range 8).map fun bit =>
    ⟨tx * 8 + bit, ty * 8 + line,
      if isLit pattern bit then foreground shapePalette color else background shapePalette color⟩

/-- The strokes for some lines of a tile. The tile is left where the patterns have ended, and a pattern
without a colour is a fault. -/
def tileStrokes (s : Shape) (tx ty : Nat) : List Nat → Except ShapeError (List Stroke)
  | [] => .ok []
  | line :: lines =>
    match s.patterns[s.position tx ty line]?, s.colors[s.position tx ty line]? with
    | none, _ => .ok []
    | some _, none => .error .shortColors
    | some pattern, some color => do
      let later ← s.tileStrokes tx ty lines
      return lineStrokes pattern color tx ty line ++ later

/-- The strokes for a row of tiles, from the left. -/
def rowStrokes (s : Shape) (ty : Nat) : Except ShapeError (List Stroke) := do
  let tiles ← (List.range s.columns).mapM fun tx => s.tileStrokes tx ty (List.range 8)
  return tiles.flatten

/-- The picture of the shape, its rows of tiles drawn from the top (`_draw_shape`). -/
def image (s : Shape) : Except ShapeError Image := do
  let rows ← (List.range s.rows).mapM s.rowStrokes
  return drawn (s.columns * 8) (s.rows * 8) rows.flatten

end Shape

end MsxWorkbench.Picture
