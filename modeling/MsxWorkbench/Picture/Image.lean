/-
# Images

An image is a width, a height and a colour for every pixel. Its raster is the colours row by row. Images
are drawn pixel by pixel on a black sheet.
-/
namespace MsxWorkbench.Picture

/-- A colour by its red, green and blue parts. -/
structure Color where
  red : UInt8
  green : UInt8
  blue : UInt8
deriving DecidableEq, Repr

/-- Black. -/
def Color.black : Color := ⟨0, 0, 0⟩

/-- White. -/
def Color.white : Color := ⟨255, 255, 255⟩

/-- An image; the colour of a pixel is given by its column and row. -/
structure Image where
  width : Nat
  height : Nat
  pixel : Nat → Nat → Color

namespace Image

/-- The colours row by row. -/
def raster (i : Image) : List Color :=
  (List.range i.height).flatMap fun y => (List.range i.width).map fun x => i.pixel x y

/-- The red, green and blue bytes of the raster. -/
def bytes (i : Image) : List UInt8 := i.raster.flatMap fun c => [c.red, c.green, c.blue]

/-- Every pixel repeated `factor` times in both directions. -/
def zoom (i : Image) (factor : Nat) : Image :=
  ⟨i.width * factor, i.height * factor, fun x y => i.pixel (x / factor) (y / factor)⟩

end Image

/-! ## Drawing -/

/-- A pixel and the colour it is painted with. -/
structure Stroke where
  x : Nat
  y : Nat
  color : Color
deriving DecidableEq, Repr

/-- Paints a pixel of a sheet of the given width, which holds colours row by row. -/
def paintOn (width : Nat) (sheet : Array Color) (s : Stroke) : Array Color :=
  sheet.setIfInBounds (s.y * width + s.x) s.color

/-- The image that strokes inside a black sheet leave, made one after the other. -/
def drawn (width height : Nat) (strokes : List Stroke) : Image :=
  let sheet := strokes.foldl (paintOn width) (Array.replicate (width * height) Color.black)
  ⟨width, height, fun x y => sheet.getD (y * width + x) .black⟩

/-- The strokes that put an image on a sheet, its corner at a point. -/
def Image.strokesAt (i : Image) (left top : Nat) : List Stroke :=
  (List.range i.height).flatMap fun y =>
    (List.range i.width).map fun x => ⟨left + x, top + y, i.pixel x y⟩

/-! ## Runs and bits -/

/-- Puts an element before a list of runs. -/
def pushRun {α : Type} [DecidableEq α] (a : α) : List (Nat × α) → List (Nat × α)
  | [] => [(1, a)]
  | (n, b) :: rest => if a = b then (n + 1, b) :: rest else (1, a) :: (n, b) :: rest

/-- The runs of equal elements of a list with their lengths. -/
def runs {α : Type} [DecidableEq α] (xs : List α) : List (Nat × α) := xs.foldr pushRun []

/-- Bit `7 - column` of a byte: whether the pixel of that column of eight is set. -/
def bitAt (b : UInt8) (column : Nat) : Bool := b.toNat.testBit (7 - column)

/-- The bit of a byte that stands for a column of eight, moved to the low end. -/
def columnBit (b : UInt8) (column : Nat) : Nat := (b.toNat >>> (7 - column)) &&& 1

/-- Whether the pixel of a column of eight is set in a byte, by a mask. -/
def isLit (b : UInt8) (column : Nat) : Bool := b.toNat &&& (0x80 >>> column) != 0

end MsxWorkbench.Picture
