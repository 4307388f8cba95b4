/-
# Canvases

The things a window draws. A canvas that shows a picture is 800 by 600 pixels.
-/
namespace MsxWorkbench.Gallery

/-- Something drawn on a canvas. -/
inductive CanvasItem where
  /-- A picture with its centre at a point. -/
  | picture (x y : Int)
  /-- A frame by its left, top, right and bottom. -/
  | frame (left top right bottom : Int) (width : Option Nat)
  /-- A text with the place of its anchor, colour and anchor. -/
  | label (x y : Int) (text fill anchor : String)
  /-- A line between two points. -/
  | line (x0 y0 x1 y1 : Int) (fill : String)
deriving DecidableEq, Repr

/-- The centre of a canvas. -/
def centre : Int × Int := (400, 300)

/-- A picture of a size in the middle of a canvas with a white frame around it. -/
def framed (width height : Int) (border : Option Nat) : List CanvasItem :=
  let (cx, cy) := centre
  let w := Int.fdiv width 2
  let h := Int.fdiv height 2
  [.picture cx cy, .frame (cx - w) (cy - h) (cx + w) (cy + h) border]

end MsxWorkbench.Gallery
