import MsxWorkbench.Notice
import MsxWorkbench.Picture.Shape
import MsxWorkbench.Gallery.Canvas
/-
# The shape viewer

Shows the shapes of a file one at a time, with buttons to the previous and the next one and a counter
between them.
-/
namespace MsxWorkbench.Gallery

open Picture

/-- What the viewer shows (`ShapeViewerFrame`). -/
structure ShapeViewer where
  /-- The file, once one that exists has been given. -/
  file : Option (Array UInt8) := none
  offsets : List Nat := []
  index : Int := -1
  counter : String := "0 / 0"
  previousEnabled : Bool := false
  nextEnabled : Bool := false
  image : Option Image := none
  zoomed : Option (Nat × Nat) := none
  canvas : List CanvasItem := []

namespace ShapeViewer

/-- How much a shape is enlarged. -/
def zoomFactor : Nat := 4

/-- Makes counter and buttons fit the current shape (`_update_controls`). -/
def updateControls (v : ShapeViewer) : ShapeViewer :=
  let total := v.offsets.length
  if total = 0 then { v with counter := "0 / 0", previousEnabled := false, nextEnabled := false }
  else { v with
    counter := s!"{v.index + 1} / {total}"
    previousEnabled := v.index > 0
    nextEnabled := v.index < total - 1 }

/-- The line printed when a shape cannot be shown. -/
def failure (index : Int) (e : ShapeError) : Notices :=
  .line s!"Erro ao ler shape no index {index}: {e.message}"

/-- Draws the shape of an index (`_load_shape_at_index`); an index without shape changes nothing. -/
def load (v : ShapeViewer) (index : Int) : ShapeViewer × Notices :=
  match v.file, if index < 0 then none else v.offsets[index.toNat]? with
  | some file, some offset =>
    match shapeAt? file offset with
    | none => (v, {})
    | some shape =>
      let v := { v with canvas := [] }
      match shape.image with
      | .error e => (v, failure index e)
      | .ok image =>
        let v := { v with image := some image }
        let width := image.width * zoomFactor
        let height := image.height * zoomFactor
        -- a picture without any extent stays as it is and is not enlarged
        if (width == 0) != (height == 0) then (v, failure index .emptyImage)
        else ({ v with zoomed := some (width, height), canvas := framed width height (some 2) }, {})
  | _, _ => (v, {})

/-- Shows a file, or tells that it has no shape (`set_file`). -/
def setFile (v : ShapeViewer) (content : Except FileError (List UInt8)) : ShapeViewer × Notices :=
  let (file, fault) : Option (Array UInt8) × Notices := match content with
    | .ok bytes => (some bytes.toArray, {})
    | .error e => (none, .box .error "Erro" s!"Erro ao indexar arquivo: {e.message}")
  let offsets := (file.map shapeOffsets).getD []
  let v := { v with file, offsets }
  if offsets.isEmpty then
    (v.updateControls,
      fault ++ .box .info "Info" "Nenhum shape valido encontrado ou arquivo vazio.")
  else
    ({ v with index := 0 }).updateControls.load 0

/-- Goes to the shape before, if there is one (`_prev_shape`). -/
def previous (v : ShapeViewer) : ShapeViewer × Notices :=
  if v.index > 0 then
    let (v, n) := { v with index := v.index - 1 }.load (v.index - 1)
    (v.updateControls, n)
  else (v, {})

/-- Goes to the next shape, if there is one (`_next_shape`). -/
def next (v : ShapeViewer) : ShapeViewer × Notices :=
  if v.index < (v.offsets.length : Int) - 1 then
    let (v, n) := { v with index := v.index + 1 }.load (v.index + 1)
    (v.updateControls, n)
  else (v, {})

end ShapeViewer

end MsxWorkbench.Gallery
