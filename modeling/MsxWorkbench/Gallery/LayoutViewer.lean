import MsxWorkbench.Notice
import MsxWorkbench.Picture.Extent
import MsxWorkbench.Picture.Layout
import MsxWorkbench.Gallery.Canvas
/-
# The layout viewer

Shows the picture of a layout file at twice its size, with a line about the file below.
-/
namespace MsxWorkbench.Gallery

open Picture

/-- What the viewer shows (`LayoutViewerFrame`). -/
structure LayoutViewer where
  image : Option Image := none
  name : Option String := none
  zoomed : Option (Int × Int) := none
  info : String := "Carregue um arquivo .LAY"
  canvas : List CanvasItem := []

namespace LayoutViewer

/-- Draws the picture enlarged by a factor (`_update_canvas_image`). -/
def setZoom (v : LayoutViewer) (factor : Int) : LayoutViewer × Option ExtentError :=
  match v.image with
  | none => (v, none)
  | some image =>
    let width : Int := image.width * factor
    let height : Int := image.height * factor
    match extentError? width height with
    | some e => (v, some e)
    | none => ({ v with zoomed := some (width, height), canvas := framed width height none }, none)

/-- Draws patterns, any number of them (`_render_buffer_to_screen`). -/
def render (v : LayoutViewer) (patterns : List UInt8) : LayoutViewer :=
  ({ v with image := some (patternImage patterns.toArray) }.setZoom 2).1

/-- Shows a file of a name (`set_file`); what goes wrong is told in a message box. -/
def setFile (v : LayoutViewer) (name : String) (content : Except FileError (List UInt8)) :
    LayoutViewer × Notices :=
  let fault (text : String) : Notices :=
    .box .error "Erro de Leitura" s!"Falha ao ler o arquivo .LAY:\n{text}"
  match content with
  | .error e => (v, fault e.message)
  | .ok file =>
    match decodeLayout file with
    | .error e => (v, fault e.message)
    | .ok patterns =>
      let v := { v with name := some name }.render patterns
      ({ v with info := s!"Arquivo: {name} | Tamanho Decodificado: {patterns.length} bytes" }, {})

end LayoutViewer

end MsxWorkbench.Gallery
