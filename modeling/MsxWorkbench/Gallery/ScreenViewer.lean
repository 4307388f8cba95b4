import MsxWorkbench.Notice
import MsxWorkbench.Text.Integer
import MsxWorkbench.Picture.Extent
import MsxWorkbench.Picture.Screen
/-
# The screen viewer

Shows a screen picture in one of three modes, enlarged by a chosen factor.
-/
namespace MsxWorkbench.Gallery

open Picture

/-- Why a picture could not be shown. -/
inductive ZoomError where
  | number (e : Text.IntegerError)
  | extent (e : ExtentError)
deriving DecidableEq, Repr

/-- The message for a picture that could not be shown. -/
def ZoomError.message : ZoomError → String
  | .number e => e.message
  | .extent e => e.message

/-- What the viewer shows (`ScreenViewerFrame`). -/
structure ScreenViewer where
  data : Option (Array UInt8) := none
  mode : String := "normal"
  zoom : Int := 4
  image : Option Image := none
  zoomed : Option (Int × Int) := none
  label : String := "Nenhuma imagem carregada.\nSelecione um arquivo .SCR (Graphos III)."

namespace ScreenViewer

/-- Draws the picture again (`_update_display`); without data there is nothing to draw. -/
def refresh (v : ScreenViewer) : ScreenViewer × Option ZoomError :=
  match v.data with
  | none => (v, none)
  | some data =>
    let image := screenImage data (.ofName v.mode)
    let v := { v with image := some image }
    let width : Int := image.width * v.zoom
    let height : Int := image.height * v.zoom
    match extentError? width height with
    | some e => (v, some (.extent e))
    | none => ({ v with zoomed := some (width, height), label := "" }, none)

/-- Shows a file (`set_file`); what goes wrong is told in a message box. -/
def setFile (v : ScreenViewer) (content : Except FileError (List UInt8)) : ScreenViewer × Notices :=
  let fault (text : String) : Notices := .box .error "Erro" s!"Falha ao ler arquivo: {text}"
  match content with
  | .error e => (v, fault e.message)
  | .ok file =>
    let (v, e?) := { v with data := some (screenData file) }.refresh
    match e? with
    | none => (v, {})
    | some e => (v, fault e.message)

/-- Chooses the mode. -/
def setMode (v : ScreenViewer) (mode : String) : ScreenViewer × Option ZoomError :=
  { v with mode }.refresh

/-- Chooses the factor, a number with any letters x in it left out (`_on_zoom_change`). -/
def setZoom (v : ScreenViewer) (choice : List Char) : ScreenViewer × Option ZoomError :=
  match Text.readInteger 10 (choice.filter (· != 'x')) with
  | .error e => (v, some (.number e))
  | .ok zoom => { v with zoom }.refresh

end ScreenViewer

end MsxWorkbench.Gallery
