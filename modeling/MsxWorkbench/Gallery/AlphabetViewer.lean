import MsxWorkbench.Indexing
import MsxWorkbench.Notice
import MsxWorkbench.Picture.Alphabet
/-
# The alphabet viewer

Shows the table of glyphs of an alphabet at twice its size and one selected glyph enlarged.
-/
namespace MsxWorkbench.Gallery

open Picture

/-- What the viewer shows (`AlphabetViewerFrame`). -/
structure AlphabetViewer where
  data : Option (Array UInt8) := none
  glyphs : List Image := []
  table : Option Image := none
  detail : Option Image := none
  info : String := "Codigo: ---"

namespace AlphabetViewer

/-- Makes the pictures of the glyphs (`_process_data`). -/
def makeGlyphs (v : AlphabetViewer) : AlphabetViewer :=
  match v.data with
  | none => { v with glyphs := [] }
  | some data => { v with glyphs := (List.range 256).map (glyphImage data) }

/-- Draws the table (`_draw_table`). -/
def drawTable (v : AlphabetViewer) : AlphabetViewer :=
  if v.glyphs.isEmpty then v
  else { v with table := some ((glyphTable v.glyphs).zoom 2) }

/-- A number in upper-case hexadecimal with at least two places, a sign being one of them. -/
def hexText (n : Int) : String :=
  let digits := (Nat.toDigits 16 n.natAbs).map Char.toUpper
  let width := if n < 0 then 1 else 2
  String.ofList ((if n < 0 then ['-'] else []) ++ List.replicate (width - digits.length) '0' ++ digits)

/-- The line about a glyph. -/
def infoText (index : Int) : String :=
  let shown := if 32 ≤ index ∧ index ≤ 126 then String.singleton (Char.ofNat index.toNat) else "."
  s!"Char: {shown} | Dec: {index} | Hex: ${hexText index}"

/-- Selects the glyph of an index (`_select_char`). Without glyphs nothing happens. -/
def select (v : AlphabetViewer) (index : Int) : AlphabetViewer × Option PositionError :=
  if v.glyphs.isEmpty then (v, none)
  else match itemAt v.glyphs index with
    | .error e => (v, some e)
    | .ok g => ({ v with detail := some (g.zoom 16), info := infoText index }, none)

/-- The glyph under a point of the table. -/
def glyphUnder (x y : Int) : Int :=
  Int.fdiv (Int.fdiv y 2) 8 * 16 + Int.fdiv (Int.fdiv x 2) 8

/-- Selects the glyph under a point of the table (`_on_table_click`). -/
def click (v : AlphabetViewer) (x y : Int) : AlphabetViewer × Option PositionError :=
  if v.data.isNone then (v, none)
  else
    let index := glyphUnder x y
    if 0 ≤ index ∧ index ≤ 255 then v.select index else (v, none)

/-- Shows a file and selects the letter A (`set_file`); what goes wrong is told in a message box. -/
def setFile (v : AlphabetViewer) (content : Except FileError (List UInt8)) :
    AlphabetViewer × Notices :=
  let fault (text : String) : Notices := .box .error "Erro" s!"Falha ao ler arquivo:\n{text}"
  match content with
  | .error e => (v, fault e.message)
  | .ok file =>
    match alphabetData file with
    | .error count =>
      (v, fault s!"Arquivo incompleto. Esperado 2048 bytes de dados, lido {count}.")
    | .ok data => (({ v with data := some data }.makeGlyphs.drawTable.select 65).1, {})

end AlphabetViewer

end MsxWorkbench.Gallery
