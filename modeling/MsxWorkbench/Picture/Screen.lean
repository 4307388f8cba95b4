import MsxWorkbench.Picture.Palette
/-
# Screen pictures

A picture of the graphic mode SCREEN 2 is 256 by 192 pixels. Every eight pixels of a row have one
pattern byte and one colour byte at the same address; the addresses go down the eight lines of a tile,
then along the tiles of a row of tiles, then down the rows of tiles of each third of the screen. A
picture is drawn in this order on a black sheet.
-/
namespace MsxWorkbench.Picture

/-- The width of a screen. -/
def screenWidth : Nat := 256

/-- The height of a screen. -/
def screenHeight : Nat := 192

/-- Paints a pixel of a sheet, which holds the colours of a screen row by row. -/
def paint (sheet : Array Color) (s : Stroke) : Array Color := paintOn screenWidth sheet s

/-- Draws a screen. Its bytes are walked by the thirds of the screen, the tiles of a third and the
lines of a tile, and for each of them some strokes are made. -/
def drawScreen (strokes : Nat → Nat → Nat → List Stroke) : Image :=
  let black := Array.replicate (screenWidth * screenHeight) Color.black
  let sheet := (List.range 3).foldl (fun sheet third =>
    (List.range 256).foldl (fun sheet tile =>
      (List.range 8).foldl (fun sheet line => (strokes third tile line).foldl paint sheet) sheet) sheet) black
  ⟨screenWidth, screenHeight, fun x y => sheet.getD (y * screenWidth + x) .black⟩

/-! ## Screens with colours -/

/-- How a screen is shown: with its pixels and colours, in black and white, or the colours only. -/
inductive ScreenMode where
  | normal
  | blackAndWhite
  | colors
deriving DecidableEq, Repr

namespace ScreenMode

/-- The mode of a name; an unknown name shows everything. -/
def ofName (name : String) : ScreenMode :=
  if name = "bw" then .blackAndWhite else if name = "color" then .colors else .normal

/-- The pattern that is drawn for a pattern byte: half of the pixels where only colours are shown. -/
def pattern (mode : ScreenMode) (b : UInt8) : UInt8 := if mode = .colors then 0xF0 else b

/-- The colour of set pixels for a colour byte. -/
def front (mode : ScreenMode) (b : UInt8) : Color :=
  if mode = .blackAndWhite then colorAt screenPalette 15 else foreground screenPalette b

/-- The colour of clear pixels for a colour byte. -/
def back (mode : ScreenMode) (b : UInt8) : Color :=
  if mode = .blackAndWhite then colorAt screenPalette 1 else background screenPalette b

end ScreenMode

/-- Bytes of a screen file before its data. -/
def screenHeader : Nat := 128

/-- Bytes of a screen's patterns and colours. -/
def screenBytes : Nat := 12288

/-- Where the colour bytes of a screen start. -/
def colorBase : Nat := 0x1800

/-- The data of a screen file, cut or filled up with zeros to its full length. -/
def screenData (file : List UInt8) : Array UInt8 :=
  let content := (file.drop screenHeader).take screenBytes
  (content ++ List.replicate (screenBytes - content.length) 0).toArray

/-- The strokes for a byte of a screen: every one of its eight pixels has a colour. -/
def screenStrokes (data : Array UInt8) (mode : ScreenMode) (third tile line : Nat) : List Stroke :=
  let block := tile * 8 + third * 0x800
  let pattern := mode.pattern (data.getD (block + line) 0)
  let color := data.getD (colorBase + block + line) 0
  (List.range 8).map fun column =>
    ⟨tile % 32 * 8 + column, third * 64 + tile / 32 * 8 + line,
      if columnBit pattern column = 1 then mode.front color else mode.back color⟩

/-- The picture of a screen (`_process_msx_screen2`). -/
def screenImage (data : Array UInt8) (mode : ScreenMode) : Image := drawScreen (screenStrokes data mode)

/-! ## Patterns alone -/

/-- The strokes for a pattern byte: its set pixels are white, and the others stay as they are. A byte
that is not there has none. -/
def patternStrokes (patterns : Array UInt8) (third tile line : Nat) : List Stroke :=
  match patterns[tile * 8 + third * 0x800 + line]? with
  | none => []
  | some b => ((List.range 8).filter (isLit b)).map fun column =>
    ⟨tile % 32 * 8 + column, tile / 32 * 8 + third * 64 + line, .white⟩

/-- The picture of patterns alone, white on black (`_render_buffer_to_screen`). -/
def patternImage (patterns : Array UInt8) : Image := drawScreen (patternStrokes patterns)

end MsxWorkbench.Picture
