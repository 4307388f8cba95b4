import MsxWorkbench.Picture.Image
/-
# Alphabet files

An alphabet file holds 256 glyphs of eight bytes, one for each row of pixels, after a header of seven
bytes.
-/
namespace MsxWorkbench.Picture

/-- Bytes of an alphabet file before the glyphs. -/
def alphabetHeader : Nat := 7

/-- Bytes of the glyphs. -/
def alphabetBytes : Nat := 2048

/-- The glyph bytes of a file, and how many there are when some are missing. -/
def alphabetData (file : List UInt8) : Except Nat (Array UInt8) :=
  let data := (file.drop alphabetHeader).take alphabetBytes
  if data.length = alphabetBytes then .ok data.toArray else .error data.length

/-- The strokes of a glyph: the set pixels of each row. -/
def glyphStrokes (data : Array UInt8) (glyph : Nat) : List Stroke :=
  (List.range 8).flatMap fun row =>
    let byte := data.getD (glyph * 8 + row) 0
    ((List.range 8).filter fun column => columnBit byte column == 1).map fun column => ⟨column, row, .white⟩

/-- The picture of a glyph: 8 by 8 pixels, white on black. -/
def glyphImage (data : Array UInt8) (glyph : Nat) : Image := drawn 8 8 (glyphStrokes data glyph)

/-- The strokes of a table of glyphs, sixteen to a row, which are put on it one after the other. -/
def tableStrokes (glyphs : List Image) : List Stroke :=
  glyphs.zipIdx.flatMap fun (glyph, i) => glyph.strokesAt (i % 16 * 8) (i / 16 * 8)

/-- The table of glyphs. -/
def glyphTable (glyphs : List Image) : Image := drawn 128 128 (tableStrokes glyphs)

end MsxWorkbench.Picture
