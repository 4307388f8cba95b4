import MsxWorkbench.Charset.Delivered
import MsxWorkbench.Gallery.AlphabetViewer
import MsxWorkbench.Gallery.LayoutViewer
import MsxWorkbench.Gallery.ScreenViewer
import MsxWorkbench.Gallery.ShapeViewer
import MsxWorkbench.Number.Twister
import MsxWorkbench.Program.Analysis
import MsxWorkbench.Suite.ContentsSample
import MsxWorkbench.Suite.Outcome
/-
# Measured runs on pictures

The pictures are drawn from pseudo-random bytes, so that a run shows the same picture every time.
-/
namespace MsxWorkbench.Suite

open Picture

/-- A colour by its three parts. -/
def colorReport (c : Color) : Json :=
  .arr [.ofNat c.red.toNat, .ofNat c.green.toNat, .ofNat c.blue.toNat]

/-- The size of a picture. -/
def imageSize (i : Image) : Json := pairReport i.width i.height

/-- The pixel looked at in random screens. -/
def probe (data : Array UInt8) (mode : ScreenMode) : Color := (screenImage data mode).pixel 1 1

/-- The mode of the frame with a number: the three modes in turn. -/
def frameMode (frame : Nat) : ScreenMode :=
  match frame % 3 with
  | 0 => .normal
  | 1 => .blackAndWhite
  | _ => .colors

/-- The probed pixels of a number of random screens. -/
def framePixels (t : Twister) (frame : Nat) : Nat → List Color
  | 0 => []
  | count + 1 =>
    let (data, t) := t.bytes screenBytes #[]
    probe data (frameMode frame) :: framePixels t (frame + 1) count

/-- Draws random screens: the number of frames and the pixel of the last one. -/
def screenRun (frames : Nat) : Outcome :=
  match (framePixels (.ofSeed 1) 0 frames).getLast? with
  | none => .error .noPixel
  | some pixel => .ok (.arr [.ofNat frames, colorReport pixel])

/-- Reads a table of contents and draws random screens: the number of topics, the first names in
order, the sum of the red parts of the pixels, and the number of screens. -/
def contentsRun (screens : Nat) : Outcome :=
  let names := (sampleNames 15).mergeSort Program.Analysis.textLe
  let reds := (framePixels (.ofSeed 12) 0 screens).map fun c => c.red.toNat
  .ok (.arr [.ofNat names.length, .ofList .ofChars (names.take 3), .ofNat (reds.foldl (· + ·) 0), .ofNat screens])

/-- A shape of two columns and two rows with random patterns. -/
def shapeRecords (t : Twister) (first : Nat) : Nat → List UInt8
  | 0 => [0xFF]
  | count + 1 =>
    let (patterns, t) := t.bytes 32 #[]
    [UInt8.ofNat (first % 255), 1, 16, 2] ++ patterns.toList ++ shapeRecords t (first + 1) count

/-- Shows a file of shapes: the number of shapes, the size of the first one and its index. -/
def shapeRun (shapes : Nat) : Outcome :=
  let v := (({} : Gallery.ShapeViewer).setFile (.ok (shapeRecords (.ofSeed 2) 0 shapes))).1
  match v.image with
  | none => .error .noSize
  | some image => .ok (.arr [.ofNat v.offsets.length, imageSize image, .int v.index])

/-- Packed runs and single bytes: a clear run, a set run and a byte in turn. -/
def packedRuns (t : Twister) (position : Nat) : Nat → List UInt8
  | 0 => []
  | count + 1 =>
    let (item, t) :=
      if position % 3 = 2 then
        let (b, t) := t.between 1 95
        ([packByte (UInt8.ofNat b)], t)
      else
        let (length, t) := t.between 4 30
        ([packByte (if position % 3 = 0 then 0x00 else 0xFF), UInt8.ofNat length], t)
    item ++ packedRuns t (position + 1) count

/-- A layout file of packed bytes. -/
def layoutFile (packed : List UInt8) : List UInt8 :=
  let last := 0x9200 + packed.length - 1
  [0xFE, 0x00, 0x92, UInt8.ofNat last, UInt8.ofNat (last / 256), 0x00, 0x92] ++ packed

/-- Decodes a layout: the number of bytes, their sum in sixteen bits and the size of the picture. -/
def layoutRun (runs : Nat) : Outcome :=
  let bytes := (decodeLayout (layoutFile (packedRuns (.ofSeed 3) 0 runs))).toOption.getD []
  let image := patternImage bytes.toArray
  .ok (.arr [.ofNat bytes.length, .ofNat ((bytes.map UInt8.toNat).foldl (· + ·) 0 % 65536), imageSize image])

/-- An alphabet file of random glyphs. -/
def alphabetFile : List UInt8 :=
  List.replicate alphabetHeader 0 ++ ((Twister.ofSeed 4).bytes alphabetBytes #[]).1.toList

/-- The glyphs of an alphabet. -/
def glyphsInAlphabet : Nat := 256

/-- Shows an alphabet: the number of glyphs, how often it is drawn for that many characters, and the
darkest and the lightest colour of the table. -/
def alphabetRun (characters : Nat) : Outcome :=
  let v := (({} : Gallery.AlphabetViewer).setFile (.ok alphabetFile)).1
  match v.table with
  | none => .error .noPicture
  | some table =>
    let colors := table.raster
    let darker (a b : Color) : Color := if b.red < a.red then b else a
    let lighter (a b : Color) : Color := if a.red < b.red then b else a
    .ok (.arr [.ofNat v.glyphs.length, .ofNat (max 1 (characters / glyphsInAlphabet)),
      colorReport (colors.foldl darker .white), colorReport (colors.foldl lighter .black)])

/-- Loads the character tables and a random screen: the number of characters, the one with the code of
a capital A, the number of pixels and the colour of one of them. -/
def encodingRun (loads : Nat) : Outcome :=
  if loads = 0 then .error .noPicture
  else
    let table := (Charset.delivered.lookup "International").getD []
    let data := ((Twister.ofSeed 11).bytes screenBytes #[]).1
    let image := screenImage data .normal
    .ok (.arr [.ofNat table.length, .ofChars (table.getD 65 []), .ofNat (image.width * image.height),
      colorReport (probe data .normal)])

/-- Opens all picture viewers a number of times: the size of a shape, the number of glyphs, the sizes
of a layout and a screen, and the number of characters. -/
def framesRun (repeats : Nat) : Outcome :=
  let shapes := (({} : Gallery.ShapeViewer).setFile (.ok (shapeRecords (.ofSeed 2) 0 3))).1
  let alphabets := (({} : Gallery.AlphabetViewer).setFile (.ok alphabetFile)).1
  let layouts := (({} : Gallery.LayoutViewer).setFile "A.LAY"
    (.ok (layoutFile (packedRuns (.ofSeed 3) 0 40)))).1
  let screens := (({} : Gallery.ScreenViewer).setFile (.ok [])).1
  let table := (Charset.delivered.lookup "International").getD []
  .ok (.arr (List.replicate repeats (.arr [.ofOption imageSize shapes.image,
    .ofNat alphabets.glyphs.length, .ofOption imageSize layouts.image,
    .ofOption imageSize screens.image, .ofNat table.length])))

end MsxWorkbench.Suite
