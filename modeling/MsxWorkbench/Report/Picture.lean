import MsxWorkbench.Gallery.AlphabetViewer
import MsxWorkbench.Gallery.LayoutViewer
import MsxWorkbench.Gallery.ScreenViewer
import MsxWorkbench.Gallery.ShapeViewer
import MsxWorkbench.Json.Build
/-
# Reports on pictures

Pictures and the viewers that show them, as JSON. A picture is given by its size and the checksum of
its colours, and by the runs of equal colours if there are at most a hundred. The checksum is the
cyclic redundancy check of 32 bits with the reflected polynomial 0xEDB88320, bit by bit.
-/
namespace MsxWorkbench

namespace Checksum

/-- One bit of the division. -/
def shift (c : UInt32) : UInt32 := if c &&& 1 = 1 then (c >>> 1) ^^^ 0xEDB88320 else c >>> 1

/-- One byte of the division. -/
def step (c : UInt32) (b : UInt8) : UInt32 :=
  let c := c ^^^ b.toUInt32
  shift (shift (shift (shift (shift (shift (shift (shift c)))))))

/-- The checksum of bytes. -/
def crc32 (bs : List UInt8) : UInt32 := (bs.foldl step 0xFFFFFFFF) ^^^ 0xFFFFFFFF


end Checksum

/-- The checksum of bytes as a number. -/
def Checksum.report (bs : List UInt8) : Json := .ofNat (Checksum.crc32 bs).toNat

/-- The runs of an image: their lengths and colours. -/
def Picture.runsReport (rle : List (Nat × Picture.Color)) : Json :=
  .ofList (fun (n, c) => .arr [.ofNat n, .ofBytes [c.red, c.green, c.blue]]) rle

/-- An image. -/
def Picture.Image.report (i : Picture.Image) : Json :=
  let size : List (String × Json) := [("w", .ofNat i.width), ("h", .ofNat i.height)]
  if i.width = 0 || i.height = 0 then .obj (size ++ [("crc", .int 0), ("rle", .arr [])])
  else
    let rle := Picture.runs i.raster
    .obj (size ++ [("crc", Checksum.report i.bytes)] ++
      if rle.length ≤ 100 then [("rle", Picture.runsReport rle)] else [])

namespace Gallery

/-- A width and a height. -/
def sizeReport (size : Option (Int × Int)) : Json :=
  .ofOption (fun (w, h) => .arr [.int w, .int h]) size

/-- What is drawn on a canvas. -/
def CanvasItem.report : CanvasItem → Json
  | .picture x y => .arr [.str "image", .arr [.int x, .int y], .obj [("anchor", .str "center")]]
  | .frame l t r b width =>
    .arr [.str "rectangle", .arr [.int l, .int t, .int r, .int b],
      .obj ([("outline", .str "white")] ++ (width.map fun w => ("width", Json.ofNat w)).toList)]
  | .label x y text fill anchor =>
    .arr [.str "text", .arr [.int x, .int y],
      .obj [("text", .str text), ("fill", .str fill), ("anchor", .str anchor)]]
  | .line x0 y0 x1 y1 fill =>
    .arr [.str "line", .arr [.int x0, .int y0, .int x1, .int y1], .obj [("fill", .str fill)]]

/-- The state of a button. -/
def buttonReport (enabled : Bool) : Json := .str (if enabled then "normal" else "disabled")

/-- What the shape viewer shows. -/
def ShapeViewer.report (v : ShapeViewer) : List (String × Json) :=
  [("offsets", .ofList .ofNat v.offsets), ("index", .int v.index), ("counter", .str v.counter),
    ("prev", buttonReport v.previousEnabled), ("next", buttonReport v.nextEnabled),
    ("image", .ofOption Picture.Image.report v.image),
    ("zoomed", sizeReport (v.zoomed.map fun (w, h) => ((w : Int), (h : Int)))),
    ("canvas", .ofList CanvasItem.report v.canvas)]

/-- What the screen viewer shows. -/
def ScreenViewer.report (v : ScreenViewer) : List (String × Json) :=
  [("image", .ofOption Picture.Image.report v.image), ("zoomed", sizeReport v.zoomed),
    ("zoom", .int v.zoom), ("label", .str v.label)]

/-- What the layout viewer shows. -/
def LayoutViewer.report (v : LayoutViewer) : List (String × Json) :=
  [("image", .ofOption Picture.Image.report v.image), ("zoomed", sizeReport v.zoomed),
    ("info", .str v.info), ("name", .ofOption .str v.name),
    ("canvas", .ofList CanvasItem.report v.canvas)]

/-- What the alphabet viewer shows. -/
def AlphabetViewer.report (v : AlphabetViewer) : List (String × Json) :=
  [("count", .ofNat v.glyphs.length), ("info", .str v.info),
    ("table", .ofOption Picture.Image.report v.table),
    ("detail", .ofOption Picture.Image.report v.detail)]

end Gallery

end MsxWorkbench
