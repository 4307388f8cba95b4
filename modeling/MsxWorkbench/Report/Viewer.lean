import MsxWorkbench.Report.Settings
import MsxWorkbench.Viewer.Looks
/-
# Reports on the file viewer

What the file viewer shows, as JSON.
-/
namespace MsxWorkbench.Viewer

/-- Pieces of a text with their tags. -/
def piecesReport (ps : List Piece) : Json :=
  .ofList (fun p => .arr [.ofChars p.text, .ofList .str p.tag.toList]) ps

/-- What the viewer shows; the pieces of its text only for a program. -/
def FileViewer.report (v : FileViewer) : List (String × Json) :=
  [("dir", .str v.folder), ("dir_label", .str v.folder),
    ("file", .ofOption .str (v.current.map Prod.fst)),
    ("kind", .ofOption .str (v.current.map fun c => c.2.kindName)), ("label", .str v.label),
    ("status", .str v.status), ("tab", .str v.tab), ("text", .ofChars v.text)] ++
  match v.current with
  | some (_, .program _) => [("inserts", piecesReport v.pieces)]
  | _ => []

/-- The size of the window and its font. -/
def FileViewer.windowReport (v : FileViewer) : Json :=
  .obj [("geometry", .ofOption .str v.geometry), ("font", .arr [.str v.font.1, .ofNat v.font.2])]

/-- The colours in force. -/
def FileViewer.colorsReport (v : FileViewer) : Json :=
  let keys : List Settings.ColorKey := [.command, .comment, .function, .lineNumber, .number, .string]
  .obj [("theme", .str v.themeName), ("colors", v.colors.report), ("bg", .str v.background),
    ("fg", .str v.foreground),
    ("tags", .ofList (fun k => .arr [.str ("msx_" ++ k.name), .str (v.colors.color k)]) keys)]

end MsxWorkbench.Viewer
