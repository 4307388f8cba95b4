import MsxWorkbench.Editor.Palette
import MsxWorkbench.Report.Notice
import MsxWorkbench.Report.Settings
/-
# Reports on the editor

What the editor shows, as JSON.
-/
namespace MsxWorkbench.Editor

/-- A mark: its name, start and end. -/
def TextMark.report (m : TextMark) : Json := .arr [.str m.name, .str m.first.text, .str m.last.text]

/-- What is drawn in a margin. -/
def MarginItem.report : MarginItem → Json
  | .label x y text color anchor =>
    .arr [.str "text", .arr [.ofReal x, .int y],
      .obj [("text", .str text), ("fill", color), ("anchor", .str anchor)]]
  | .tick x top bottom color width =>
    .arr [.str "line", .arr [.ofReal x, .int top, .ofReal x, .int bottom],
      .obj ([("fill", color)] ++ (width.map fun w => ("width", Json.ofNat w)).toList)]

/-- A margin. -/
def Margin.report (m : Margin) : Json :=
  .obj [("bg", m.background), ("items", .ofList MarginItem.report m.items)]

/-- The window with the colours. -/
def PaletteWindow.report (w : PaletteWindow) : Json :=
  .arr [.ofList .str w.texts, .ofList .str w.samples, .ofList .ofNat w.stressed]

/-- The colours of marks and text. -/
def State.colorsReport (s : State) : Json :=
  .obj [("tags", Settings.pairsReport (s.markColors.map fun (n, cs) => (n, .obj cs))),
    ("bg", s.background), ("fg", s.foreground)]

/-- The text, the cursor and the status line. -/
def State.report (s : State) : List (String × Json) :=
  [("text", .ofChars s.buffer.text), ("cursor", .str (s.buffer.spot s.buffer.cursor).text),
    ("status", .str s.status)] ++ s.notices.report

end MsxWorkbench.Editor
