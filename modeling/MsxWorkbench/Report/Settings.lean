import MsxWorkbench.Json.Build
import MsxWorkbench.Settings.Theme
/-
# Reports on settings

The store and the colours in force, as JSON.
-/
namespace MsxWorkbench.Settings

/-- A value of the store. -/
def Cell.report : Cell → Json
  | .null => .null
  | .int n => .int n
  | .real x => .ofReal x
  | .text s => .str s
  | .bytes bs => .ofBytes bs

/-- An entry of a column of texts. -/
def Entry.report : Entry → Json
  | .text s => .str s
  | .bytes bs => .ofBytes bs

/-- The colours of a theme by name. -/
def Theme.report (t : Theme) : Json :=
  .obj (ColorKey.all.map fun k => (k.name, .str (t.color k)))

/-- The colours in force by name. -/
def Store.colorsReport (s : Store) : Json := .obj (s.colorTable.map fun (k, v) => (k, v.report))

/-- The settings in the order of their keys. -/
def Store.settingsReport (s : Store) : Json :=
  .ofList (fun (k, v) => .arr [.ofOption Entry.report k, v.report]) s.sortedSettings

/-- The files opened, in the order of their paths. -/
def Store.recentReport (s : Store) : Json :=
  .ofList (fun (k, v) => .arr [.ofOption Entry.report k, Cell.report v]) s.sortedRecent

/-- The table of line numbers in the order of the old ones. -/
def Store.renumberingReport (s : Store) : Json :=
  .ofList (fun (old, new) => .arr [.int old, .int new])
    (s.renumbering.mergeSort fun a b => a.1 ≤ b.1)

/-- Members of an object in the order of their names, each as a pair. -/
def pairsReport (members : List (String × Json)) : Json :=
  .ofList (fun (k, v) => .arr [.str k, v])
    (members.mergeSort fun a b => Program.Analysis.textLe a.1.toList b.1.toList)

end MsxWorkbench.Settings
