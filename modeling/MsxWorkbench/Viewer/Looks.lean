import MsxWorkbench.Viewer.FileViewer
/-
# The looks of the viewer

A form for the looks of the window, the theme of listings and single colours. Nothing is in force
before it is saved.
-/
namespace MsxWorkbench.Viewer

open Settings

/-- What the form holds. -/
structure Looks where
  appearance : String
  palette : String
  theme : String
  colors : Theme

namespace Looks

/-- The colours of the form from top to bottom. -/
def rows : List ColorKey :=
  [.background, .foreground, .command, .function, .string, .number, .comment, .lineNumber]

/-- Opens the form (`_open_settings`). -/
def ofViewer (v : FileViewer) : Looks := ⟨v.appearance, v.palette, v.themeName, v.colors⟩

/-- Fills in the colours of the chosen theme (`_apply_theme_to_vars`). -/
def applyTheme (l : Looks) : Looks := { l with colors := Theme.named l.theme }

/-- Picks the colour of a row (`_pick_color`); the user may give up. -/
def pick (l : Looks) (row : Nat) (color : Option String) : Looks :=
  match rows[row]?, color with
  | some key, some c => if c.isEmpty then l else { l with colors := l.colors.put key c }
  | _, _ => l

/-- The colours shown from top to bottom. -/
def shown (l : Looks) : List String := rows.map l.colors.color

end Looks

namespace FileViewer

/-- Puts a form into force and stores it (`_save_settings`). -/
def saveLooks (v : FileViewer) (l : Looks) : FileViewer × Notices :=
  let colors := ColorKey.all.map fun k => (k.name, Given.text (l.colors.color k))
  let store := (v.store.set "appearance_mode" l.appearance).set "color_theme" l.palette
  let trimmed (s : String) : String := String.ofList (Text.trim s.toList)
  ({ v with
      appearance := l.appearance
      palette := l.palette
      themeName := l.theme
      colors := l.colors
      background := trimmed l.colors.background
      foreground := trimmed l.colors.foreground
      store := (store.saveColors (.text l.theme) colors).1 },
    wear l.appearance l.palette)

end FileViewer

end MsxWorkbench.Viewer
