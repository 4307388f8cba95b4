import MsxWorkbench.Editor.State
/-
# The sixteen colours

The colours of the first machines of the family, and the window that shows them.
-/
namespace MsxWorkbench.Editor

/-- A colour: its number, name and value. -/
structure NamedColor where
  number : Nat
  name : String
  value : String
deriving DecidableEq, Repr

/-- The sixteen colours. -/
def palette : List NamedColor := [
  ⟨0, "transparent", "#000000"⟩,
  ⟨1, "black", "#010101"⟩,
  ⟨2, "medium green", "#3EB849"⟩,
  ⟨3, "light green", "#74D07D"⟩,
  ⟨4, "dark blue", "#5955E0"⟩,
  ⟨5, "light blue", "#8076F1"⟩,
  ⟨6, "dark red", "#B95E51"⟩,
  ⟨7, "cyan", "#65DBEF"⟩,
  ⟨8, "medium red", "#DB6559"⟩,
  ⟨9, "light red", "#FF897D"⟩,
  ⟨10, "dark yellow", "#CCC35E"⟩,
  ⟨11, "light yellow", "#DED087"⟩,
  ⟨12, "dark green", "#3AA241"⟩,
  ⟨13, "magenta", "#B766B5"⟩,
  ⟨14, "gray", "#CCCCCC"⟩,
  ⟨15, "white", "#FFFFFF"⟩]

/-- The window with the colours: all its texts, the colours shown and the rows that stand out. -/
structure PaletteWindow where
  texts : List String
  samples : List String
  stressed : List Nat
deriving DecidableEq, Repr

/-- Opens the window (`_show_msx1_palette`); the row of a chosen colour stands out if the window
lets it. -/
def showPalette (chosen : Option Int) : Edit PaletteWindow := do
  let row := palette.find? fun c => chosen == some (c.number : Int)
  let stressed ← match row with
    | none => pure []
    | some c => tryCatch (do call .configure; return [c.number]) fun _ => return []
  return {
    texts := ["#", "Nome", "Hex", "Amostra"] ++
      palette.flatMap fun c => [toString c.number, c.name, c.value]
    samples := palette.map (·.value)
    stressed }

end MsxWorkbench.Editor
