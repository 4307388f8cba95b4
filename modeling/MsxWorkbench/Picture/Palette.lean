import MsxWorkbench.Picture.Image
/-
# Palettes

The sixteen colours of the MSX video chip, as shapes and as screens show them.
-/
namespace MsxWorkbench.Picture

/-- The colours that shapes are drawn with. -/
def shapePalette : List Color := [
  ⟨0, 0, 0⟩, ⟨0, 0, 0⟩, ⟨32, 192, 32⟩, ⟨96, 224, 96⟩, ⟨32, 32, 224⟩, ⟨64, 96, 224⟩, ⟨160, 32, 32⟩,
  ⟨64, 192, 224⟩, ⟨224, 32, 32⟩, ⟨224, 96, 96⟩, ⟨192, 192, 32⟩, ⟨192, 192, 128⟩, ⟨32, 128, 32⟩,
  ⟨192, 64, 160⟩, ⟨160, 160, 160⟩, ⟨224, 224, 224⟩]

/-- The colours that screens are drawn with. -/
def screenPalette : List Color := [
  ⟨0, 0, 0⟩, ⟨0, 0, 0⟩, ⟨35, 178, 53⟩, ⟨109, 231, 116⟩, ⟨54, 59, 236⟩, ⟨115, 119, 246⟩, ⟨171, 53, 49⟩,
  ⟨74, 213, 247⟩, ⟨229, 62, 54⟩, ⟨241, 123, 117⟩, ⟨201, 196, 56⟩, ⟨218, 215, 125⟩, ⟨31, 138, 56⟩,
  ⟨176, 87, 182⟩, ⟨176, 176, 176⟩, ⟨255, 255, 255⟩]

/-- The colour of a number in a palette. -/
def colorAt (palette : List Color) (n : Nat) : Color := palette.getD n .black

/-- The colour of set pixels in a colour byte: its high half. -/
def foreground (palette : List Color) (b : UInt8) : Color := colorAt palette (b.toNat / 16)

/-- The colour of clear pixels in a colour byte: its low half. -/
def background (palette : List Color) (b : UInt8) : Color := colorAt palette (b.toNat % 16)

end MsxWorkbench.Picture
