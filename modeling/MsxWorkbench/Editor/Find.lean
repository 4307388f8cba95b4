import MsxWorkbench.Editor.State
import MsxWorkbench.Text.Case
/-
# Finding and replacing

All occurrences of a text are marked, in any case of letters, or replaced, letter for letter. Replacing
works on the text with the line break behind it, and so each time adds one to the text.
-/
namespace MsxWorkbench.Editor

/-- The name of the marks on what was found. -/
def foundMark : String := "search"

/-- The marks on the occurrences of a text in any case of its letters. -/
def Buffer.found (b : Buffer) (part : List Char) : List TextMark :=
  (b.occurrences (Text.lower b.full) (Text.lower part) part.length (b.text.length + 1) 0).map fun n =>
    ⟨foundMark, b.spot n, b.spot (b.move n part.length)⟩

/-- Marks all occurrences of a text and takes the marks off what was found before (`do_find`). -/
def find (part : List Char) : Edit Unit :=
  modify fun s =>
    let s := { s with marks := s.marks.filter fun m => m.name != foundMark }
    if part.isEmpty then s
    else
      let s := { s with marks := s.marks ++ s.buffer.found part }
      (s.putMarkColor foundMark "background" (.str "yellow")).putMarkColor foundMark "foreground"
        (.str "black")

/-- Replaces all occurrences of a text (`do_replace`). -/
def replaceAll (part new : List Char) : Edit Unit :=
  if part.isEmpty then pure ()
  else do
    edit fun b => b.replace (Text.replaceAll part new b.content)
    highlight

end MsxWorkbench.Editor
