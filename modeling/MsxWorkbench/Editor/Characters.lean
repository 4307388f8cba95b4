import MsxWorkbench.Charset.Picker
import MsxWorkbench.Editor.State
/-
# Characters from the picker

The editor opens the character picker on the delivered tables; the texts it sends are inserted at the
cursor.
-/
namespace MsxWorkbench.Editor

open Charset

/-- Inserts texts at the cursor, one after the other (`insert_text`). -/
def insertTexts (texts : List String) : Edit Unit :=
  edit fun b => texts.foldl (fun b t => b.insert b.cursor t.toList) b

/-- Opens the picker, chooses a version of the machine, clicks some cells and sends what they gave
(`_open_encoding_viewer`). -/
def pickCharacters (version : String) (cells : List Int) : Edit Unit :=
  match Picker.start (Charset.toJson delivered) true with
  | .error _ => pure ()
  | .ok p => do
    let (p, notices) := ((p.choose version).1.clickCells cells).1.insert
    insertTexts p.inserted
    tell notices

end MsxWorkbench.Editor
