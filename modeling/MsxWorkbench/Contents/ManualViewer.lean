import MsxWorkbench.Contents.PageView
import MsxWorkbench.Files.FileTree
/-
# The manual viewer

Shows one of four manuals, or any other page file. A file is looked for in the current folder and
then in the program's own.
-/
namespace MsxWorkbench.Contents

/-- The manuals: the name offered and the file. -/
def manuals : List (String × String) := [
  ("Manual Geral", "MANUALS.html"),
  ("Referência MSX", "MSX.html"),
  ("MSX BIOS", "MSXBIOS.html"),
  ("Softwares", "SOFTWARE.html")]

/-- Where the manual viewer looks for files (`HelpViewer`). -/
structure ManualShelf where
  tree : FileTree := {}
  here : List String := ["work"]
  home : List String := ["repo"]

namespace ManualShelf

/-- The window's title. -/
def title : String := "Documentação MSX"

/-- The page for a file that is not there. -/
def missingPage (file : String) : String :=
  "<h1>Erro</h1><p>Arquivo não encontrado: " ++ file ++ "</p>"

/-- The path at which a file is found. -/
def locate? (s : ManualShelf) (file : String) : Except FileError (Option Path) := do
  let near := Path.mk .root s.here / file
  let far := Path.mk .root s.home / file
  if ← s.tree.contains s.here near then return some near
  else if ← s.tree.contains s.here far then return some far
  else return none

/-- Shows a file (`_load_html`). Without a view nothing is looked for. -/
def load (s : ManualShelf) (view : PageView) (file : String) : Notices × Option Fault :=
  if view = .absent then ({}, none)
  else
    match s.locate? file with
    | .error e => ({}, some (.file e))
    | .ok (some path) => view.demand [.loadFile path.text]
    | .ok none => view.demand [.loadPage (missingPage file)]

/-- Opens the viewer with a file: the name its selector shows, and what it does. A file that is no
manual is replaced by the first manual. -/
def start (s : ManualShelf) (view : PageView) (file : String) :
    String × Notices × Option Fault :=
  match manuals.find? fun m => m.2 == file with
  | some (name, _) => (name, s.load view file)
  | none => ("Manual Geral", s.load view "MANUALS.html")

/-- Shows the manual with a name (`_on_file_change`); another name does nothing. -/
def choose (s : ManualShelf) (view : PageView) (name : String) : Notices × Option Fault :=
  match manuals.find? fun m => m.1 == name with
  | some (_, file) => s.load view file
  | none => ({}, none)

end ManualShelf

end MsxWorkbench.Contents
