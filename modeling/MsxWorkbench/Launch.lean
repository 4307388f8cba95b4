import MsxWorkbench.Charset.Table
import MsxWorkbench.Contents.ContentsViewer
import MsxWorkbench.Contents.ManualViewer
import MsxWorkbench.Editor.State
/-
# Starting the programs

Four programs can be started by themselves: the editor, the viewer of help archives, the viewer of
manuals and the maker of the character tables. Starting one opens its windows, may print something, and
may leave files in the current folder.
-/
namespace MsxWorkbench

/-- The programs. -/
inductive Launch where
  | editor
  | contents
  | manuals
  | tables
deriving DecidableEq, Repr

/-- What a program finds when it is started. -/
structure LaunchSite where
  shelf : Contents.Shelf := {}
  manuals : Contents.ManualShelf := {}
  sources : Charset.SourceFiles := []
  /-- The view for pages. -/
  view : Contents.PageView := .ready
  appearance : String := "Light"

/-- Why a program stopped. -/
inductive LaunchFault where
  | tables (error : Charset.BuildError)
  | contents (fault : Contents.Fault)

/-- What a program has done once it is started. -/
structure Launched where
  /-- The titles of its windows. -/
  titles : List String := []
  notices : Notices := {}
  /-- The files it wrote, by name. -/
  written : List String := []
  fault : Option LaunchFault := none

/-- The name of the file that holds the settings. -/
def settingsFile : String := "msxread.db"

/-- Starts a program. -/
def Launch.start (s : LaunchSite) : Launch → Launched
  | .editor => { titles := [Editor.title], written := [settingsFile] }
  | .contents =>
    let (_, notices, fault) := Contents.ContentsViewer.start s.shelf s.appearance
    { titles := [Contents.ContentsViewer.title], notices, fault := fault.map .contents }
  | .manuals =>
    { titles := [Contents.ManualShelf.title]
      notices := (s.manuals.start s.view "MANUALS.html").2.1 }
  | .tables =>
    match Charset.buildFile s.sources with
    | .ok _ => { written := [Charset.tablesFile] }
    | .error e =>
      { written := if e.leavesFile then [Charset.tablesFile] else [], fault := some (.tables e) }

/-- An installation: each of two parts may be missing. -/
structure Installation where
  hasPageView : Bool := true
  hasManualViewer : Bool := true
deriving DecidableEq, Repr

namespace Installation

/-- Can the viewer of help archives show pages? -/
def showsTopics (i : Installation) : Bool := i.hasPageView

/-- Can the viewer of manuals show pages? -/
def showsManuals (i : Installation) : Bool := i.hasPageView

/-- Does the editor offer the manuals? It does if their viewer is there, whether or not that can show
pages. -/
def offersManuals (i : Installation) : Bool := i.hasManualViewer

end Installation

end MsxWorkbench
