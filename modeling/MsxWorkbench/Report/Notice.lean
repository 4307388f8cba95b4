import MsxWorkbench.Json.Build
import MsxWorkbench.Notice
/-
# Reports on notices

What was told and asked, as JSON.
-/
namespace MsxWorkbench

/-- The name of a kind of message box in reports. -/
def BoxKind.name : BoxKind → String
  | .info => "showinfo"
  | .error => "showerror"
  | .warning => "showwarning"
  | .question => "askyesno"

/-- A message box: its kind, title and text. -/
def Box.report (b : Box) : Json := .arr [.str b.kind.name, .str b.title, .str b.text]

/-- What was asked: its name and what belongs to it. -/
def Action.report : Action → Json
  | .style b f => .arr [.str "style", .str b, .str f]
  | .styleSelected c => .arr [.str "style_map", .str c]
  | .run words => .arr [.str "run", .ofList .str words, .bool true]
  | .loadFile p => .arr [.str "load_file", .str p]
  | .loadPage p => .arr [.str "load_html", .str p]
  | .linkHandler b => .arr [.str "on_link_click", .bool b]
  | .goBack => .arr [.str "go_back"]
  | .goForward => .arr [.str "go_forward"]
  | .scrollToTop => .arr [.str "yview_moveto", .int 0]
  | .event e => .arr [.str "event", .str e]
  | .appearance m => .arr [.str "appearance", .str m]
  | .theme n => .arr [.str "theme", .str n]
  | .loadFont p => .arr [.str "load_font", .str p]

/-- The notices as members of an object; kinds of which there are none are left out. -/
def Notices.report (n : Notices) : List (String × Json) :=
  (if n.actions.isEmpty then [] else [("log", .ofList Action.report n.actions)]) ++
  (if n.boxes.isEmpty then [] else [("messages", .ofList Box.report n.boxes)]) ++
  (if n.printed.isEmpty then [] else [("printed", .str ("".intercalate n.printed))])

end MsxWorkbench
