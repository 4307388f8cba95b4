import MsxWorkbench.Text.Quoted
/-
# Notices

What a window does besides what it shows: message boxes, lines of output, and what it asks of the
desktop around it. Also the messages for files that cannot be opened.
-/
namespace MsxWorkbench

/-- The kinds of message box. -/
inductive BoxKind where
  | info
  | error
  | warning
  | question
deriving DecidableEq, Repr

/-- A message box that was shown. -/
structure Box where
  kind : BoxKind
  title : String
  text : String
deriving DecidableEq, Repr

/-- What a window asks of its surroundings: of the desktop, of the page view it holds and of other
programs. -/
inductive Action where
  | style (background foreground : String)
  | styleSelected (color : String)
  /-- Runs another program. -/
  | run (words : List String)
  | loadFile (path : String)
  | loadPage (page : String)
  /-- Sets or removes what happens when a link is clicked. -/
  | linkHandler (present : Bool)
  | goBack
  | goForward
  | scrollToTop
  /-- Sends an editing event to the text. -/
  | event (name : String)
  | appearance (mode : String)
  | theme (name : String)
  | loadFont (path : String)
deriving DecidableEq, Repr

/-- What was told and asked while something was done. -/
structure Notices where
  boxes : List Box := []
  printed : List String := []
  actions : List Action := []
deriving DecidableEq, Repr

/-- First the one, then the other. -/
def Notices.append (a b : Notices) : Notices :=
  ⟨a.boxes ++ b.boxes, a.printed ++ b.printed, a.actions ++ b.actions⟩

instance : Append Notices := ⟨Notices.append⟩

/-- One message box. -/
def Notices.box (kind : BoxKind) (title text : String) : Notices := { boxes := [⟨kind, title, text⟩] }

/-- One printed line. -/
def Notices.line (text : String) : Notices := { printed := [text ++ "\n"] }

/-- One thing asked. -/
def Notices.action (a : Action) : Notices := { actions := [a] }

/-- Why a file could not be opened. -/
inductive FileError where
  | notFound (path : String)
  | isDirectory (path : String)
  | notDirectory (path : String)
  /-- A name in the path, or the path itself, is too long. -/
  | tooLong (path : String)
  /-- The path holds a NUL. -/
  | nulByte
deriving DecidableEq, Repr

/-- The message for a file that could not be opened. -/
def FileError.message : FileError → String
  | .notFound path =>
    "[Errno 2] No such file or directory: " ++ String.ofList (Text.quoted path.toList)
  | .isDirectory path => "[Errno 21] Is a directory: " ++ String.ofList (Text.quoted path.toList)
  | .notDirectory path => "[Errno 20] Not a directory: " ++ String.ofList (Text.quoted path.toList)
  | .tooLong path => "[Errno 36] File name too long: " ++ String.ofList (Text.quoted path.toList)
  | .nulByte => "embedded null byte"

end MsxWorkbench
