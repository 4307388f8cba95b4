import MsxWorkbench.HexDump
import MsxWorkbench.Program.Tokens
import MsxWorkbench.Text.Case
import MsxWorkbench.Text.Encoding
/-
# What a file holds

The kind of a file is told by the ending of its name, if that is one of a picture, and else by its
bytes: a tokenised program, a text, or anything else.
-/
namespace MsxWorkbench.Viewer

/-- The kinds of picture files. -/
inductive PictureKind where
  | shape
  | alphabet
  | layout
  | screen
deriving DecidableEq, Repr

namespace PictureKind

/-- The kind that the ending of a name stands for, in any case of letters. -/
def ofEnding? (ending : List Char) : Option PictureKind :=
  match String.ofList (Text.lower ending) with
  | ".shp" => some .shape
  | ".alf" => some .alphabet
  | ".lay" => some .layout
  | ".scr" => some .screen
  | _ => none

/-- The name of the kind. -/
def name : PictureKind → String
  | .shape => "Graphos Shape"
  | .alphabet => "Graphos Alphabet"
  | .layout => "Graphos Layout"
  | .screen => "Graphos Screen 2"

/-- The tab that shows pictures of the kind. -/
def tab : PictureKind → String
  | .shape => "Shape"
  | .alphabet => "Alfabeto"
  | .layout => "Layout"
  | .screen => "Screen"

/-- The text that stands for a picture. -/
def note : PictureKind → String
  | .shape => "Arquivo SHP aberto no visualizador."
  | .alphabet => "Arquivo ALF aberto no visualizador."
  | .layout => "Arquivo LAY aberto no visualizador."
  | .screen => "Arquivo SCR aberto no visualizador."

end PictureKind

/-- What a file holds. -/
inductive Content where
  | picture (kind : PictureKind)
  | program (segments : List Program.Segment)
  | text (text : List Char)
  | binary (bytes : List UInt8)
deriving DecidableEq, Repr

namespace Content

/-- What a file with an ending and bytes holds. -/
def ofFile (ending : List Char) (bytes : List UInt8) : Except Program.TokenError Content :=
  match PictureKind.ofEnding? ending with
  | some kind => .ok (.picture kind)
  | none =>
    if Program.isTokenised bytes then (Program.segments bytes).map .program
    else .ok (match Text.decodeFile? bytes with
      | some s => .text s
      | none => .binary bytes)

/-- The name of the kind of a content. -/
def kindName : Content → String
  | .picture kind => kind.name
  | .program _ => "MSX BASIC"
  | .text _ => "Texto"
  | .binary _ => "Binario"

/-- The tab that shows the content. -/
def tab : Content → String
  | .picture kind => kind.tab
  | _ => "Conteudo"

end Content

/-- The tag that colours a kind of text in a listing (`_map_kind_to_tag`); plain text and unknown
kinds have none. -/
def tagOf? (kind : String) : Option String :=
  if ["command", "function", "string", "number", "comment", "line_number"].contains kind then
    some ("msx_" ++ kind)
  else none

/-- A piece of the text shown, with its tag. -/
structure Piece where
  text : List Char
  tag : Option String := none
deriving DecidableEq, Repr

/-- The pieces that show a content; empty ones are left out. -/
def Content.pieces (c : Content) : List Piece :=
  let all : List Piece := match c with
    | .picture kind => [⟨kind.note.toList, none⟩]
    | .program segments => segments.map fun s => ⟨s.text, tagOf? s.kind.name⟩
    | .text s => [⟨s, none⟩]
    | .binary bytes => [⟨HexDump.render bytes, none⟩]
  all.filter fun p => !p.text.isEmpty

end MsxWorkbench.Viewer
