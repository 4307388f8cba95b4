import MsxWorkbench.Markup.Element
import MsxWorkbench.Files.Path
/-
# Topics of a help archive

The table of contents of a help archive is a nested list in markup. An item of a list holds an object
whose parameters give its name and its page. The topics below an item are in a list inside it, or in
a list that follows it; of several, the last one counts.
-/
namespace MsxWorkbench.Contents

open Markup

/-- A topic: its name, the path of its page (empty if it has none) and the topics below it. -/
inductive Topic where
  | node (name : List Char) (page : String) (below : List Topic)

namespace Topic

/-- The name of a topic. -/
def name : Topic → List Char
  | .node name _ _ => name

/-- The path of a topic's page. -/
def page : Topic → String
  | .node _ page _ => page

/-- The topics below a topic. -/
def children : Topic → List Topic
  | .node _ _ below => below

/-- The same topic with other topics below it. -/
def withBelow (below : List Topic) : Topic → Topic
  | .node name page _ => .node name page below

end Topic

/-- The value of the last parameter of the given name, in any case of letters. -/
def parameter? (name : String) (params : List Element) : Option (List Char) :=
  (params.reverse.find? fun p =>
    Text.lower ((p.attribute? "name").getD []) == name.toList).map
    fun p => (p.attribute? "value").getD []

/-- Is this the object of a contents item? -/
def isSitemap (e : Element) : Bool :=
  e.isNamed "object" && e.attribute? "type" == some "text/sitemap".toList

/-- The path of a page below the archive's folder; backslashes divide names as slashes do. -/
def pagePath (folder : Path) (page : List Char) : String :=
  if page.isEmpty then ""
  else (folder / String.ofList (page.map fun c => if c = '\\' then '/' else c)).text

/-- The topic an object describes. A keyword names it if nothing else does. -/
def topicOf (folder : Path) (object : Element) : Topic :=
  let params := object.findAll fun e => e.isNamed "param"
  let name := (parameter? "name" params).getD []
  let name := if name.isEmpty then (parameter? "keyword" params).getD [] else name
  .node name (pagePath folder ((parameter? "local" params).getD [])) []

/-- Puts topics below the last one; nothing happens when there is none. -/
def putBelow (below : List Topic) : List Topic → List Topic
  | [] => []
  | t :: [] => [t.withBelow below]
  | t :: ts => t :: putBelow below ts

/-- The topics of a list's members, after the topics `before` that it already gave (`_parse_ul`). -/
def topicsAfter (folder : Path) (before : List Topic) : List Element → List Topic
  | [] => before
  | e :: rest =>
    if e.isNamed "li" then
      let here := before ++ ((e.find? isSitemap).map (topicOf folder)).toList
      match _h : e.find? fun d => d.isNamed "ul" with
      | some list =>
        topicsAfter folder (putBelow (topicsAfter folder [] list.children) here) rest
      | none => topicsAfter folder here rest
    else if e.isNamed "ul" then
      topicsAfter folder (putBelow (topicsAfter folder [] e.children) before) rest
    else topicsAfter folder before rest
termination_by es => Element.sizeAll es
decreasing_by
  all_goals simp only [Element.sizeAll]
  · have h := Element.find?_size ‹_›
    have := Element.sizeAll_children list
    omega
  all_goals
    have := Element.sizeAll_children e
    omega

/-- The topics of a table of contents: those of the first list in it. -/
def topics (folder : Path) (text : List Char) : Except Refusal (List Topic) :=
  (elements text).map fun es =>
    match Element.findIn? (fun e => e.isNamed "ul") es with
    | some list => topicsAfter folder [] list.children
    | none => []

end MsxWorkbench.Contents
