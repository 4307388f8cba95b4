import MsxWorkbench.Contents.Archive
import MsxWorkbench.Contents.PageView
/-
# The contents viewer

Shows the topics of a help archive as a tree of rows and the page of the selected row. A row's label
is an icon, a space and the topic's name. A row is told from others by its place in the tree. Rows are
only ever put behind the last one at their place's level, so a row keeps its place.
-/
namespace MsxWorkbench.Contents

/-- A row of the tree: its label, the path of its page and the rows below it. -/
inductive Row where
  | node (label : String) (page : String) (below : List Row)

namespace Row

/-- The label of a row. -/
def label : Row → String
  | .node label _ _ => label

/-- The path of a row's page. -/
def page : Row → String
  | .node _ page _ => page

/-- The rows below a row. -/
def children : Row → List Row
  | .node _ _ below => below

/-- The same row with other rows below it. -/
def withBelow (below : List Row) : Row → Row
  | .node label page _ => .node label page below

/-- The same row with another label. -/
def withLabel (label : String) : Row → Row
  | .node _ page below => .node label page below

end Row

/-- A place in a tree: from the top down, the number of a row among those of its level. The empty
place is the tree's own, above the topmost rows. -/
abbrev Place := List Nat

/-- What a place leads to from an item, where `children` gives the items right below one. -/
def itemFrom? {α : Type} (children : α → List α) : Place → α → Option α
  | [], x => some x
  | i :: place, x => (children x)[i]?.bind (itemFrom? children place)

/-- The item at a place. -/
def itemAt? {α : Type} (children : α → List α) : Place → List α → Option α
  | [], _ => none
  | i :: place, items => items[i]?.bind (itemFrom? children place)

/-- The rows right below a place. -/
def rowsBelow : Place → List Row → List Row
  | [], rows => rows
  | i :: place, rows => (rows[i]?.map fun r => rowsBelow place r.children).getD []

/-- Changes the rows right below a place. -/
def changeBelow (change : List Row → List Row) : Place → List Row → List Row
  | [], rows => change rows
  | i :: place, rows => rows.modify i fun r => r.withBelow (changeBelow change place r.children)

/-- Puts a new row behind the last one below a place, and tells its own place. -/
def insertRow (rows : List Row) (parent : Place) (label page : String) : List Row × Place :=
  (changeBelow (· ++ [.node label page []]) parent rows,
    parent ++ [(rowsBelow parent rows).length])

/-- Changes the label at a place. -/
def relabel (change : String → String) : Place → List Row → List Row
  | [], rows => rows
  | [i], rows => rows.modify i fun r => r.withLabel (change r.label)
  | i :: place, rows => rows.modify i fun r => r.withBelow (relabel change place r.children)

/-- The icon of a page. -/
def pageIcon : Char := '📄'

/-- The icon of a closed folder. -/
def folderIcon : Char := '📁'

/-- The icon of an open folder. -/
def openIcon : Char := '📂'

/-- A label. -/
def labelOf (icon : Char) (name : List Char) : String := String.ofList (icon :: ' ' :: name)

/-- The name in a label: what follows the icon and the space. -/
def nameIn (label : String) : List Char := label.toList.drop 2

mutual
/-- Inserts a row for a topic below a place, then the rows for the topics below it. -/
def addTopic (parent : Place) (rows : List Row) : Topic → List Row
  | .node name page below =>
    let icon := if below.isEmpty then pageIcon else folderIcon
    let (rows, place) := insertRow rows parent (labelOf icon name) page
    if below.isEmpty then rows else addTopics place rows below
/-- Inserts rows for topics below a place (`_populate_tree`). -/
def addTopics (parent : Place) (rows : List Row) : List Topic → List Row
  | [] => rows
  | t :: ts => addTopics parent (addTopic parent rows t) ts
end

mutual
/-- Looks for a row in a row's tree: the row itself, then those below it (`search_node`). -/
def searchRow (wanted : Row → Bool) : Row → Option Place
  | .node label page below =>
    if wanted (.node label page below) then some [] else searchRows wanted 0 below
/-- Looks for a row in the trees of rows, the first of which has the number `i`. The search ends at
the first row that is wanted. -/
def searchRows (wanted : Row → Bool) (i : Nat) : List Row → Option Place
  | [] => none
  | r :: rs =>
    match searchRow wanted r with
    | some place => some (i :: place)
    | none => searchRows wanted (i + 1) rs
end

/-- The viewer: the archives it can open, the rows it shows and the place of the selected one
(`CHMViewer`). -/
structure ContentsViewer where
  shelf : Shelf
  rows : List Row := []
  selected : Option Place := none

namespace ContentsViewer

/-- The window's title. -/
def title : String := "Leitor de CHM Moderno"

/-- The archive shown first. -/
def firstArchive : String := "MSXBIOS.CHM"

/-- The colours of the tree for an appearance: background, text and background of the selected
row. -/
def treeColors (appearance : String) : String × String × String :=
  if appearance == "Dark" then ("#2b2b2b", "white", "#1f538d") else ("#dbdbdb", "black", "#3a7ebf")

/-- The rows for an archive without topics: its pages (`_build_tree_from_files`). -/
def pageRows (pages : List Path) : List Row :=
  pages.foldl (fun rows p => (insertRow rows [] (labelOf pageIcon p.name.toList) p.text).1) []

/-- Shows an archive (`_load_chm`); one that is not there is reported and changes nothing. If its
table of contents is refused the archive has been unpacked, and the rows stay. -/
def load (v : ContentsViewer) (name : String) : ContentsViewer × Notices × Option Fault :=
  let path := Path.read name
  match v.shelf.tree.contains v.shelf.here path with
  | .error e => (v, {}, some (.file e))
  | .ok false => (v, .line ("Arquivo não encontrado: " ++ name), none)
  | .ok true =>
    match v.shelf.unpack path with
    | .error e => (v, {}, some (.file e))
    | .ok (shelf, archive, notices) =>
      match archive.topics shelf.tree with
      | .error r => ({ v with shelf }, notices, some (.markup r))
      | .ok topics =>
        let rows := addTopics [] [] topics
        let rows := if rows.isEmpty then pageRows (archive.pages shelf.tree) else rows
        ({ shelf, rows, selected := none }, notices, none)

/-- Opens the viewer. -/
def start (shelf : Shelf) (appearance : String) : ContentsViewer × Notices × Option Fault :=
  let (background, foreground, selected) := treeColors appearance
  let (v, notices, fault) := load { shelf } firstArchive
  (v, { actions := [.style background foreground, .styleSelected selected] } ++ notices, fault)

/-- The row at a place. -/
def rowAt? (v : ContentsViewer) (place : Place) : Option Row := itemAt? Row.children place v.rows

/-- The place of the first row with a name. -/
def place? (v : ContentsViewer) (name : String) : Option Place :=
  searchRows (fun r => nameIn r.label == name.toList) 0 v.rows

/-- Selects the first row whose page has the given path, in any case of letters
(`_select_tree_by_path`). -/
def selectPage (v : ContentsViewer) (path : List Char) : ContentsViewer :=
  match searchRows (fun r => Text.lower r.page.toList == Text.lower path) 0 v.rows with
  | some place => { v with selected := some place }
  | none => v

/-- Selects the row that a clicked link leads to (`_on_html_link_click`). Links name files with
slashes, and the row is looked for by the path with backslashes. -/
def followLink (v : ContentsViewer) (url : String) : ContentsViewer :=
  if url.isEmpty then v
  else
    let scheme := "file:///".toList
    let path := if scheme.isPrefixOf url.toList then url.toList.drop scheme.length else url.toList
    v.selectPage (path.map fun c => if c = '/' then '\\' else c)

/-- Exchanges the icon in front of a label. -/
def swapIcon (old new : Char) (label : String) : String :=
  match label.toList with
  | c :: rest => if c = old then String.ofList (new :: rest) else label
  | [] => label

/-- Changes the icon of the first row with a name. -/
def changeIcon (v : ContentsViewer) (name : String) (old new : Char) : ContentsViewer :=
  match v.place? name with
  | some place => { v with rows := relabel (swapIcon old new) place v.rows }
  | none => v

/-- Opens the folder with a name (`_on_tree_open`). -/
def expand (v : ContentsViewer) (name : String) : ContentsViewer :=
  v.changeIcon name folderIcon openIcon

/-- Closes the folder with a name (`_on_tree_close`). -/
def collapse (v : ContentsViewer) (name : String) : ContentsViewer :=
  v.changeIcon name openIcon folderIcon

/-- Selects the first row with a name, or none, and shows its page if that exists
(`_on_tree_select`). The link handler is off while the page loads. -/
def select (v : ContentsViewer) (view : PageView) (name : String) :
    ContentsViewer × Notices × Option Fault :=
  let v := { v with selected := v.place? name }
  match v.selected.bind v.rowAt? with
  | none => (v, {}, none)
  | some r =>
    if r.page.isEmpty then (v, {}, none)
    else
      match v.shelf.tree.contains v.shelf.here (Path.read r.page) with
      | .error e => (v, {}, some (.file e))
      | .ok false => (v, {}, none)
      | .ok true => (v, view.demand [.linkHandler false, .loadFile r.page, .linkHandler true])

/-- The label of the selected row. -/
def selectedLabel? (v : ContentsViewer) : Option String :=
  (v.selected.bind v.rowAt?).map Row.label

end ContentsViewer

end MsxWorkbench.Contents
