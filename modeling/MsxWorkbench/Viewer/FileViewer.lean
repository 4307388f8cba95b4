import MsxWorkbench.Files.FileTree
import MsxWorkbench.Gallery.AlphabetViewer
import MsxWorkbench.Gallery.LayoutViewer
import MsxWorkbench.Gallery.ScreenViewer
import MsxWorkbench.Gallery.ShapeViewer
import MsxWorkbench.Indexing
import MsxWorkbench.Settings.Theme
import MsxWorkbench.Viewer.Content
/-
# The file viewer

Lists the files of a folder and shows one of them: a picture in the viewer for its kind, a program as
a coloured listing, a text, or a dump of the bytes. The store remembers the folder, the last file, the
files opened and the looks of the window.
-/
namespace MsxWorkbench.Viewer

open Settings

/-- What the viewer finds around it. -/
structure Desk where
  tree : FileTree := {}
  /-- The current folder. -/
  here : List String := ["work"]
  /-- The time, in seconds. -/
  clock : Int := 0
  /-- Can the screen font be loaded if it is there? -/
  fontLoads : Bool := true

/-- The file viewer (`MSXViewer`). -/
structure FileViewer where
  store : Store
  appearance : String
  palette : String
  geometry : Option String
  /-- The font's name and size. -/
  font : String × Nat
  folder : String
  /-- The names of the files listed. -/
  names : List String := []
  status : String := ""
  label : String := "Selecione um arquivo"
  /-- The file shown and what it holds. -/
  current : Option (String × Content) := none
  tab : String := ""
  /-- The text shown. -/
  pieces : List Piece := []
  themeName : String
  colors : Theme
  /-- The chosen background; empty for the window's own. -/
  background : String
  foreground : String
  shapes : Gallery.ShapeViewer := {}
  alphabets : Gallery.AlphabetViewer := {}
  layouts : Gallery.LayoutViewer := {}
  screens : Gallery.ScreenViewer := {}

namespace FileViewer

/-- The text shown. -/
def text (v : FileViewer) : List Char := v.pieces.flatMap Piece.text

/-- Names in the order of the list: by their letters in lower case. -/
def sortNames (names : List String) : List String :=
  names.mergeSort fun a b =>
    Program.Analysis.textLe (Text.lower a.toList) (Text.lower b.toList)

/-- Lists the files of the folder (`_refresh_file_list`). -/
def refresh (v : FileViewer) (desk : Desk) : FileViewer × Option FileError :=
  match desk.tree.fileNames desk.here (Path.read v.folder) with
  | .error e => ({ v with names := [] }, some e)
  | .ok names =>
    ({ v with names := sortNames names, status := s!"{names.length} arquivos encontrados" }, none)

/-- Shows a picture in the viewer for its kind. -/
def showPicture (v : FileViewer) (kind : PictureKind) (name : String) (bytes : List UInt8) :
    FileViewer × Notices :=
  match kind with
  | .shape =>
    let (shapes, n) := v.shapes.setFile (.ok bytes)
    ({ v with shapes }, n)
  | .alphabet =>
    let (alphabets, n) := v.alphabets.setFile (.ok bytes)
    ({ v with alphabets }, n)
  | .layout =>
    let (layouts, n) := v.layouts.setFile name (.ok bytes)
    ({ v with layouts }, n)
  | .screen =>
    let (screens, n) := v.screens.setFile (.ok bytes)
    ({ v with screens }, n)

/-- Shows what a file holds. -/
def showContent (v : FileViewer) (name : String) (bytes : List UInt8) (c : Content) :
    FileViewer × Notices :=
  let (v, n) := match c with
    | .picture kind => v.showPicture kind name bytes
    | _ => (v, {})
  ({ v with tab := c.tab, pieces := c.pieces, label := s!"{name} ({c.kindName})" }, n)

/-- Remembers that a file was opened. -/
def remember (store : Store) (path : String) (clock : Int) : Store :=
  let store := store.set "last_file" path
  match store.touch (.text path) (.int clock) with
  | .ok store => store
  | .error _ => store

/-- Opens a file (`_open_file`). -/
def openFile (v : FileViewer) (desk : Desk) (file : String) : FileViewer × Notices :=
  let path := Path.read file
  let failed (message : String) : FileViewer × Notices := (v, .box .error "Erro ao abrir" message)
  match desk.tree.read desk.here path with
  | .error e => failed e.message
  | .ok bytes =>
    match Content.ofFile path.ending bytes with
    | .error e => failed e.message
    | .ok content =>
      let (v, n) := v.showContent path.name bytes content
      ({ v with current := some (file, content), store := remember v.store file desk.clock }, n)

/-- Opens the file that was opened last, in its folder, if it is still there (`_load_last_file`). -/
def openLast (v : FileViewer) (desk : Desk) : FileViewer × Notices × Option FileError :=
  match v.store.text? "last_file" with
  | none => (v, {}, none)
  | some last =>
    let path := Path.read last
    if last.isEmpty then (v, {}, none)
    else
      match desk.tree.contains desk.here path with
      | .error e => (v, {}, some e)
      | .ok false => (v, {}, none)
      | .ok true =>
        match { v with folder := path.parent.text }.refresh desk with
        | (v, some e) => (v, {}, some e)
        | (v, none) =>
          let (v, n) := v.openFile desk path.text
          (v, n, none)

/-- The file of the screen font. -/
def fontFile : String := "MSX-Screen0.ttf"

/-- The font of the text: that of the machine if it can be loaded (`_load_fonts`). -/
def loadFont (desk : Desk) : (String × Nat) × Notices :=
  if (desk.tree.find? desk.here (Path.read fontFile)).isSome && desk.fontLoads then
    (("MSX Screen 0", 14), .action (.loadFont fontFile))
  else (("Consolas", 12), {})

/-- Asks for the looks of the window. -/
def wear (appearance palette : String) : Notices :=
  { actions := [.appearance appearance, .theme palette] }

/-- The viewer before it has listed any file. -/
def unlisted (desk : Desk) (store : Store) : FileViewer :=
  let geometry := store.get "window_geometry" "1100x700"
  let colors := store.colors
  { store
    appearance := store.get "appearance_mode" "System"
    palette := store.get "color_theme" "blue"
    geometry := if geometry.isEmpty then none else some geometry
    font := (loadFont desk).1
    folder := store.get "last_dir" (Path.mk .root desk.here).text
    themeName := store.get themeKey Theme.defaultName
    colors
    background := colors.background
    foreground := colors.foreground }

/-- Opens the viewer on a store. -/
def start (desk : Desk) (store : Store) : Except FileError FileViewer × Notices :=
  let v := unlisted desk store
  let asked := wear v.appearance v.palette ++ (loadFont desk).2
  match v.refresh desk with
  | (_, some e) => (.error e, asked)
  | (v, none) =>
    match v.openLast desk with
    | (_, n, some e) => (.error e, asked ++ n)
    | (v, n, none) => (.ok v, asked ++ n)

/-- Goes to another folder (`_choose_directory`); an empty path means that none was chosen. -/
def chooseFolder (v : FileViewer) (desk : Desk) (path : String) : FileViewer × Option FileError :=
  if path.isEmpty then (v, none)
  else { v with folder := path, store := v.store.set "last_dir" path }.refresh desk

/-- Opens the file of a row of the list (`_on_file_select`); there may be no such row. -/
def select (v : FileViewer) (desk : Desk) (row : Int) : Except PositionError (FileViewer × Notices) :=
  (itemAt v.names row).map fun name => v.openFile desk (Path.read v.folder / name).text

/-- Does a file hold a tokenised program (`_looks_like_msx_basic`)? One that cannot be opened
does not; a path with a NUL is an error. -/
def looksTokenised (desk : Desk) (path : String) : Except FileError Bool :=
  match desk.tree.read desk.here (Path.read path) with
  | .ok bytes => .ok (Program.isTokenised bytes)
  | .error .nulByte => .error .nulByte
  | .error _ => .ok false

/-- Closes the window, which then has the given size and place (`_on_close`). -/
def close (v : FileViewer) (geometry : String) : FileViewer :=
  { v with store := v.store.set "window_geometry" geometry }

end FileViewer

end MsxWorkbench.Viewer
