import MsxWorkbench.Contents.Topic
import MsxWorkbench.Files.FileTree
import MsxWorkbench.Notice
import MsxWorkbench.Text.Encoding
/-
# Help archives

A help archive is unpacked once, by another program, into a folder named for it. Its table of
contents is then the first file there that ends in `.hhc`, or else the first that ends in `.hhk`.
-/
namespace MsxWorkbench.Contents

/-- What the unpacking of archives works on: the files there are, the current folder, the folder for
temporary files, and the files inside each archive by the archive's name. -/
structure Shelf where
  tree : FileTree := {}
  here : List String := ["work"]
  temporary : String := "/work/tmp"
  archives : List (String × List (String × List UInt8)) := []

/-- An unpacked archive (`CHMParser`). -/
structure Archive where
  folder : Path

/-- Unpacks an archive unless its folder is there already (`_decompile`). It fails if the folder
cannot be made. -/
def Shelf.unpack (s : Shelf) (path : Path) : Except FileError (Shelf × Archive × Notices) :=
  let folder := Path.read s.temporary / "msxwrite_chm" / path.stem
  match (s.tree.makeFolder folder.parent.names).refusal? s.here folder with
  | some e => .error e
  | none =>
    if (s.tree.find? s.here folder).isSome then .ok (s, ⟨folder⟩, {})
    else
      let files := ((s.archives.find? fun a => a.1 == path.name).map (·.2)).getD []
      let made := s.tree.makeFolder folder.names
      let tree := files.foldl (fun t f => t.write (folder / f.1).names f.2) made
      .ok ({ s with tree }, ⟨folder⟩,
        .action (.run ["hh.exe", "-decompile", folder.text, path.text]))

/-- The first file directly in the folder whose name ends as given. -/
def Archive.fileEnding? (a : Archive) (tree : FileTree) (ending : String) : Option (List UInt8) :=
  ((tree.below a.folder.names).find? fun f =>
    f.1.length == 1 && f.1.any fun n => ending.toList.isSuffixOf n.toList).map (·.2)

/-- The topics of an archive (`get_toc`). -/
def Archive.topics (a : Archive) (tree : FileTree) : Except Markup.Refusal (List Topic) :=
  match (a.fileEnding? tree ".hhc").or (a.fileEnding? tree ".hhk") with
  | some bytes => Contents.topics a.folder (Text.normalizeBreaks (Text.decodeLatin1 bytes))
  | none => .ok []

/-- The paths of the pages in an archive's folder: first those that end in `.htm`, then those that
end in `.html`. -/
def Archive.pages (a : Archive) (tree : FileTree) : List Path :=
  let files := (tree.below a.folder.names).map (·.1)
  let ending (e : String) := files.filter fun f =>
    e.toList.isSuffixOf (f.getLast?.getD "").toList
  (ending ".htm" ++ ending ".html").map fun f => ⟨a.folder.root, a.folder.names ++ f⟩

end MsxWorkbench.Contents
