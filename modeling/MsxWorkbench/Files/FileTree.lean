import MsxWorkbench.Files.Path
import MsxWorkbench.Notice
/-
# Files and folders

The files a program can reach: each has its place, a list of names from the root, and its bytes.
Folders exist where a file lies below them or where they were made.

A path with a NUL or with too long a name cannot be followed. Asked whether there is anything at the
path, the tree says no to the first and fails for the second.

The listing of a folder has the names of what lies in it, one to a line, or why it cannot be read.
-/
namespace MsxWorkbench

/-- Files by their places, in the order in which they were written, and the folders made. -/
structure FileTree where
  files : List (List String × List UInt8) := []
  folders : List (List String) := []

/-- What is found at a place. -/
inductive FileNode where
  | file (bytes : List UInt8)
  | folder

namespace FileTree

/-- Is there a folder at a place? -/
def isFolder (t : FileTree) (place : List String) : Bool :=
  place.isEmpty || t.folders.any place.isPrefixOf ||
    t.files.any fun f => place.isPrefixOf f.1 && place != f.1

/-- The place that names lead to from a folder; a double dot leads to the folder above. -/
def walk (t : FileTree) (place : List String) : List String → Option (List String)
  | [] => some place
  | n :: rest =>
    if !t.isFolder place then none
    else if n == ".." then t.walk place.dropLast rest
    else t.walk (place ++ [n]) rest

/-- The place of a path, taken from the current folder `here`. -/
def place? (t : FileTree) (here : List String) (p : Path) : Option (List String) :=
  t.walk (if p.root = .relative then here else []) p.names

/-- What is found at a path. -/
def find? (t : FileTree) (here : List String) (p : Path) : Option FileNode :=
  (t.place? here p).bind fun place =>
    match t.files.find? fun f => f.1 == place with
    | some f => some (.file f.2)
    | none => if t.isFolder place then some .folder else none

/-- The longest name, in bytes. -/
def longestName : Nat := 255

/-- The longest path, in bytes. -/
def longestPath : Nat := 4095

/-- Why a path cannot be followed to its end. A name is found too long where it is looked up, so the
folder above it has to be there. -/
def refusal? (t : FileTree) (here : List String) (p : Path) : Option FileError :=
  if p.text.toList.contains '\x00' then some .nulByte
  else if longestPath < p.text.utf8ByteSize then some (.tooLong p.text)
  else if p.names.zipIdx.any fun (name, n) => longestName < name.utf8ByteSize &&
      ((t.place? here { p with names := p.names.take n }).map t.isFolder).getD false then
    some (.tooLong p.text)
  else none

/-- Is there anything at a path? -/
def contains (t : FileTree) (here : List String) (p : Path) : Except FileError Bool :=
  match t.refusal? here p with
  | some .nulByte => .ok false
  | some e => .error e
  | none => .ok (t.find? here p).isSome

/-- Does a file stand where a folder above the path should be? -/
def isBlocked (t : FileTree) (here : List String) (p : Path) : Bool :=
  (List.range p.names.length).any fun n =>
    match t.find? here { p with names := p.names.take n } with
    | some (.file _) => true
    | _ => false

/-- Why there is nothing at a path where something was to be. -/
def absence (t : FileTree) (here : List String) (p : Path) : FileError :=
  if t.isBlocked here p then .notDirectory p.text else .notFound p.text

/-- The bytes of the file at a path. -/
def read (t : FileTree) (here : List String) (p : Path) : Except FileError (List UInt8) :=
  match t.refusal? here p, t.find? here p with
  | some e, _ => .error e
  | none, some (.file bytes) => .ok bytes
  | none, some .folder => .error (.isDirectory p.text)
  | none, none => .error (t.absence here p)

/-- May a file be written at a path? The folder for it has to be there. -/
def checkWrite (t : FileTree) (here : List String) (p : Path) : Except FileError Unit :=
  match t.refusal? here p, t.find? here p with
  | some e, _ => .error e
  | none, some (.file _) => .ok ()
  | none, some .folder => .error (.isDirectory p.text)
  | none, none =>
    match t.find? here p.parent with
    | some .folder => .ok ()
    | _ => .error (t.absence here p)

/-- The names of the files in the folder at a path; none if there is nothing there. -/
def fileNames (t : FileTree) (here : List String) (p : Path) : Except FileError (List String) := do
  if !(← t.contains here p) then return []
  match t.find? here p, t.place? here p with
  | some .folder, some place =>
    return t.files.filterMap fun f => if f.1.dropLast == place then f.1.getLast? else none
  | _, _ => throw (.notDirectory p.text)

/-- The names of all that lies in the folder at a path: its files and the folders in it. -/
def entryNames (t : FileTree) (here : List String) (p : Path) : Except FileError (List String) :=
  match t.find? here p, t.place? here p with
  | some (.file _), _ => .error (.notDirectory p.text)
  | some .folder, some place =>
    let places := t.files.map Prod.fst ++ t.folders
    .ok (places.filterMap fun q => if place.isPrefixOf q then q[place.length]? else none).eraseDups
  | _, _ => .error (.notFound p.text)

/-- Writes a file at a place, over what was there. -/
def write (t : FileTree) (place : List String) (bytes : List UInt8) : FileTree :=
  if t.files.any fun f => f.1 == place then
    { t with files := t.files.map fun f => if f.1 == place then (place, bytes) else f }
  else { t with files := t.files ++ [(place, bytes)] }

/-- Makes a folder. -/
def makeFolder (t : FileTree) (place : List String) : FileTree :=
  { t with folders := t.folders ++ [place] }

/-- Removes the file at a place. -/
def erase (t : FileTree) (place : List String) : FileTree :=
  { t with files := t.files.filter fun f => f.1 != place }

/-- The files below a folder, each with its names from there. -/
def below (t : FileTree) (folder : List String) : List (List String × List UInt8) :=
  t.files.filterMap fun f =>
    if folder.isPrefixOf f.1 && folder != f.1 then some (f.1.drop folder.length, f.2) else none

/-- The text printed for a folder. -/
def listing (t : FileTree) (here : List String) (folder : String) : String :=
  match t.entryNames here (Path.read folder) with
  | .ok names => String.join (("Files in " ++ folder ++ ":\n") :: names.map (· ++ "\n"))
  | .error e => "Error: " ++ e.message ++ "\n"

end FileTree

/-- The folder that is listed: where the sources of the character tables are kept. -/
def encodingFolder : String := "E:/msxWrite/msx-encoding"

end MsxWorkbench
