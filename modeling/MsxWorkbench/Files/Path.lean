import MsxWorkbench.Text.Lines
/-
# Paths

A path is a list of names below a root or below the current directory. Empty names and single dots
mean nothing, double dots are kept. One leading slash or three and more mean the root; exactly two
are kept as they are.
-/
namespace MsxWorkbench

/-- Where a path starts. -/
inductive PathRoot where
  /-- At the current directory. -/
  | relative
  | root
  /-- With two slashes. -/
  | double
deriving DecidableEq, Repr

/-- A path. -/
structure Path where
  root : PathRoot
  names : List String
deriving DecidableEq, Repr

namespace Path

/-- The path that a text writes. -/
def read (text : String) : Path :=
  let start := match text.toList with
    | '/' :: '/' :: '/' :: _ => PathRoot.root
    | '/' :: '/' :: _ => .double
    | '/' :: _ => .root
    | _ => .relative
  let names := (Text.splitAt '/' text.toList).filter fun n => n != [] && n != ['.']
  ⟨start, names.map String.ofList⟩

/-- The text that writes a path. -/
def text (p : Path) : String :=
  let below := "/".intercalate p.names
  match p.root with
  | .relative => if p.names.isEmpty then "." else below
  | .root => "/" ++ below
  | .double => "//" ++ below

/-- The path `q` taken from `p`: below it, or `q` itself if that starts at a root. -/
def join (p q : Path) : Path :=
  match q.root with
  | .relative => ⟨p.root, p.names ++ q.names⟩
  | _ => q

instance : HDiv Path String Path := ⟨fun p s => p.join (read s)⟩

/-- The last name; empty if there is none. -/
def name (p : Path) : String := p.names.getLast?.getD ""

/-- The path without its last name. -/
def parent (p : Path) : Path := { p with names := p.names.dropLast }

/-- A name cut before its last dot, if there is something on both sides of it. -/
def cutName (name : List Char) : List Char × List Char :=
  let ending := (name.reverse.takeWhile (· != '.')).reverse
  let front := name.take (name.length - ending.length - 1)
  if ending.isEmpty || front.isEmpty || ending.length == name.length then (name, [])
  else (front, '.' :: ending)

/-- The last name without its ending. -/
def stem (p : Path) : String := String.ofList (cutName p.name.toList).1

/-- The ending of the last name with its dot; empty if it has none. -/
def ending (p : Path) : List Char := (cutName p.name.toList).2

end Path

end MsxWorkbench
