import MsxWorkbench.Editor.Margin
/-
# Places written as text

A place in the text is written as a point to count from and any number of steps from there:
`3.10` is column 10 of line 3, `insert` the cursor, `insert wordstart` the start of the cursor's word
and `end-1c` the character before the end.
-/
namespace MsxWorkbench.Editor

/-- A point to count from. -/
inductive Anchor where
  | point (line column : Int)
  | lineEnd (line : Int)
  | textEnd
  | cursor
  | selectionStart
  | selectionEnd
  /-- The start of the first visible line. -/
  | windowStart
deriving DecidableEq, Repr

/-- A step from a place to another. -/
inductive Step where
  | characters (n : Int)
  | lines (n : Int)
  | lineEnd
  | wordStart
  | wordEnd
deriving DecidableEq, Repr

/-- A place: a point and the steps from it. -/
structure Place where
  anchor : Anchor
  steps : List Step := []
deriving DecidableEq, Repr

/-! ## Reading -/

/-- The number at the start of a text, with its sign, and the rest. -/
def spanNumber (s : List Char) : Option (Int × List Char) :=
  let (negative, digits) := match s with
    | '-' :: rest => (true, rest)
    | '+' :: rest => (false, rest)
    | _ => (false, s)
  let word := digits.takeWhile Char.isDigit
  if word.isEmpty then none
  else
    let n : Int := word.foldl (fun n c => 10 * n + (c.toNat - 48 : Nat)) 0
    some (if negative then -n else n, digits.drop word.length)

/-- The text behind a word that it starts with. -/
def afterWord? (word : String) (s : List Char) : Option (List Char) :=
  if word.toList.isPrefixOf s then some (s.drop word.length) else none

/-- The point at the start of a text, and the rest. -/
def Anchor.read (s : List Char) : Option (Anchor × List Char) :=
  let words : List (String × Anchor) := [("insert", .cursor), ("end", .textEnd),
    ("sel.first", .selectionStart), ("sel.last", .selectionEnd), ("@0,0", .windowStart)]
  match words.findSome? fun (w, a) => (afterWord? w s).map fun rest => (a, rest) with
  | some found => some found
  | none =>
    match spanNumber s with
    | some (line, '.' :: rest) =>
      match afterWord? "end" rest with
      | some rest => some (.lineEnd line, rest)
      | none => (spanNumber rest).map fun (column, rest) => (.point line column, rest)
    | _ => none

/-- The step that a text starts with, and the number of its characters. -/
def Step.read (s : List Char) : Option (Step × Nat) :=
  let words : List (String × Step) :=
    [("lineend", .lineEnd), ("wordstart", .wordStart), ("wordend", .wordEnd)]
  match words.find? fun (w, _) => w.toList.isPrefixOf s with
  | some (w, step) => some (step, w.length)
  | none =>
    match spanNumber s with
    | some (n, rest) =>
      let size := s.length - rest.length
      if (afterWord? "line" rest).isSome then some (.lines n, size + 4)
      else if (afterWord? "c" rest).isSome then some (.characters n, size + 1)
      else none
    | none => none

/-- The steps of a text, with blanks between them; the first `skip` characters belong to a step already
read. -/
def readSteps : Nat → List Char → Option (List Step)
  | _, [] => some []
  | skip + 1, _ :: rest => readSteps skip rest
  | 0, ' ' :: rest => readSteps 0 rest
  | 0, c :: rest =>
    match Step.read (c :: rest) with
    | some (step, size) => (readSteps (size - 1) rest).map (step :: ·)
    | none => none

/-- Reads a place. -/
def Place.read (s : List Char) : Option Place := do
  let (anchor, rest) ← Anchor.read s
  return { anchor, steps := ← readSteps 0 rest }

/-! ## Positions -/

/-- The position of a point; the ends of a selection that is not there have none. -/
def Anchor.position? (a : Anchor) (view : View) (b : Buffer) : Option Nat :=
  match a with
  | .point line column => some (b.position line column)
  | .lineEnd line => some (b.lineEnd line)
  | .textEnd => some b.endPosition
  | .cursor => some b.cursor
  | .selectionStart => b.selection.map Prod.fst
  | .selectionEnd => b.selection.map Prod.snd
  | .windowStart => some (b.position view.top 0)

/-- The position a step leads to. -/
def Step.apply (b : Buffer) (position : Nat) : Step → Nat
  | .characters n => b.move position n
  | .lines n => b.moveLines position n
  | .lineEnd => b.lineEnd (b.spot position).line
  | .wordStart => b.wordStart position
  | .wordEnd => b.wordEnd position

/-- The position of a place. -/
def Place.position? (p : Place) (view : View) (b : Buffer) : Option Nat :=
  (p.anchor.position? view b).map fun n => p.steps.foldl (Step.apply b) n

end MsxWorkbench.Editor
