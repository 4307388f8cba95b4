import MsxWorkbench.Program.Analysis
/-
# Renumbering

Gives the lines of a program new numbers, from a start in equal steps, and changes the references to
them. A line that had no number gets one; blank lines are dropped. References are the numbers, divided
by commas, that follow one of six words and at least one blank, wherever these stand in a line.
-/
namespace MsxWorkbench.Program

/-- A line of a program: its number, if it has one, and the rest without blanks around it. -/
structure Line where
  number : Option Nat
  body : List Char
deriving DecidableEq, Repr

/-- Reads a line. -/
def Line.read (line : List Char) : Except Text.IntegerError Line :=
  match spanLineNumber? line with
  | some (digits, rest) =>
    (Text.readDigits digits).map fun n => ⟨some n, Text.trim rest⟩
  | none => .ok ⟨none, Text.trim line⟩

/-- The lines of a program that are not blank. -/
def programLines (text : List Char) : Except Text.IntegerError (List Line) :=
  ((Text.rows (Text.trim text)).filter fun l => !Text.allBlank l).mapM Line.read

/-- How new numbers are given: the first one and the step. -/
structure Numbering where
  start : Int := 10
  increment : Int := 10
deriving DecidableEq, Repr

/-- The new number of the line at a position. -/
def Numbering.number (n : Numbering) (position : Nat) : Int := n.start + position * n.increment

/-- The lines with their new numbers. -/
def Numbering.assign (n : Numbering) (lines : List Line) : List (Line × Int) :=
  lines.zipIdx.map fun (l, i) => (l, n.number i)

/-- Old and new number of each line that had one. -/
def numberPairs (assigned : List (Line × Int)) : List (Int × Int) :=
  assigned.filterMap fun (l, n) => l.number.map fun (old : Nat) => ((old : Int), n)

/-! ## References -/

/-- The words that line numbers follow, in the order in which their references are changed. -/
def referenceWords : List (List Char) :=
  ["GOTO", "GOSUB", "THEN", "ELSE", "RESTORE", "RUN"].map String.toList

/-- The further numbers of a list, each after a comma with blanks around it, and how many characters
they take. -/
def moreNumbers (s : List Char) : List (List Char) × Nat :=
  let space := (s.takeWhile Text.isBlank).length
  match _h : s.drop space with
  | c :: after =>
    if c = ',' then
      let pad := (after.takeWhile Text.isBlank).length
      let digits := (after.drop pad).takeWhile Text.isDigit
      if digits.isEmpty then ([], 0)
      else
        let more := moreNumbers (after.drop (pad + digits.length))
        (digits :: more.1, space + 1 + pad + digits.length + more.2)
    else ([], 0)
  | [] => ([], 0)
termination_by s.length
decreasing_by
  have h := congrArg List.length ‹s.drop _ = _›
  simp only [List.length_drop, List.length_cons] at h ⊢
  omega

/-- A reference at the start of a text: the word with its blanks, the numbers and how many characters
it takes. -/
structure Reference where
  lead : List Char
  numbers : List (List Char)
  size : Nat
deriving DecidableEq, Repr

/-- The reference by a word at the start of a text. -/
def reference? (word s : List Char) : Option Reference :=
  if Text.startsFolded word s then
    let after := s.drop word.length
    let space := after.takeWhile Text.isBlank
    let digits := (after.drop space.length).takeWhile Text.isDigit
    if space.isEmpty || digits.isEmpty then none
    else
      let front := word.length + space.length
      let more := moreNumbers (s.drop (front + digits.length))
      some ⟨s.take front, digits :: more.1, front + digits.length + more.2⟩
  else none

/-- The text with the references by one word changed (`replace_func`); the first `skip` characters
belong to a reference already changed. -/
def updateFrom (lookup : List Char → Except Text.IntegerError (List Char)) (word : List Char) :
    Nat → List Char → Except Text.IntegerError (List Char)
  | _, [] => .ok []
  | skip + 1, _ :: rest => updateFrom lookup word skip rest
  | 0, c :: rest =>
    match reference? word (c :: rest) with
    | some r => do
      let numbers ← r.numbers.mapM lookup
      let more ← updateFrom lookup word (r.size - 1) rest
      return r.lead ++ [',', ' '].intercalate numbers ++ more
    | none => (updateFrom lookup word 0 rest).map (c :: ·)

/-- The text with all its references changed, word by word (`update_refs`). -/
def updateReferences (lookup : List Char → Except Text.IntegerError (List Char))
    (body : List Char) : Except Text.IntegerError (List Char) :=
  referenceWords.foldlM (fun text word => updateFrom lookup word 0 text) body

/-- The new text of a program: each new number, a blank and the body with its references changed. -/
def renumberLines (lookup : List Char → Except Text.IntegerError (List Char))
    (assigned : List (Line × Int)) : Except Text.IntegerError (List Char) := do
  let lines ← assigned.mapM fun (l, n) => do
    let body ← updateReferences lookup l.body
    return (← Text.writeInteger n) ++ ' ' :: body
  return Text.unrows lines

/-- The new number for a reference among the lines themselves, by value; a number that no line has
stays as it is. -/
def lookupAssigned (assigned : List (Line × Int)) (digits : List Char) :
    Except Text.IntegerError (List Char) := do
  let value ← Text.readDigits digits
  match assigned.find? fun (l, _) => l.number == some value with
  | some (_, n) => Text.writeInteger n
  | none => return digits

/-! ## Removing numbers -/

/-- A line without its number and the blanks around it. -/
def dropNumber (line : List Char) : List Char :=
  match spanLineNumber? line with
  | some (_, rest) => Text.trimLeft rest
  | none => line

/-- A program text without line numbers. -/
def dropNumbers (text : List Char) : List Char :=
  Text.unrows ((Text.rows (Text.trim text)).map dropNumber)

end MsxWorkbench.Program
