import MsxWorkbench.Program.Analysis
/-
# Highlighting

Which parts of a line are shown in which colour: its number, its remark, its strings, the words of the
language and other numbers. The parts may overlap; they are found one kind after the other.
-/
namespace MsxWorkbench.Program

/-- What a part is shown as. -/
inductive Shade where
  | keyword
  | comment
  | string
  | number
  | lineNumber
  | function
deriving DecidableEq, Repr

namespace Shade

/-- The name of a shade. -/
def name : Shade → String
  | .keyword => "keyword"
  | .comment => "comment"
  | .string => "string"
  | .number => "number"
  | .lineNumber => "linenumber"
  | .function => "function"

end Shade

/-- A part of a line: its shade and the columns where it starts and ends. -/
structure ShadedPart where
  shade : Shade
  first : Nat
  last : Nat
deriving DecidableEq, Repr

/-- The line number of a line. -/
def lineNumberPart? (line : List Char) : Option ShadedPart :=
  let first := (line.takeWhile Text.isBlank).length
  (spanLineNumber? line).map fun (digits, _) => ⟨.lineNumber, first, first + digits.length⟩

/-- The remark of a line: from the first apostrophe or REM to the end. -/
def remarkPart? (line : List Char) : Option ShadedPart :=
  let first := (beforeRemark line).length
  if first < line.length then some ⟨.comment, first, line.length⟩ else none

/-- The closed strings of a text that starts at `column`; the first `skip` characters belong to one
already found. -/
def stringParts : Nat → Nat → List Char → List ShadedPart
  | _, _, [] => []
  | skip + 1, column, _ :: rest => stringParts skip (column + 1) rest
  | 0, column, c :: rest =>
    let inner := (rest.takeWhile (· != '"')).length
    if c = '"' && inner < rest.length then
      ⟨.string, column, column + inner + 2⟩ :: stringParts (inner + 1) (column + 1) rest
    else stringParts 0 (column + 1) rest

/-- A character of a word of the language. -/
def isWordPart (c : Char) : Bool := Text.isLatin c || c == '$'

/-- Is there a word boundary between two characters? -/
def isBoundary (before after : Option Char) : Bool :=
  (before.map Text.isWord).getD false != (after.map Text.isWord).getD false

/-- The longest length up to `size` at which a word may end in `s`. -/
def wordSize? (s : List Char) : Nat → Option Nat
  | 0 => none
  | n + 1 => if isBoundary s[n]? s[n + 1]? then some (n + 1) else wordSize? s n

/-- The shade of a word. -/
def wordShade? (word : List Char) : Option Shade :=
  let upper := Text.upper word
  if statementWords.any fun w => w.toList == upper then some .keyword
  else if isFunctionWord upper then some .function
  else none

/-- The words of a text that starts at `column` after the character `before`. -/
def wordParts : Nat → Nat → Option Char → List Char → List ShadedPart
  | _, _, _, [] => []
  | skip + 1, column, _, c :: rest => wordParts skip (column + 1) (some c) rest
  | 0, column, before, c :: rest =>
    let run := (c :: rest).takeWhile isWordPart
    match if isBoundary before (some c) then wordSize? (c :: rest) run.length else none with
    | some n =>
      ((wordShade? (run.take n)).map fun s => ⟨s, column, column + n⟩).toList ++
        wordParts (n - 1) (column + 1) (some c) rest
    | none => wordParts 0 (column + 1) (some c) rest

/-- The numbers of a text that starts at `column` after the character `before`, but for one that
starts at `except`. -/
def numberParts (except : Option Nat) : Nat → Nat → Option Char → List Char → List ShadedPart
  | _, _, _, [] => []
  | skip + 1, column, _, c :: rest => numberParts except skip (column + 1) (some c) rest
  | 0, column, before, c :: rest =>
    let run := ((c :: rest).takeWhile Text.isDigit).length
    if 0 < run && isBoundary before (some c) && isBoundary (c :: rest)[run - 1]? (c :: rest)[run]? then
      (if except = some column then [] else [⟨.number, column, column + run⟩]) ++
        numberParts except (run - 1) (column + 1) (some c) rest
    else numberParts except 0 (column + 1) (some c) rest

/-- The shaded parts of a line, in the order in which they are found. -/
def shadedParts (line : List Char) : List ShadedPart :=
  let number := lineNumberPart? line
  number.toList ++ (remarkPart? line).toList ++ stringParts 0 0 line ++ wordParts 0 0 none line ++
    numberParts (number.map (·.first)) 0 0 none line

end MsxWorkbench.Program
