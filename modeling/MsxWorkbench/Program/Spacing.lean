import MsxWorkbench.Text.Blank
import MsxWorkbench.Text.Digit
import MsxWorkbench.Text.Case
import MsxWorkbench.Text.Quoted
import MsxWorkbench.Program.Vocabulary
/-
# Spacing of a line

Sets the blanks of one line of a listing: the line is cut into its number, strings, remark,
reserved words and the runs between them, and the parts are put together with one blank between them.
No blank goes between a function name and its parenthesis. Reserved words may be put in capitals.
-/
namespace MsxWorkbench.Program

/-- The reserved words, longest first. -/
def wordsByLength : List (List Char) :=
  (reservedWords.map String.toList).mergeSort fun v w => w.length ≤ v.length

/-- The longest reserved word whose letters, in any case, start the text. -/
def leadingWord? (s : List Char) : Option (List Char) :=
  wordsByLength.find? fun w => Text.startsUpper w s

/-- Whether the letters REM, in any case, start the text. -/
def atRemWord (s : List Char) : Bool := Text.startsUpper ['R', 'E', 'M'] s

/-- Operators that stand for themselves. -/
def isOperator (c : Char) : Bool := "=+-*/^\\<>:".toList.contains c

/-- Whether a run of other characters ends before this text. -/
def endsRun : List Char → Bool
  | [] => true
  | c :: rest =>
    Text.isBlank c || c == '"' || c == Text.apostrophe || atRemWord (c :: rest) || isOperator c ||
      (leadingWord? (c :: rest)).isSome

/-- The characters before the place where a run ends. -/
def runOf : List Char → List Char
  | [] => []
  | c :: rest => if endsRun (c :: rest) then [] else c :: runOf rest

/-- A string from its opening quote to the closing one, or to the end. -/
def stringOf (s : List Char) : List Char :=
  match s with
  | [] => []
  | quote :: rest =>
    let inner := rest.takeWhile (· != '"')
    quote :: inner ++ (rest.drop inner.length).take 1

/-- A reserved word in capitals unless the case is kept. -/
def casedWord (keepCase : Bool) (w : List Char) : List Char := if keepCase then w else Text.upper w

/-- The part at the start of a text that does not start with a blank. -/
def leadingPart (keepCase : Bool) (s : List Char) : List Char × Nat :=
  match s with
  | [] => ([], 0)
  | c :: rest =>
    if c = '"' then let t := stringOf s; (t, t.length)
    else if atRemWord s then (casedWord keepCase (s.take 3) ++ s.drop 3, s.length)
    else if c = Text.apostrophe then (s, s.length)
    else match leadingWord? s with
      | some w => (casedWord keepCase (s.take w.length), w.length)
      | none => if isOperator c then ([c], 1) else let t := c :: runOf rest; (t, t.length)

/-- The parts of a text; the first `skip` characters belong to the part before. -/
def scanParts (keepCase : Bool) : Nat → List Char → List (List Char)
  | _, [] => []
  | skip + 1, _ :: rest => scanParts keepCase skip rest
  | 0, c :: rest =>
    if Text.isBlank c then scanParts keepCase 0 rest
    else
      let (part, size) := leadingPart keepCase (c :: rest)
      part :: scanParts keepCase (size - 1) rest

/-- The line number of a line without the blanks before it, and the code after it. Only the code up to
a line feed belongs to a numbered line. -/
def splitNumber (line : List Char) : List Char × List Char :=
  let s := Text.trimLeft line
  let digits := s.takeWhile Text.isDigit
  if digits.isEmpty then ([], line)
  else (digits, (Text.trimLeft (s.dropWhile Text.isDigit)).takeWhile (· != '\n'))

/-- The parts of a line in order. A line number is followed by a part that is one blank. -/
def partsOf (keepCase : Bool) (line : List Char) : List (List Char) :=
  let (number, code) := splitNumber line
  (if number.isEmpty then [] else [number, [' ']]) ++ scanParts keepCase 0 code

/-- Whether a part opens a parenthesis that the next one may follow closely. -/
def callsNext (part : List Char) : Bool :=
  let w := Text.upper part
  isFunctionWord w || w.getLast? == some '('

/-- Whether a blank goes between the text so far, whose last part is `previous`, and `part`. -/
def needsBlank (soFar previous part : List Char) : Bool :=
  soFar.getLast? != some ' ' && part.head? != some ' ' &&
    !(callsNext previous && part.head? == some '(')

/-- Adds parts to the text so far. -/
def joinParts (soFar previous : List Char) : List (List Char) → List Char
  | [] => soFar
  | part :: rest =>
    let gap := if needsBlank soFar previous part then [' '] else []
    joinParts (soFar ++ gap ++ part) part rest

/-- The line with its blanks rewritten (`_beautify_line`). A line of blanks only is left as it
is. -/
def respace (keepCase : Bool) (line : List Char) : List Char :=
  if Text.allBlank line then line
  else match partsOf keepCase line with
    | [] => []
    | first :: rest => Text.trimRight (joinParts first first rest)

end MsxWorkbench.Program
