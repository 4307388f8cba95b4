import MsxWorkbench.Text.Lines
import MsxWorkbench.Text.Word
import MsxWorkbench.Text.Case
import MsxWorkbench.Text.Integer
import MsxWorkbench.Program.Vocabulary
/-
# Program analysis

Which variables a listing uses and where it jumps. Only numbered lines count; of each, strings are
emptied and the remark is cut off before jumps and variables are looked for. An analysis is a state
that grows line by line. Once a summary was taken, the lines of the variables known then are final,
and meeting one of them again is an error.
-/
namespace MsxWorkbench.Program

/-! ## The code of a line -/

/-- The digits of the line number at the start of a line, after blanks, and what follows them. -/
def spanLineNumber? (line : List Char) : Option (List Char × List Char) :=
  let s := Text.trimLeft line
  let digits := s.takeWhile Text.isDigit
  if digits.isEmpty then none else some (digits, s.dropWhile Text.isDigit)

/-- The text with every closed string emptied. -/
def emptyStrings (s : List Char) : List Char :=
  match s with
  | [] => []
  | c :: rest =>
    if c = '"' then
      match _h : rest.dropWhile (· != '"') with
      | [] => c :: rest
      | _ :: after => '"' :: '"' :: emptyStrings after
    else c :: emptyStrings rest
termination_by s.length
decreasing_by
  · have := (List.dropWhile_sublist (l := rest) (· != '"')).length_le
    simp_all only [List.length_cons]; omega
  · simp

/-- Whether a remark starts here: an apostrophe or the letters REM. -/
def atRemark (s : List Char) : Bool :=
  s.head? == some Text.apostrophe || Text.startsFolded ['R', 'E', 'M'] s

/-- The text before the first remark. -/
def beforeRemark : List Char → List Char
  | [] => []
  | c :: rest => if atRemark (c :: rest) then [] else c :: beforeRemark rest

/-- The part of a line, after its number, that is analysed. -/
def codeOf (body : List Char) : List Char := beforeRemark (emptyStrings body)

/-! ## Jumps -/

/-- The two kinds of jump. -/
inductive JumpKind where
  | goto
  | gosub
deriving DecidableEq, Repr

/-- The word of a jump. -/
def JumpKind.name : JumpKind → String
  | .goto => "GOTO"
  | .gosub => "GOSUB"

/-- A jump word that ends at a word boundary, blanks and a number: the kind, the digits of the number
and the length of it all. -/
def matchJumpWord? (kind : JumpKind) (s : List Char) : Option (JumpKind × List Char × Nat) :=
  let word := kind.name.toList
  if Text.startsFolded word s then
    let rest := s.drop word.length
    let digits := (rest.dropWhile Text.isBlank).takeWhile Text.isDigit
    if Text.startsWord rest || digits.isEmpty then none
    else some (kind, digits, word.length + (rest.takeWhile Text.isBlank).length + digits.length)
  else none

/-- The jump written at the start of the text. -/
def matchJump? (s : List Char) : Option (JumpKind × List Char × Nat) :=
  (matchJumpWord? .goto s).or (matchJumpWord? .gosub s)

/-- The jumps of a text from left to right with the digits of their targets. The first `skip`
characters belong to the jump before, and `inWord` tells whether a word character came just before. -/
def scanJumps : Nat → Bool → List Char → List (JumpKind × List Char)
  | _, _, [] => []
  | skip + 1, _, c :: rest => scanJumps skip (Text.isWord c) rest
  | 0, inWord, c :: rest =>
    match if inWord then none else matchJump? (c :: rest) with
    | some (kind, digits, size) => (kind, digits) :: scanJumps (size - 1) (Text.isWord c) rest
    | none => scanJumps 0 (Text.isWord c) rest

/-- The jumps of a line's code. -/
def jumpsOf (code : List Char) : List (JumpKind × List Char) := scanJumps 0 false code

/-! ## Variables -/

/-- The type of a variable, given by the last character of its name. -/
inductive VariableType where
  | string
  | integer
  | single
  | double
deriving DecidableEq, Repr

namespace VariableType

/-- The type a suffix declares; without one a variable has single precision. -/
def ofSuffix : Option Char → VariableType
  | some '$' => .string
  | some '%' => .integer
  | some '#' => .double
  | _ => .single

/-- The short name of the type. -/
def name : VariableType → String
  | .string => "STR"
  | .integer => "INT"
  | .single => "SNG"
  | .double => "DBL"

/-- The bytes a variable takes. -/
def size : VariableType → Nat
  | .string => 3
  | .integer => 2
  | .single => 4
  | .double => 8

end VariableType

/-- Characters that may end a variable's name. -/
def isSuffix (c : Char) : Bool := c == '$' || c == '%' || c == '!' || c == '#'

/-- Characters of a name after the first. -/
def isNameChar (c : Char) : Bool := Text.isLatin c || c.isDigit

/-- The identifier at the start of the text and its suffix. One before an opening parenthesis loses
its suffix, or without one its last character; a single letter before a parenthesis is none. -/
def matchName? : List Char → Option (List Char × Option Char)
  | [] => none
  | c :: rest =>
    if Text.isLatin c then
      let tail := rest.takeWhile isNameChar
      match rest.dropWhile isNameChar with
      | [] => some (c :: tail, none)
      | d :: after =>
        if isSuffix d then
          if after.head? = some '(' then some (c :: tail, none) else some (c :: tail, some d)
        else if d = '(' then
          if tail.isEmpty then none else some (c :: tail.dropLast, none)
        else some (c :: tail, none)
    else none

/-- The identifiers of a text that start at a word boundary, from left to right. -/
def scanNames : Nat → Bool → List Char → List (List Char × Option Char)
  | _, _, [] => []
  | skip + 1, _, c :: rest => scanNames skip (Text.isWord c) rest
  | 0, inWord, c :: rest =>
    match if inWord then none else matchName? (c :: rest) with
    | some (name, suffix) =>
      (name, suffix) :: scanNames (name.length + suffix.toList.length - 1) (Text.isWord c) rest
    | none => scanNames 0 (Text.isWord c) rest

/-- Whether a word of more than two letters starts with a reserved word of at least two. -/
def startsReserved (word : List Char) : Bool :=
  word.length > 2 && reservedWords.any fun w => w.length ≥ 2 && w.toList.isPrefixOf word

/-- The variable an identifier names, in capital letters; none when it is a reserved word or starts
with one. -/
def variableOf? (name : List Char) (suffix : Option Char) : Option (List Char × VariableType) :=
  let word := Text.upper name
  let full := word ++ suffix.toList
  if isReserved word || startsReserved word || isReserved full then none
  else some (full, .ofSuffix suffix)

/-- The variables of a line's code, one entry for each occurrence. -/
def variablesOf (code : List Char) : List (List Char × VariableType) :=
  (scanNames 0 false code).filterMap fun (name, suffix) => variableOf? name suffix

/-! ## The state of an analysis -/

/-- A variable of the program. -/
structure Variable where
  name : List Char
  type : VariableType
  /-- The numbers of the lines that use it, each once. -/
  lines : List Nat
  count : Nat
  /-- Set once a summary has listed the lines. -/
  final : Bool
deriving DecidableEq, Repr

/-- A jump of the program. -/
structure Jump where
  source : Nat
  target : Nat
  kind : JumpKind
deriving DecidableEq, Repr

/-- What has been found so far (`MSXBasicAnalyzer`). -/
structure Analysis where
  vars : List Variable := []
  flow : List Jump := []
  /-- The targets of GOSUB, each once. -/
  subroutines : List Nat := []
deriving DecidableEq, Repr

/-- Why an analysis stopped. -/
inductive AnalysisError where
  | number (e : Text.IntegerError)
  | finalLines
deriving DecidableEq, Repr

/-- The message for an analysis that stopped. -/
def AnalysisError.message : AnalysisError → String
  | .number e => e.message
  | .finalLines => "'list' object has no attribute 'add'"

/-- The list with an element added at the end unless it is there. -/
def addOnce (xs : List Nat) (x : Nat) : List Nat := if xs.contains x then xs else xs ++ [x]

namespace Analysis

/-- Records one occurrence of a variable on a line. -/
def addVariable (line : Nat) (name : List Char) (type : VariableType) :
    List Variable → Except AnalysisError (List Variable)
  | [] => .ok [⟨name, type, [line], 1, false⟩]
  | v :: rest =>
    if v.name = name then
      if v.final then .error .finalLines
      else .ok ({ v with lines := addOnce v.lines line, count := v.count + 1 } :: rest)
    else (addVariable line name type rest).map (v :: ·)

/-- Records the occurrences of variables on a line up to the first that fails. -/
def addVariables (line : Nat) : Analysis → List (List Char × VariableType) →
    Analysis × Option AnalysisError
  | a, [] => (a, none)
  | a, (name, type) :: rest =>
    match addVariable line name type a.vars with
    | .ok vs => addVariables line { a with vars := vs } rest
    | .error e => (a, some e)

/-- Records one jump. -/
def addJump (a : Analysis) (j : Jump) : Analysis :=
  { a with
    flow := a.flow ++ [j]
    subroutines := if j.kind = .gosub then addOnce a.subroutines j.target else a.subroutines }

/-- Records the jumps of a line up to the first whose target cannot be read. -/
def addJumps (line : Nat) : Analysis → List (JumpKind × List Char) → Analysis × Option AnalysisError
  | a, [] => (a, none)
  | a, (kind, digits) :: rest =>
    match Text.readDigits digits with
    | .ok target => addJumps line (a.addJump ⟨line, target, kind⟩) rest
    | .error e => (a, some (.number e))

/-- Analyses one line. -/
def addLine (a : Analysis) (line : List Char) : Analysis × Option AnalysisError :=
  match spanLineNumber? line with
  | none => (a, none)
  | some (digits, body) =>
    match Text.readDigits digits with
    | .error e => (a, some (.number e))
    | .ok number =>
      let code := codeOf body
      match addJumps number a (jumpsOf code) with
      | (a, some e) => (a, some e)
      | (a, none) => addVariables number a (variablesOf code)

/-- Analyses lines up to the first that fails, which keeps what was recorded before. -/
def addLines : Analysis → List (List Char) → Analysis × Option AnalysisError
  | a, [] => (a, none)
  | a, line :: rest =>
    match a.addLine line with
    | (a, some e) => (a, some e)
    | (a, none) => addLines a rest

/-- Analyses a whole text (`analyze`). -/
def addText (a : Analysis) (text : List Char) : Analysis × Option AnalysisError :=
  a.addLines (Text.lines text)

/-- What an analysis reports. -/
structure Summary where
  vars : List Variable
  flow : List Jump
  subroutines : List Nat
  memory : Nat
deriving DecidableEq, Repr

/-- Whether the text `a` comes before `b`, by code points. -/
def textLe : List Char → List Char → Bool
  | [], _ => true
  | _ :: _, [] => false
  | a :: as, b :: bs => a < b || (a == b && textLe as bs)

/-- Makes the lines of every variable final and reports the state: variables by name, lines and
subroutines in increasing order, and the bytes that the variables take (`get_summary`). -/
def summarize (a : Analysis) : Analysis × Summary :=
  let vars := a.vars.map fun v =>
    { v with lines := v.lines.mergeSort (· ≤ ·), final := true }
  ({ a with vars },
    { vars := vars.mergeSort fun v w => textLe v.name w.name
      flow := a.flow
      subroutines := a.subroutines.mergeSort (· ≤ ·)
      memory := (vars.map fun v => v.type.size).foldl (· + ·) 0 })

end Analysis

end MsxWorkbench.Program
