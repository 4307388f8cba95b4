import MsxWorkbench.Indexing
import MsxWorkbench.Text.Integer
/-
# Sources of character tables

Character tables are written as TypeScript: arrays of string literals, and for the Brazilian table
single assignments to an array. This module reads both. An item is a literal between apostrophes, in
which a backslash takes the next character with it.

A number may name half of a surrogate pair, which is no character. It stays an escape, a backslash, a
`u` and four digits; no other item is read as a text that starts like this.
-/
namespace MsxWorkbench.Charset

/-- Why a source could not be read. -/
inductive SourceError where
  | number (e : Text.IntegerError)
  | noCharacter
  | hugeNumber
  | noPlace
  | hugePlace
deriving DecidableEq, Repr

/-- The message for a source that could not be read. -/
def SourceError.message : SourceError → String
  | .number e => e.message
  | .noCharacter => "chr() arg not in range(0x110000)"
  | .hugeNumber => "Python int too large to convert to C int"
  | .noPlace => "list assignment index out of range"
  | .hugePlace => "cannot fit 'int' into an index-sized integer"

/-! ## Literals -/

/-- The text of a literal after its opening apostrophe, and what follows the closing one. -/
def spanLiteral? : List Char → Option (List Char × List Char)
  | [] => none
  | c :: rest =>
    if c = Text.apostrophe then some ([], rest)
    else if c = '\\' then
      match rest with
      | [] => none
      | d :: after =>
        if d = '\n' then none
        else (spanLiteral? after).map fun (text, r) => (c :: d :: text, r)
    else (spanLiteral? rest).map fun (text, r) => (c :: text, r)

/-- The literals of a text from left to right. The first `skip` characters belong to the literal
before. -/
def scanLiterals : Nat → List Char → List (List Char)
  | _, [] => []
  | skip + 1, _ :: rest => scanLiterals skip rest
  | 0, c :: rest =>
    if c = Text.apostrophe then
      match spanLiteral? rest with
      | some (text, _) => text :: scanLiterals (text.length + 1) rest
      | none => scanLiterals 0 rest
    else scanLiterals 0 rest

/-- How the escape by number starts. -/
def escapeStart : List Char := ['\\', 'u']

/-- Does a text stand for half of a surrogate pair? -/
def isLoneHalf (text : List Char) : Bool := escapeStart.isPrefixOf text

/-- The character with a number, written in hexadecimal, or half of a surrogate pair. -/
def textOfHex (digits : List Char) : Except SourceError (List Char) :=
  match Text.readInteger 16 digits with
  | .error e => .error (.number e)
  | .ok n =>
    if n < -2147483648 ∨ 2147483648 ≤ n then .error .hugeNumber
    else if n < 0 ∨ 0x110000 ≤ n then .error .noCharacter
    else if 0xD800 ≤ n ∧ n ≤ 0xDFFF then .ok (escapeStart ++ Text.hexDigits 4 n.toNat)
    else .ok [Char.ofNat n.toNat]

/-- Without an affix at the start. -/
def dropStart? (start s : List Char) : Option (List Char) :=
  if start.isPrefixOf s then some (s.drop start.length) else none

/-- The text a literal of an array stands for. Escapes other than the known ones stand for
themselves. -/
def itemText (item : List Char) : Except SourceError (List Char) :=
  if item = ['\\', '0'] then .ok [Char.ofNat 0]
  else match dropStart? ['\\', 'u', '\x7b'] item, item.getLast? with
    | some inner, some '\x7d' => textOfHex inner.dropLast
    | _, _ => match (dropStart? escapeStart item).or (dropStart? ['\\', 'x'] item) with
      | some digits => textOfHex digits
      | none =>
        if item = ['\\', Text.apostrophe] then .ok [Text.apostrophe]
        else if item = ['\\', '\\'] then .ok ['\\']
        else .ok item

/-! ## Arrays -/

/-- What is left of a text behind the first place where something is found. -/
def afterFirst? (drop? : List Char → Option (List Char)) : List Char → Option (List Char)
  | [] => drop? []
  | c :: rest =>
    match drop? (c :: rest) with
    | some after => some after
    | none => afterFirst? drop? rest

/-- The text before the first occurrence of a pattern. -/
def beforeFirst? (pattern : List Char) : List Char → Option (List Char)
  | [] => if pattern.isEmpty then some [] else none
  | c :: rest =>
    if pattern.isPrefixOf (c :: rest) then some []
    else (beforeFirst? pattern rest).map (c :: ·)

/-- Without a name at the start. A name is looked for as it is, as a pattern, and in a pattern a dollar is no
character: it stands for the end of the text, before which one line break may be left. -/
def dropName? : List Char → List Char → Option (List Char)
  | [], s => some s
  | c :: name, s =>
    if c = '$' then
      if s = [] ∨ s = ['\n'] then dropName? name s else none
    else (dropStart? [c] s).bind (dropName? name)

/-- Without the start of the declaration of an array at the start. -/
def dropOpening? (name s : List Char) : Option (List Char) := do
  let rest ← dropStart? "const ".toList s
  let rest ← dropName? name rest
  dropStart? ": string[] = [".toList rest

/-- What stands between the brackets of the first array declared with a name. -/
def arrayBody? (content name : List Char) : Option (List Char) := do
  let rest ← afterFirst? (dropOpening? name) content
  beforeFirst? [']', ';'] rest

/-- The texts of an array; `none` when no array of that name is found (`parse_ts_array`). -/
def readArray (content name : List Char) : Except SourceError (Option (List (List Char))) :=
  match arrayBody? content name with
  | none => .ok none
  | some body => ((scanLiterals 0 body).mapM itemText).map some

/-! ## Assignments -/

/-- Digits of the position in an assignment. -/
def isPositionDigit (c : Char) : Bool := c.isDigit || ('A' ≤ c && c ≤ 'F')

/-- An assignment at the start of the text: its position, its literal and its length. -/
def matchAssignment? (s : List Char) : Option (Nat × List Char × Nat) := do
  let opening := "chars[0x".toList
  let middle := " - 0x80] = '".toList
  let rest ← dropStart? opening s
  let digits := rest.takeWhile isPositionDigit
  if digits.isEmpty then none
  let rest ← dropStart? middle (rest.drop digits.length)
  let (text, rest) ← spanLiteral? rest
  if rest.head? ≠ some ';' then none
  let position := digits.foldl (fun n c => 16 * n + (Text.baseDigit? 16 c).getD 0) 0
  some (position, text, opening.length + digits.length + middle.length + text.length + 2)

/-- The assignments of a text from left to right. -/
def scanAssignments : Nat → List Char → List (Nat × List Char)
  | _, [] => []
  | skip + 1, _ :: rest => scanAssignments skip rest
  | 0, c :: rest =>
    match matchAssignment? (c :: rest) with
    | some (position, text, size) => (position, text) :: scanAssignments (size - 1) rest
    | none => scanAssignments 0 rest

/-- The text a literal of an assignment stands for: only the escape by number is known. -/
def assignedText (item : List Char) : Except SourceError (List Char) :=
  match dropStart? escapeStart item with
  | some digits => textOfHex digits
  | none => .ok item

/-- Sets one item of the high half of a table. -/
def assign (chars : List (List Char)) (position : Nat) (text : List Char) :
    Except SourceError (List (List Char)) :=
  match positionIn chars.length ((position : Int) - 0x80) with
  | .ok i => .ok (chars.set i text)
  | .error .outside => .error .noPlace
  | .error .beyondWord => .error .hugePlace

/-- Applies assignments in order. -/
def assignAll : List (List Char) → List (Nat × List Char) → Except SourceError (List (List Char))
  | chars, [] => .ok chars
  | chars, (position, item) :: rest => do
    let text ← assignedText item
    let chars ← assign chars position text
    assignAll chars rest

/-- The high half of a table with the assignments of a source applied to it
(`parse_brazilian_br`). -/
def readOverrides (content : List Char) (high : List (List Char)) :
    Except SourceError (List (List Char)) :=
  assignAll high (scanAssignments 0 content)

end MsxWorkbench.Charset
