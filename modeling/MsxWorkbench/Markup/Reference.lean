import MsxWorkbench.Markup.NamedCharacters
import MsxWorkbench.Markup.Refusal
import MsxWorkbench.Text.Encoding
/-
# Character references

Attribute values may name characters: by number, `&#233;` or `&#xE9;`, or by name, `&eacute;`. The
semicolon of a number may be left out, that of a name only for the old names, and then the longest
old name at the front counts. What is no reference stays as it is. A decimal number with too many
digits refuses the text.
-/
namespace MsxWorkbench.Markup

open Text

/-- Code points that a number may not name: most controls and Unicode's noncharacters. -/
def isUnnameable (n : Nat) : Bool :=
  (1 ≤ n && n ≤ 8) || n == 0xB || (0xE ≤ n && n ≤ 0x1F) || (0x7F ≤ n && n ≤ 0x9F) ||
    (0xFDD0 ≤ n && n ≤ 0xFDEF) || n % 0x10000 == 0xFFFE || n % 0x10000 == 0xFFFF

/-- The text of a numeric reference. Zero and numbers that are no code points give the replacement
character, the numbers 0x80 to 0x9F the character of that byte in code page 1252. -/
def numbered (n : Nat) : List Char :=
  if n == 0 || (0xD800 ≤ n && n ≤ 0xDFFF) || 0x10FFFF < n then [Char.ofNat 0xFFFD]
  else if 0x80 ≤ n && n < 0xA0 then [(windowsChar? (UInt8.ofNat n)).getD (Char.ofNat n)]
  else if isUnnameable n then []
  else [Char.ofNat n]

/-- The text a name stands for. -/
def named? (name : List Char) : Option (List Char) :=
  (namedCharacters.find? fun n => n.1 == String.ofList name).map fun n => n.2.map Char.ofNat

/-- The text an old name stands for, with or without a semicolon. -/
def openNamed? (name : List Char) : Option (List Char) :=
  if openNames.contains (String.ofList name) then named? name else none

/-- The longest old name at the front of `name`, of at most `size` and at least two characters,
replaced by its text. -/
def openPart? (name : List Char) : Nat → Option (List Char)
  | size + 2 => ((openNamed? (name.take (size + 2))).map (· ++ name.drop (size + 2))).or
      (openPart? name (size + 1))
  | _ => none

/-- The text for a name, `closed` if a semicolon follows it; the semicolon is part of the result if
it was not used. -/
def nameText (name : List Char) (closed : Bool) : List Char :=
  let mark := if closed then [';'] else []
  match if closed then named? name else openNamed? name with
  | some text => text
  | none =>
    match openPart? name (name.length - 1) with
    | some text => text ++ mark
    | none => '&' :: name ++ mark

/-- May a character be part of a name? -/
def isNamePart (c : Char) : Bool := !(['\t', '\n', '\x0c', ' ', '<', '&', '#', ';'].contains c)

/-- The value of a hexadecimal digit. -/
def hexDigit? (c : Char) : Option Nat :=
  if '0' ≤ c && c ≤ '9' then some (c.toNat - 48)
  else if 'a' ≤ c && c ≤ 'f' then some (c.toNat - 87)
  else if 'A' ≤ c && c ≤ 'F' then some (c.toNat - 55)
  else none

/-- The number that digits of a base write. -/
def baseValue (base : Nat) (digits : List Char) : Nat :=
  digits.foldl (fun n c => n * base + (hexDigit? c).getD 0) 0

/-- One if a semicolon comes next. -/
def semicolon (s : List Char) : Nat := if s.head? == some ';' then 1 else 0

/-- The reference whose text after the ampersand starts `s`: what it stands for and how many
characters of `s` it takes. -/
def reference? (s : List Char) : Option (List Char × Nat) :=
  match s with
  | '#' :: x :: rest =>
    if x == 'x' || x == 'X' then
      let digits := rest.takeWhile fun c => (hexDigit? c).isSome
      if digits.isEmpty then none
      else some (numbered (baseValue 16 digits),
        2 + digits.length + semicolon (rest.drop digits.length))
    else
      let digits := (x :: rest).takeWhile Char.isDigit
      if digits.isEmpty then none
      else some (numbered (baseValue 10 digits),
        1 + digits.length + semicolon ((x :: rest).drop digits.length))
  | _ =>
    let name := (s.take 32).takeWhile isNamePart
    if name.isEmpty then none
    else
      let mark := semicolon (s.drop name.length)
      some (nameText name (mark == 1), name.length + mark)

/-- Replaces the references of a text; the first `skip` characters belong to one already replaced. -/
def expandFrom : Nat → List Char → List Char
  | _, [] => []
  | skip + 1, _ :: rest => expandFrom skip rest
  | 0, c :: rest =>
    if c = '&' then
      match reference? rest with
      | some (text, size) => text ++ expandFrom size rest
      | none => c :: expandFrom 0 rest
    else c :: expandFrom 0 rest

/-- The refusal of the decimal number at the start of a text, if it has too many digits. -/
def longNumber? (s : List Char) : Option Refusal :=
  let size := (s.takeWhile Char.isDigit).length
  if mostDigits < size then some (.number (.tooLong size)) else none

/-- The refusal of the first reference that has too many digits. -/
def longReference? : List Char → Option Refusal
  | [] => none
  | c :: rest =>
    (if c = '&' && rest.head? == some '#' then longNumber? rest.tail else none).or
      (longReference? rest)

/-- The text with its references replaced. -/
def expand (s : List Char) : Except Refusal (List Char) :=
  match longReference? s with
  | some r => .error r
  | none => .ok (expandFrom 0 s)

end MsxWorkbench.Markup
