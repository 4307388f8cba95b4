import MsxWorkbench.Json.Value
import MsxWorkbench.Text.Integer
/-
# Reading JSON

A reader for one value with blanks around it. It takes the words `NaN`, `Infinity` and `-Infinity` as
numbers, keeps the last of several equal keys, and reports the first fault with its place. Besides
texts that are no JSON it refuses whole numbers with too many digits and values nested too deeply; those
faults have no place.
-/
namespace MsxWorkbench.Json

/-- What can be wrong in a JSON text. -/
inductive Fault where
  | byteOrderMark
  | value
  | propertyName
  | colon
  | comma
  | controlCharacter
  | unterminated
  | escape
  | unicodeEscape
  | extraData
  /-- A whole number with too many digits. -/
  | number (error : Text.IntegerError)
  | deepObject
  | deepArray
deriving DecidableEq, Repr

/-- Is the text no JSON at all? -/
def Fault.isSyntactic : Fault → Bool
  | .number _ | .deepObject | .deepArray => false
  | _ => true

/-- The wording of a fault. -/
def Fault.text : Fault → String
  | .byteOrderMark => "Unexpected UTF-8 BOM (decode using utf-8-sig)"
  | .value => "Expecting value"
  | .propertyName => "Expecting property name enclosed in double quotes"
  | .colon => "Expecting ':' delimiter"
  | .comma => "Expecting ',' delimiter"
  | .controlCharacter => "Invalid control character at"
  | .unterminated => "Unterminated string starting at"
  | .escape => "Invalid \\escape"
  | .unicodeEscape => "Invalid \\uXXXX escape"
  | .extraData => "Extra data"
  | .number e => e.message
  | .deepObject =>
    "maximum recursion depth exceeded while decoding a JSON object from a unicode string"
  | .deepArray =>
    "maximum recursion depth exceeded while decoding a JSON array from a unicode string"

/-- A fault and how many characters of the text were left where it was found. -/
structure ReadError where
  fault : Fault
  left : Nat
deriving Repr

/-- The message for a fault in `text`; of a place in it, line and column count from one. -/
def ReadError.message (e : ReadError) (text : List Char) : String :=
  let offset := text.length - e.left
  let before := text.take offset
  let line := before.count '\n' + 1
  let column := (before.reverse.takeWhile (· != '\n')).length + 1
  if e.fault.isSyntactic then s!"{e.fault.text}: line {line} column {column} (char {offset})"
  else e.fault.text

/-- Blanks between the parts of a JSON text. -/
def isSpace (c : Char) : Bool := c == ' ' || c == '\t' || c == '\n' || c == '\r'

/-- The value of a hexadecimal digit. -/
def hexValue? (c : Char) : Option Nat :=
  if '0' ≤ c ∧ c ≤ '9' then some (c.toNat - 48)
  else if 'a' ≤ c ∧ c ≤ 'f' then some (c.toNat - 87)
  else if 'A' ≤ c ∧ c ≤ 'F' then some (c.toNat - 55)
  else none

/-- Four hexadecimal digits. -/
def hexWord? : List Char → Option (Nat × List Char)
  | a :: b :: c :: d :: rest => do
    let a ← hexValue? a
    let b ← hexValue? b
    let c ← hexValue? c
    let d ← hexValue? d
    some (((a * 16 + b) * 16 + c) * 16 + d, rest)
  | _ => none

/-- The character a one-letter escape stands for. -/
def simpleEscape? : Char → Option Char
  | '"' => some '"'
  | '\\' => some '\\'
  | '/' => some '/'
  | 'b' => some (Char.ofNat 8)
  | 'f' => some (Char.ofNat 12)
  | 'n' => some '\n'
  | 'r' => some '\r'
  | 't' => some '\t'
  | _ => none

/-- A second half of a surrogate pair at the start of the text; something must follow it. -/
def lowSurrogate? : List Char → Option (Nat × List Char)
  | '\\' :: 'u' :: rest => do
    let (low, rest) ← hexWord? rest
    if 0xDC00 ≤ low ∧ low ≤ 0xDFFF ∧ rest ≠ [] then some (low, rest) else none
  | _ => none

/-- The character of a Unicode escape whose first word is `high`; a half of a pair that stands alone
becomes the replacement character. -/
def unicodeEscape (high : Nat) (rest : List Char) : Char × List Char :=
  if 0xD800 ≤ high ∧ high ≤ 0xDBFF then
    match lowSurrogate? rest with
    | some (low, rest) => (Char.ofNat (0x10000 + (high - 0xD800) * 0x400 + (low - 0xDC00)), rest)
    | none => (Char.ofNat 0xFFFD, rest)
  else if 0xDC00 ≤ high ∧ high ≤ 0xDFFF then (Char.ofNat 0xFFFD, rest)
  else (Char.ofNat high, rest)

/-- The characters of a string up to its closing quote; `start` is what was left at the opening one
and `fuel` bounds the steps. -/
def readString (start : Nat) : Nat → List Char → List Char → Except ReadError (List Char × List Char)
  | 0, _, _ => .error ⟨.unterminated, start⟩
  | _ + 1, _, [] => .error ⟨.unterminated, start⟩
  | fuel + 1, acc, c :: rest =>
    if c == '"' then .ok (acc.reverse, rest)
    else if c.toNat < 0x20 then .error ⟨.controlCharacter, rest.length + 1⟩
    else if c == '\\' then
      match rest with
      | [] => .error ⟨.unterminated, start⟩
      | 'u' :: digits =>
        if digits.length ≤ 4 then .error ⟨.unicodeEscape, digits.length + 1⟩
        else match hexWord? digits with
          | some (word, after) =>
            let (d, after) := unicodeEscape word after
            readString start fuel (d :: acc) after
          | none => .error ⟨.unicodeEscape, digits.length + 1⟩
      | e :: after =>
        match simpleEscape? e with
        | some d => readString start fuel (d :: acc) after
        | none => .error ⟨.escape, rest.length + 1⟩
    else readString start fuel (c :: acc) rest

/-- ASCII digits at the start of the text. -/
def spanDigits (s : List Char) : List Char × List Char :=
  (s.takeWhile Char.isDigit, s.dropWhile Char.isDigit)

/-- The value of a run of ASCII digits. -/
def decimalValue (ds : List Char) : Nat := ds.foldl (fun n c => 10 * n + (c.toNat - 48)) 0

/-- A number at the start of the text. -/
def readNumber (text : List Char) : Except ReadError (Json × List Char) :=
  let (neg, s) := match text with
    | '-' :: r => (true, r)
    | _ => (false, text)
  let whole := match s with
    | '0' :: r => some (['0'], r)
    | _ => let (ds, r) := spanDigits s; if ds.isEmpty then none else some (ds, r)
  match whole with
  | none => .error ⟨.value, text.length⟩
  | some (ds, rest) =>
    let (fraction, afterFraction) := match rest with
      | '.' :: r => let (fs, r') := spanDigits r; if fs.isEmpty then ([], rest) else (fs, r')
      | _ => ([], rest)
    let exponent? : Option (Int × List Char) := match afterFraction with
      | e :: r =>
        if e == 'e' || e == 'E' then
          let (minus, r) := match r with
            | '-' :: r' => (true, r')
            | '+' :: r' => (false, r')
            | _ => (false, r)
          let (es, r') := spanDigits r
          if es.isEmpty then none
          else
            let n : Int := decimalValue es
            some (if minus then -n else n, r')
        else none
      | [] => none
    match exponent? with
    | some (e, r) =>
      .ok (.real (.ofDecimal neg (decimalValue (ds ++ fraction)) (e - fraction.length)), r)
    | none =>
      if fraction.isEmpty then
        match Text.readDigits ds with
        | .ok n => .ok (.int (if neg then -(n : Int) else n), rest)
        | .error e => .error ⟨.number e, text.length⟩
      else
        .ok (.real (.ofDecimal neg (decimalValue (ds ++ fraction)) (-fraction.length)), afterFraction)

/-- Removes a word from the start of the text. -/
def dropWord? (word : String) (s : List Char) : Option (List Char) :=
  if word.toList.isPrefixOf s then some (s.drop word.length) else none

/-- A word or a number at the start of the text. -/
def readAtom (s : List Char) : Except ReadError (Json × List Char) :=
  let words : List (String × Json) := [("null", .null), ("true", .bool true), ("false", .bool false),
    ("NaN", .real .nan), ("Infinity", .real (.infinite false)), ("-Infinity", .real (.infinite true))]
  match words.findSome? (fun (w, v) => (dropWord? w s).map (v, ·)) with
  | some r => .ok r
  | none => readNumber s

/-- How many arrays and objects may be open at once. -/
def deepest : Nat := 985

mutual

/-- One value at the start of the text. `room` is how many arrays and objects may still be opened, and
`fuel` bounds the steps. -/
def readValue (room : Nat) : Nat → List Char → Except ReadError (Json × List Char)
  | 0, s => .error ⟨.value, s.length⟩
  | fuel + 1, s =>
    match s with
    | '"' :: rest => do
      let (cs, rest) ← readString s.length (s.length + 1) [] rest
      pure (.str (String.ofList cs), rest)
    | '\x7b' :: rest =>
      if room = 0 then .error ⟨.deepObject, s.length⟩
      else match rest.dropWhile isSpace with
        | '\x7d' :: rest => .ok (.obj [], rest)
        | rest => readMembers (room - 1) fuel [] rest
    | '[' :: rest =>
      if room = 0 then .error ⟨.deepArray, s.length⟩
      else match rest.dropWhile isSpace with
        | ']' :: rest => .ok (.arr [], rest)
        | rest => readItems (room - 1) fuel [] rest
    | _ => readAtom s

/-- The members of an object from the first key on. -/
def readMembers (room : Nat) :
    Nat → List (String × Json) → List Char → Except ReadError (Json × List Char)
  | 0, _, s => .error ⟨.value, s.length⟩
  | fuel + 1, acc, s =>
    match s with
    | '"' :: rest => do
      let (key, rest) ← readString s.length (s.length + 1) [] rest
      let rest := rest.dropWhile isSpace
      match rest with
      | ':' :: rest =>
        let (value, rest) ← readValue room fuel (rest.dropWhile isSpace)
        let acc := putMember (String.ofList key) value acc
        match rest.dropWhile isSpace with
        | '\x7d' :: rest => .ok (.obj acc, rest)
        | ',' :: rest => readMembers room fuel acc (rest.dropWhile isSpace)
        | rest => .error ⟨.comma, rest.length⟩
      | _ => .error ⟨.colon, rest.length⟩
    | _ => .error ⟨.propertyName, s.length⟩

/-- The items of an array from the first on; `acc` holds the earlier ones, last first. -/
def readItems (room : Nat) : Nat → List Json → List Char → Except ReadError (Json × List Char)
  | 0, _, s => .error ⟨.value, s.length⟩
  | fuel + 1, acc, s => do
    let (value, rest) ← readValue room fuel s
    match rest.dropWhile isSpace with
    | ']' :: rest => .ok (.arr (value :: acc).reverse, rest)
    | ',' :: rest => readItems room fuel (value :: acc) (rest.dropWhile isSpace)
    | rest => .error ⟨.comma, rest.length⟩

end

/-- Reads a text that holds one value. -/
def read (text : List Char) : Except ReadError Json := do
  if text.head? = some (Char.ofNat 0xFEFF) then throw ⟨.byteOrderMark, text.length⟩
  let (value, rest) ← readValue deepest (2 * text.length + 2) (text.dropWhile isSpace)
  let rest := rest.dropWhile isSpace
  if rest.isEmpty then pure value else throw ⟨.extraData, rest.length⟩

end MsxWorkbench.Json
