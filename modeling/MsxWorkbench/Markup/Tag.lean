import MsxWorkbench.Markup.Reference
import MsxWorkbench.Text.Blank
import MsxWorkbench.Text.Case
import MsxWorkbench.Text.Quoted
/-
# Tags of a marked-up text

The opening and closing tags of a text, in order. Comments, declarations, instructions and plain text
give none. Reading is lenient: names are lower-cased, values may be bare or quoted, an attribute may
have no value, and markup that never ends is text. `Refusal` says what is refused all the same.

Each reader says how many characters it takes, so that one scan over the text meets every character
once.
-/
namespace MsxWorkbench.Markup

open Text

/-- An attribute of a tag. -/
structure Attribute where
  name : List Char
  value : List Char
deriving DecidableEq, Repr

/-- A tag. -/
inductive Tag where
  /-- An opening tag; `closed` if it ends in a slash. -/
  | opening (name : List Char) (attributes : List Attribute) (closed : Bool)
  | closing (name : List Char)
deriving DecidableEq, Repr

/-- What stands at a position that starts markup. -/
inductive Reading where
  | tag (tag : Tag) (size : Nat)
  /-- Markup without a tag, or text. -/
  | other (size : Nat)
  /-- Markup whose end is missing. -/
  | unfinished
  /-- Markup for which the whole text is refused. -/
  | refused (refusal : Refusal)
deriving DecidableEq, Repr

/-! ## Attributes -/

/-- A quotation mark of a value. -/
def isQuote (c : Char) : Bool := c == '"' || c == apostrophe

/-- How many characters of blank space and slashes come first. The slash that ends a tag is not
among them. -/
def gapSize : List Char → Nat
  | [] => 0
  | c :: rest =>
    if isBlank c || (c == '/' && rest.head? != some '>') then gapSize rest + 1 else 0

/-- A character of a value without quotation marks. -/
def isBare (c : Char) : Bool := !isBlank c && c != '>'

/-- The value after an attribute's name and how many characters it takes with its equals signs. A
quotation mark that is never closed starts no value: if blank space comes before it the value is
empty, if a second equals sign does the value starts there. -/
def value? (s : List Char) : Option (List Char × Nat) :=
  let space := s.takeWhile isBlank
  let signs := (s.drop space.length).takeWhile (· == '=')
  let after := s.drop (space.length + signs.length)
  let pad := after.takeWhile isBlank
  let start := after.drop pad.length
  let front := space.length + signs.length + pad.length
  if signs.isEmpty then none
  else
    match start with
    | [] => some ([], front)
    | q :: body =>
      let bare := start.takeWhile isBare
      if isQuote q then
        let inner := body.takeWhile (· != q)
        if inner.length < body.length then some (inner, front + inner.length + 2)
        else if !pad.isEmpty then some ([], front - 1)
        else if 1 < signs.length then some ('=' :: bare, front + bare.length)
        else none
      else some (bare, front + bare.length)

/-- May an attribute's name start with `c` after `before`? -/
def startsAttribute (before c : Char) : Bool :=
  (isQuote before || isBlank before || before == '/') && !isBlank c && c != '/' && c != '>'

/-- A later character of an attribute's name. -/
def isAttributePart (c : Char) : Bool := !isBlank c && c != '/' && c != '=' && c != '>'

/-- The attributes that come first, with their values as written, and how many characters they take
with the gaps after them.
`before` is the character before the text; the first `skip` characters belong to an attribute
already read. -/
def attributesFrom : Nat → Char → List Char → List Attribute × Nat
  | _, _, [] => ([], 0)
  | skip + 1, _, c :: rest =>
    let more := attributesFrom skip c rest
    (more.1, more.2 + 1)
  | 0, before, c :: rest =>
    if startsAttribute before c then
      let tail := rest.takeWhile isAttributePart
      let value := value? (rest.drop tail.length)
      let size := tail.length + (value.map (·.2)).getD 0
      let more := attributesFrom (size + gapSize (rest.drop size)) c rest
      (⟨lower (c :: tail), (value.map (·.1)).getD []⟩ :: more.1, more.2 + 1)
    else ([], 0)

/-- The attribute with the references in its value replaced. -/
def Attribute.expanded (a : Attribute) : Except Refusal Attribute :=
  (expand a.value).map fun value => { a with value }

/-! ## Tags -/

/-- A Latin letter without accents. -/
def isLetter (c : Char) : Bool := ('a' ≤ c && c ≤ 'z') || ('A' ≤ c && c ≤ 'Z')

/-- A character of a tag's name. -/
def isTagPart (c : Char) : Bool :=
  !(['\t', '\n', '\r', '\x0c', ' ', '/', '>', '\x00'].contains c)

/-- The opening tag whose text after `<` is `s`, which starts with a letter. -/
def readOpening (s : List Char) : Reading :=
  let name := s.takeWhile isTagPart
  let rest := s.drop name.length
  let gap := gapSize rest
  let before := ((s.take (name.length + gap)).getLast?).getD '<'
  let found := attributesFrom 0 before (rest.drop gap)
  let size := 1 + name.length + gap + found.2
  let reading (f : List Attribute → Reading) : Reading :=
    match found.1.mapM Attribute.expanded with
    | .ok attributes => f attributes
    | .error r => .refused r
  match rest.drop (gap + found.2) with
  | '>' :: _ => reading fun attributes => .tag (.opening (lower name) attributes false) (size + 1)
  | '/' :: '>' :: _ => reading fun attributes => .tag (.opening (lower name) attributes true) (size + 2)
  | [] => .unfinished
  | c :: _ => if isLetter c || c == '=' then .unfinished else reading fun _ => .other size

/-- How many characters there are up to the first `>` and with it. -/
def throughEnd? : List Char → Option Nat
  | [] => none
  | c :: rest => if c = '>' then some 1 else (throughEnd? rest).map (· + 1)

/-- The reading that takes `front` characters and those up to the first `>`. -/
def skipPast (front : Nat) (s : List Char) : Reading :=
  match throughEnd? s with
  | some n => .other (front + n)
  | none => .unfinished

/-- A character of a plain closing tag's name. -/
def isPlainPart (c : Char) : Bool :=
  isLetter c || c.isDigit || c == '-' || c == '.' || c == ':' || c == '_'

/-- The name of a plain closing tag whose text after `</` is `s`: a name with blank space around
it. -/
def plainClosing? (s : List Char) : Option (List Char) :=
  let start := s.dropWhile isBlank
  let name := start.takeWhile isPlainPart
  if (start.head?.map isLetter) == some true &&
      ((start.drop name.length).dropWhile isBlank).head? == some '>' then some name
  else none

/-- The closing tag whose text after `</` is `s`. -/
def readClosing (s : List Char) : Reading :=
  match throughEnd? s with
  | none => .unfinished
  | some size =>
    match plainClosing? s with
    | some name => .tag (.closing (lower name)) (2 + size)
    | none =>
      match s with
      | c :: _ =>
        if isLetter c then .tag (.closing (lower (s.takeWhile isTagPart))) (2 + size)
        else .other (2 + size)
      | [] => .unfinished

/-! ## Other markup -/

/-- How many characters there are up to the first place where `stop` takes some, and with them. -/
def through? (stop : List Char → Option Nat) : List Char → Option Nat
  | [] => none
  | c :: rest =>
    match stop (c :: rest) with
    | some n => some n
    | none => (through? stop rest).map (· + 1)

/-- The characters `marks` with blank space between them. -/
def spaced? : List Char → List Char → Option Nat
  | [], _ => some 0
  | _ :: _, [] => none
  | mark :: marks, c :: rest =>
    if mark = c then
      let pad := if marks.isEmpty then 0 else (rest.takeWhile isBlank).length
      (spaced? marks (rest.drop pad)).map (· + pad + 1)
    else none

/-- The end of a comment. -/
def commentEnd? : List Char → Option Nat
  | '-' :: s => (spaced? ['-', '>'] s).map (· + 1)
  | _ => none

/-- Does a text start with a word, whatever the case of its letters? -/
def startsWith (word s : List Char) : Bool := lower (s.take word.length) == word

/-- A character of a section's name, which starts with a letter. -/
def isSectionPart (c : Char) : Bool :=
  isLetter c || c.isDigit || c == '-' || c == '_' || c == '.'

/-- The characters that end a section of the given name. -/
def sectionEnd? (name : String) : Option (List Char) :=
  if ["temp", "cdata", "ignore", "include", "rcdata"].contains name then some [']', ']', '>']
  else if ["if", "else", "endif"].contains name then some [']', '>']
  else none

/-- A section whose text after `<![` is `s`. One whose name goes on to the end of the text is
unfinished, whatever the name. -/
def readSection (s : List Char) : Reading :=
  let name := s.takeWhile isSectionPart
  let front := name ++ (s.drop name.length).takeWhile isBlank
  match s with
  | [] => .unfinished
  | c :: _ =>
    if !isLetter c then .refused (.unnamedSection (("<![".toList ++ s).take 20))
    else if front.length = s.length then .unfinished
    else
      match sectionEnd? (String.ofList (lower name)) with
      | none => .refused (.unknownSection front)
      | some marks =>
        match through? (spaced? marks) s with
        | some n => .other (3 + n)
        | none => .unfinished

/-- What stands at the start of a text that begins with `<`, whose rest is `s`. -/
def readMarkup (s : List Char) : Reading :=
  match s with
  | [] => .unfinished
  | '/' :: rest => readClosing rest
  | '?' :: rest => skipPast 2 rest
  | '!' :: '-' :: '-' :: rest =>
    match through? commentEnd? rest with
    | some n => .other (4 + n)
    | none => .unfinished
  | '!' :: '[' :: rest => readSection rest
  | '!' :: rest =>
    if startsWith "doctype".toList rest then skipPast 9 (rest.drop 7) else skipPast 2 rest
  | c :: _ => if isLetter c then readOpening s else .other 1

/-! ## The scan -/

/-- Elements whose content is raw: only their own closing tag ends it. -/
def isRaw (name : List Char) : Bool := name == "script".toList || name == "style".toList

/-- The size of the closing tag of a raw element at the start of a text. -/
def rawEnd? (name : List Char) : List Char → Option Nat
  | '<' :: '/' :: rest =>
    let pad := (rest.takeWhile isBlank).length
    if startsWith name (rest.drop pad) then
      let after := rest.drop (pad + name.length)
      let space := (after.takeWhile isBlank).length
      if (after.drop space).head? == some '>' then some (pad + name.length + space + 3) else none
    else none
  | _ => none

/-- Is the number after `&#` well formed and followed by a further character? -/
def isNumber (s : List Char) : Bool :=
  let isHex (c : Char) : Bool := (hexDigit? c).isSome
  let ends (digits : List Char) (rest : List Char) : Bool :=
    !digits.isEmpty && !rest.isEmpty && (rest.head?.map isHex) != some true
  match s with
  | [] => false
  | x :: rest =>
    if x == 'x' || x == 'X' then ends (rest.takeWhile isHex) (rest.dropWhile isHex)
    else ends (s.takeWhile Char.isDigit) (s.dropWhile Char.isDigit)

/-- How many characters of unfinished markup are text: up to the first `>` and with it, else up to
the next `<`, else one. `s` is what follows the `<`. -/
def unfinishedSize (s : List Char) : Nat :=
  match throughEnd? s with
  | some n => n + 1
  | none => if s.contains '<' then 1 + (s.takeWhile (· != '<')).length else 1

/-- The tags of a text. `skip` characters belong to markup already read. While `raw` holds an
element's name its closing tag is looked for and nothing else. `late` is set at the first unfinished
markup or malformed number; after that a malformed number ends the scan. -/
def tagsFrom : Nat → Option (List Char) → Bool → List Char → Except Refusal (List Tag)
  | _, _, _, [] => .ok []
  | skip + 1, raw, late, _ :: rest => tagsFrom skip raw late rest
  | 0, some name, late, c :: rest =>
    match rawEnd? name (c :: rest) with
    | some size => (tagsFrom (size - 1) none late rest).map (.closing name :: ·)
    | none => tagsFrom 0 (some name) late rest
  | 0, none, late, c :: rest =>
    if c = '<' then
      match readMarkup rest with
      | .tag t size =>
        match t with
        | .opening name _ closed =>
          let raw := if isRaw name && !closed then some name else none
          (tagsFrom (size - 1) raw late rest).map (t :: ·)
        | .closing _ => (tagsFrom (size - 1) none late rest).map (t :: ·)
      | .other size => tagsFrom (size - 1) none late rest
      | .unfinished => tagsFrom (unfinishedSize rest - 1) none true rest
      | .refused r => .error r
    else if c = '&' && rest.head? == some '#' then
      if isNumber rest.tail then
        match longNumber? rest.tail with
        | some r => .error r
        | none => tagsFrom 0 none late rest
      else if late || !rest.contains ';' then .ok []
      else tagsFrom 1 none true rest
    else tagsFrom 0 none late rest

/-- The tags of a text, in order. -/
def tags (s : List Char) : Except Refusal (List Tag) := tagsFrom 0 none false s

end MsxWorkbench.Markup
