import MsxWorkbench.Text.Encoding
import MsxWorkbench.Charset.Source
import MsxWorkbench.Json.Writer
/-
# Character tables

The tables of the five MSX character sets, built from their sources: graphic characters below 0x20,
ASCII, and the national half from 0x80 on. A code without a character has an empty text.
-/
namespace MsxWorkbench.Charset

/-- The names of the source files. -/
inductive SourceFile where
  | common
  | japanese
  | brazilian
  | russian
  | arabic
deriving DecidableEq, Repr

/-- The file name of a source. -/
def SourceFile.name : SourceFile → String
  | .common => "common.ts"
  | .japanese => "japanese.ts"
  | .brazilian => "brazilian-br.ts"
  | .russian => "russian.ts"
  | .arabic => "arabic-ar.ts"

/-- The directory the sources lie in. -/
def sourceDirectory : String := "msx-encoding/src/charsets"

/-- Why the tables could not be built. -/
inductive BuildError where
  | source (e : SourceError)
  | missingFile (file : SourceFile)
  | missingGraphics
  | missingHigh
  | shortGraphics
  /-- The file of tables was begun, but half of a surrogate pair cannot be written. -/
  | unwritable (half : List Char)
deriving DecidableEq, Repr

/-- The message for tables that could not be built. -/
def BuildError.message : BuildError → String
  | .source e => e.message
  | .missingFile file =>
    s!"[Errno 2] No such file or directory: '{sourceDirectory}/{file.name}'"
  | .missingGraphics => "'NoneType' object is not subscriptable"
  | .missingHigh => "object of type 'NoneType' has no len()"
  | .shortGraphics => "list index out of range"
  | .unwritable half =>
    "'utf-8' codec can't encode character '" ++ String.ofList half ++
      "' in position 7: surrogates not allowed"

/-- Is there a file of tables after all? -/
def BuildError.leavesFile : BuildError → Bool
  | .unwritable _ => true
  | _ => false

/-- A table of 256 texts. -/
abbrev Table := List (List Char)

/-- The named tables in order. -/
abbrev Tables := List (String × Table)

/-- The character of a code point as a text. -/
def single (codePoint : Nat) : List Char := [Char.ofNat codePoint]

/-- The text that shows the UTF-8 bytes of a character one by one. -/
def bytewise (codePoint : Nat) : List Char :=
  Text.decodeLatin1 (Text.encodeUtf8 [Char.ofNat codePoint])

/-- The first 32 texts of an array of graphic characters. -/
def graphicPart : Option (List (List Char)) → Except BuildError (List (List Char))
  | none => .error .missingGraphics
  | some items => if items.length < 32 then .error .shortGraphics else .ok (items.take 32)

/-- The high half, cut or filled up with empty texts to 128. -/
def highPart : Option (List (List Char)) → Except BuildError (List (List Char))
  | none => .error .missingHigh
  | some items => .ok (items.take 128 ++ List.replicate (128 - items.length) [])

/-- The codes 0x20 to 0x7E, with the text of one of them replaced. -/
def asciiPart (replaced : Nat) (text : List Char) : List (List Char) :=
  (List.range 95).map fun i => if i + 0x20 = replaced then text else single (i + 0x20)

/-- A table from its parts; `house` is the text of code 0x7F. -/
def assemble (graphics : Option (List (List Char))) (ascii : List (List Char)) (house : List Char)
    (high : Option (List (List Char))) : Except BuildError Table := do
  let low ← graphicPart graphics
  let top ← highPart high
  .ok (low ++ ascii ++ [house] ++ top)

/-- ASCII as it is. -/
def plainAscii : List (List Char) := asciiPart 0 []

/-- The house sign of code 0x7F. -/
def houseSign : List Char := single 0x2302

/-! ## The Russian half -/

/-- Symbols of the codes 0x98 to 0x9F. -/
def russianSymbols : List Nat := [0x394, 0x2021, 0x3C9, 0x2588, 0x2584, 0x258C, 0x2590, 0x2580]

/-- Small letters of the codes 0xC0 to 0xDF. -/
def russianSmall : List Nat := [
  0x44E, 0x430, 0x431, 0x446, 0x434, 0x435, 0x444, 0x433, 0x445, 0x438, 0x439, 0x43A, 0x43B, 0x43C,
  0x43D, 0x43E, 0x43F, 0x44F, 0x440, 0x441, 0x442, 0x443, 0x436, 0x432, 0x44C, 0x44B, 0x437, 0x448,
  0x44D, 0x449, 0x447, 0x44A]

/-- Capital letters of the codes 0xE0 to 0xFE. -/
def russianCapital : List Nat := [
  0x42E, 0x410, 0x411, 0x426, 0x414, 0x415, 0x424, 0x413, 0x425, 0x418, 0x419, 0x41A, 0x41B, 0x41C,
  0x41D, 0x41E, 0x41F, 0x42F, 0x420, 0x421, 0x422, 0x423, 0x416, 0x412, 0x42C, 0x42B, 0x417, 0x428,
  0x42D, 0x429, 0x427]

/-- The first `size` texts of an array, filled up with replacement characters. -/
def filled (size : Nat) : Option (List (List Char)) → Except BuildError (List (List Char))
  | none => .error .missingHigh
  | some items => .ok (items.take size ++ List.replicate (size - items.length) (single 0xFFFD))

/-- The high half of the Russian table: block elements, symbols, mathematical and Greek characters
and the Cyrillic letters. Symbols and letters are shown bytewise. -/
def russianHigh (blocks math : Option (List (List Char))) : Except BuildError (List (List Char)) := do
  let blocks ← filled 24 blocks
  let math ← filled 31 math
  .ok (blocks ++ russianSymbols.map bytewise ++ math ++ [single 0xA4] ++ russianSmall.map bytewise ++
    russianCapital.map bytewise ++ [single 0xFFFD])

/-! ## All tables -/

/-- The source files that exist, by name. -/
abbrev SourceFiles := List (String × List Char)

/-- The text of a source file, with its line breaks made uniform. -/
def readSource (files : SourceFiles) (file : SourceFile) : Except BuildError (List Char) :=
  match files.lookup file.name with
  | some text => .ok (Text.normalizeBreaks text)
  | none => .error (.missingFile file)

/-- An array of a source. -/
def arrayOf (content : List Char) (name : String) : Except BuildError (Option (List (List Char))) :=
  (readArray content name.toList).mapError .source

/-- Builds the five tables. The sources are read in order, and the first fault ends it. -/
def build (files : SourceFiles) : Except BuildError Tables := do
  let common ← readSource files .common
  let graphics ← arrayOf common "GRAPHIC_CHARS_INTL"
  let japaneseGraphics ← arrayOf common "GRAPHIC_CHARS_JP"
  let _ ← arrayOf common "GRAPHIC_CHARS_AE"
  let high ← arrayOf common "HIGH_CHARS_INTERNATIONAL"
  let international ← assemble graphics plainAscii houseSign high
  let source ← readSource files .japanese
  let japaneseHigh ← arrayOf source "HIGH_CHARS_JAPANESE"
  let japanese ← assemble japaneseGraphics (asciiPart 0x5C (single 0xA5)) [] japaneseHigh
  let source ← readSource files .brazilian
  let brazilianHigh ← (readOverrides source (high.getD [])).mapError .source
  let brazilian ← assemble graphics plainAscii houseSign (some brazilianHigh)
  let _ ← readSource files .russian
  let blocks ← arrayOf common "BLOCK_ELEMENTS_MSX"
  let math ← arrayOf common "MATH_GREEK_CHARS"
  let russianTop ← russianHigh blocks math
  let russian ← assemble graphics plainAscii houseSign (some russianTop)
  let source ← readSource files .arabic
  let arabicHigh ← arrayOf source "HIGH_CHARS_ARABIC"
  let arabicGraphics ← arrayOf common "GRAPHIC_CHARS_AR"
  let arabic ← assemble arabicGraphics plainAscii [] arabicHigh
  .ok [("International", international), ("Japanese", japanese), ("Brazilian", brazilian),
    ("Russian", russian), ("Arabic", arabic)]

/-- The tables as a JSON value. -/
def toJson (tables : Tables) : Json :=
  .obj (tables.map fun (name, t) => (name, .arr (t.map fun s => .str (String.ofList s))))

/-- The name of the file the tables are written to. -/
def tablesFile : String := "msx_charsets.json"

/-- The text of the file the tables are written to. -/
def fileText (tables : Tables) : String := (toJson tables).spread

/-- Builds the tables that are written to the file (`extract_charsets`). -/
def buildFile (files : SourceFiles) : Except BuildError Tables := do
  let tables ← build files
  match (tables.flatMap (·.2)).find? isLoneHalf with
  | some half => throw (.unwritable half)
  | none => return tables

end MsxWorkbench.Charset
