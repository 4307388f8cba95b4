/-
# Text in bytes

The encodings in which files hold text: UTF-8, the Windows code page 1252 and Latin-1. A file without
a zero byte is text in the first of the three that fits, and Latin-1 always does.
-/
namespace MsxWorkbench.Text

/-- The UTF-8 bytes of a text. -/
def encodeUtf8 (s : List Char) : List UInt8 := s.flatMap String.utf8EncodeChar

/-- The text of well-formed UTF-8. -/
def decodeUtf8? (bs : List UInt8) : Option (List Char) :=
  (ByteArray.mk bs.toArray).utf8Decode?.map Array.toList

/-- The text of Latin-1 bytes: every byte is the code point of its number. -/
def decodeLatin1 (bs : List UInt8) : List Char := bs.map fun b => Char.ofNat b.toNat

/-- The Latin-1 byte of a character. -/
def latin1Byte? (c : Char) : Option UInt8 :=
  if c.toNat < 0x100 then some (UInt8.ofNat c.toNat) else none

/-- The code points of the bytes 0x80 to 0x9F in code page 1252; five of them have none. -/
def windowsHigh : List (Option Nat) := [
  some 0x20AC, none, some 0x201A, some 0x192, some 0x201E, some 0x2026, some 0x2020, some 0x2021,
  some 0x2C6, some 0x2030, some 0x160, some 0x2039, some 0x152, none, some 0x17D, none,
  none, some 0x2018, some 0x2019, some 0x201C, some 0x201D, some 0x2022, some 0x2013, some 0x2014,
  some 0x2DC, some 0x2122, some 0x161, some 0x203A, some 0x153, none, some 0x17E, some 0x178]

/-- The character of a byte in code page 1252. -/
def windowsChar? (b : UInt8) : Option Char :=
  if 0x80 ≤ b ∧ b < 0xA0 then ((windowsHigh[b.toNat - 0x80]?).join).map Char.ofNat
  else some (Char.ofNat b.toNat)

/-- The text of bytes in code page 1252. -/
def decodeWindows? (bs : List UInt8) : Option (List Char) := bs.mapM windowsChar?

/-- The text a file holds; `none` when it has a zero byte and so is no text. -/
def decodeFile? (bs : List UInt8) : Option (List Char) :=
  if bs.contains 0 then none
  else some (((decodeUtf8? bs).or (decodeWindows? bs)).getD (decodeLatin1 bs))

/-- The text with every carriage return, alone or before a line feed, turned into a line feed. -/
def normalizeBreaks : List Char → List Char
  | [] => []
  | '\r' :: '\n' :: rest => '\n' :: normalizeBreaks rest
  | c :: rest => (if c = '\r' then '\n' else c) :: normalizeBreaks rest

end MsxWorkbench.Text
