/-
# Sample programs

Programs of any length for measuring: as tokens, with every kind of token among them, and as source
text with jumps, comments, strings and variables of every type.
-/
namespace MsxWorkbench.Suite

/-- The low and the high byte of a number. -/
def wordBytes (n : Nat) : List UInt8 := [UInt8.ofNat n, UInt8.ofNat (n / 256)]

/-- The bodies of tokenised lines. -/
def tokenBodies : List (List UInt8) := [
  -- PRINT "HELLO";A
  [0x91, 0x22, 0x48, 0x45, 0x4C, 0x4C, 0x4F, 0x22, 0x3B, 0x41],
  -- FOR with digits as tokens
  [0x82, 0x49, 0xF0, 0x12, 0xD9, 0x1B, 0xDC, 0x13],
  -- hexadecimal, octal, line number, byte and integer constants
  [0x0C, 0x34, 0x12, 0x2C, 0x0B, 0x08, 0x00, 0x2C, 0x0E, 0x64, 0x00, 0x2C, 0x0F, 0x2A, 0x2C, 0x1C,
    0x10, 0x00],
  -- functions with a second byte
  [0xFF, 0x81, 0x28, 0x41, 0x24, 0x29, 0x3A, 0xFF, 0x89, 0x28, 0x14, 0x29],
  -- a remark
  [0x8F, 0x20, 0x6E, 0x6F, 0x74, 0x65, 0x20, 0x14, 0x15],
  -- a remark with an apostrophe
  [0x3A, 0x8F, 0xE8, 0x20, 0x72, 0x65, 0x6D, 0x20, 0x74, 0x61, 0x69, 0x6C],
  -- ELSE with its colon
  [0x3A, 0xA1, 0x20, 0x0F, 0x05],
  -- decimal constants of single precision
  [0x1D, 0x00, 0x00, 0x00, 0x00, 0x2C, 0x1D, 0x10, 0x12, 0x34, 0x56, 0x2C, 0x1D, 0x3F, 0x31, 0x41,
    0x00, 0x2C, 0x1D, 0x45, 0x27, 0x18, 0x28, 0x2C, 0x1D, 0xC8, 0x99, 0x99, 0x00, 0x2C, 0x1D, 0x60,
    0x10, 0x00, 0x00],
  -- bytes that are no tokens
  [0xFE, 0x3A, 0xFF, 0xF0, 0x3A],
  -- a string that is not closed
  [0x22, 0x4F, 0x50, 0x45, 0x4E]]

/-- The number of the line at a position. -/
def sampleNumber (position : Nat) : Nat := 10 * (position + 1)

/-- A tokenised program with a number of lines. -/
def tokenProgram (lines : Nat) : List UInt8 :=
  [0xFF] ++ (List.range lines).flatMap (fun i =>
    [0x01, 0x80] ++ wordBytes (sampleNumber i) ++ tokenBodies.getD (i % tokenBodies.length) [] ++ [0x00])
    ++ [0x00, 0x00]

/-- The body of the source line at a position in a program with a number of lines. -/
def sourceBody (lines position : Nat) : String :=
  let ahead (distance : Nat) := sampleNumber ((position + distance) % lines)
  match position % 8 with
  | 0 => s!"PRINT \"HELLO, WORLD {sampleNumber position}\" : A = A + 1"
  | 1 => "FOR I=1 TO 10:X%=X%+I:NEXT I"
  | 2 => s!"IF A$=\"Y\" THEN GOTO {ahead 3} ELSE GOSUB {ahead 7}"
  | 3 => "REM this is a long comment about nothing in particular"
  | 4 => "B#=SIN(3.14)*COS(2):C!=B#"
  | 5 => s!"GOSUB {ahead 3}:GOTO {ahead 7}"
  | 6 => "ZZ9=LEFT$(A$,2):QQ=LEN(A$)"
  | _ => "'inline comment with GOTO 10 that must be ignored"

/-- The lines of a source program. -/
def sourceLines (lines : Nat) : List String :=
  (List.range lines).map fun i => s!"{sampleNumber i} {sourceBody lines i}"

/-- The text of a source program. -/
def sourceProgram (lines : Nat) : String := "\n".intercalate (sourceLines lines)

end MsxWorkbench.Suite
