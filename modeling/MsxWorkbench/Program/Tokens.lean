import MsxWorkbench.Program.Vocabulary
import MsxWorkbench.Program.Constant
import MsxWorkbench.Program.Segment
/-
# Tokenised programs

A tokenised program is a byte 0xFF and then lines. A line is a link word, a line number and a body
that ends at a zero byte. In the body a byte below 0x80 is a character or introduces a constant, and
one from 0x80 on is a reserved word. `segments` reads such a file as a listing; every file that
starts with 0xFF can be read, however damaged the rest is.
-/
namespace MsxWorkbench.Program

/-- Why a file is no tokenised program. -/
inductive TokenError where
  | empty
  | signature (found : UInt8)
deriving DecidableEq, Repr

/-- The message for a file that is no tokenised program. -/
def TokenError.message : TokenError → String
  | .empty => "invalid MSX Basic file: file is empty"
  | .signature b =>
    "invalid MSX Basic file: expected 0xFF, got 0x" ++ String.ofList (hexByte b)

/-- The character whose code point is a byte. -/
def charOf (b : UInt8) : Char := Char.ofNat b.toNat

/-- A natural number in decimal. -/
def decimal (n : Nat) : List Char := Nat.toDigits 10 n

/-- The number of a word with the low byte first. -/
def word (low high : UInt8) : Nat := low.toNat + 256 * high.toNat

/-- What a byte of a body introduces. -/
inductive Lead where
  | octal
  | hexadecimal
  | wordNumber
  | byteNumber
  | single
  | colon
  | function
  | reserved
  | quote
  | character
  | digit
  | ignored
deriving DecidableEq, Repr

/-- Bytes 0x11 to 0x1A are the digits 0 to 9. -/
def isDigitByte (b : UInt8) : Bool := 17 ≤ b && b ≤ 26

/-- What a byte of a body introduces. -/
def Lead.of (b : UInt8) : Lead :=
  if b = 0x0B then .octal
  else if b = 0x0C then .hexadecimal
  else if b = 0x0E ∨ b = 0x1C then .wordNumber
  else if b = 0x0F then .byteNumber
  else if b = 0x1D then .single
  else if b = 0x3A then .colon
  else if b = 0xFF then .function
  else if 0x80 ≤ b then .reserved
  else if b = 34 then .quote
  else if 32 ≤ b then .character
  else if isDigitByte b then .digit
  else .ignored

/-- A byte that stands for no word, shown by its number between dashes. -/
def unknownByte (b : UInt8) : List Char := '-' :: decimal b.toNat ++ ['-']

/-- The characters of a string after its opening quote, and the bytes after it. A string ends with its
closing quote or before a zero byte, but it takes the first byte whatever that is. -/
def readString : List UInt8 → List Char × List UInt8
  | [] => ([], [])
  | b :: rest =>
    if b = 34 then ([charOf b], rest)
    else if rest.head? = some 0 then ([charOf b], rest)
    else
      let (text, after) := readString rest
      (charOf b :: text, after)

theorem readString_length_le (bs : List UInt8) : (readString bs).2.length ≤ bs.length := by
  induction bs with
  | nil => simp [readString]
  | cons b rest ih =>
    simp only [readString]
    split
    · simp
    · split
      · simp
      · simp only [List.length_cons]; omega

/-- One item of a body. -/
structure Item where
  pieces : List Segment
  /-- Whether the rest of the line is a remark. -/
  remark : Bool
  rest : List UInt8

/-- An item of one piece after which the body goes on. -/
def Item.piece (kind : Kind) (text : List Char) (rest : List UInt8) : Item :=
  ⟨[⟨kind, text⟩], false, rest⟩

/-- A constant whose operand is a word; nothing when the file ends inside it. -/
def readWord (show' : Nat → List Char) : List UInt8 → Option Item
  | low :: high :: rest => some (.piece .number (show' (word low high)) rest)
  | _ => none

/-- A reserved word; the two remark words turn the rest of the line into a remark. -/
def readReserved (b : UInt8) (rest : List UInt8) : Item :=
  match statementWord? b with
  | none => .piece .plain (unknownByte b) rest
  | some w =>
    if w = "REM" then ⟨[⟨.command, w.toList⟩], true, rest⟩
    else if w = "'" then ⟨[⟨.comment, w.toList⟩], true, rest⟩
    else .piece .command w.toList rest

/-- A colon. Before ELSE it is not shown, and before REM it hides that word too. -/
def readColon : List UInt8 → Item
  | [] => .piece .plain [':'] []
  | next :: rest =>
    if next = 0x8F then ⟨[], false, rest⟩
    else if next = 0xA1 then ⟨[], false, next :: rest⟩
    else .piece .plain [':'] (next :: rest)

/-- A built-in function; at the end of the file nothing. -/
def readFunction : List UInt8 → Item
  | [] => ⟨[], false, []⟩
  | code :: rest =>
    match functionWord? code with
    | some w => .piece .function w.toList rest
    | none => .piece .plain (unknownByte code) rest

/-- The item that starts with byte `b`; `none` when the file ends inside its operand. -/
def readItem (b : UInt8) (rest : List UInt8) : Option Item :=
  match Lead.of b with
  | .octal => readWord (fun n => '&' :: 'O' :: Nat.toDigits 8 n) rest
  | .hexadecimal => readWord (fun n => '&' :: 'H' :: upperDigits 16 n) rest
  | .wordNumber => readWord decimal rest
  | .byteNumber => match rest with
    | n :: rest => some (.piece .number (decimal n.toNat) rest)
    | [] => none
  | .single => match rest with
    | a :: b :: c :: d :: rest => some (.piece .number (Constant.mk a b c d).render rest)
    | _ => none
  | .colon => some (readColon rest)
  | .function => some (readFunction rest)
  | .reserved => some (readReserved b rest)
  | .quote =>
    let (text, rest) := readString rest
    some (.piece .string ('"' :: text) rest)
  | .character => some (.piece .plain [charOf b] rest)
  | .digit => some (.piece .number (decimal (b.toNat - 17)) rest)
  | .ignored => some ⟨[], false, rest⟩

theorem readWord_length_le {f : Nat → List Char} {rest : List UInt8} {i : Item}
    (h : readWord f rest = some i) : i.rest.length ≤ rest.length := by
  match rest with
  | [] | [_] => simp [readWord] at h
  | _ :: _ :: rest => simp only [readWord, Option.some.injEq] at h; subst h; simp [Item.piece]; omega

theorem readColon_length_le (rest : List UInt8) : (readColon rest).rest.length ≤ rest.length := by
  cases rest with
  | nil => simp [readColon, Item.piece]
  | cons next rest => simp only [readColon]; repeat' split; all_goals simp [Item.piece]

theorem readFunction_length_le (rest : List UInt8) :
    (readFunction rest).rest.length ≤ rest.length := by
  cases rest with
  | nil => simp [readFunction]
  | cons code rest => simp only [readFunction]; split <;> simp [Item.piece]

theorem readReserved_rest (b : UInt8) (rest : List UInt8) : (readReserved b rest).rest = rest := by
  simp only [readReserved]; repeat' split
  all_goals simp [Item.piece]

/-- Reading an item never gives bytes back. -/
theorem readItem_length_le {b : UInt8} {rest : List UInt8} {i : Item}
    (h : readItem b rest = some i) : i.rest.length ≤ rest.length := by
  unfold readItem at h
  split at h
  case h_1 | h_2 | h_3 => exact readWord_length_le h
  case h_4 =>
    split at h
    · simp only [Option.some.injEq] at h; subst h; simp [Item.piece]
    · simp at h
  case h_5 =>
    split at h
    · simp only [Option.some.injEq] at h; subst h; simp [Item.piece]; omega
    · simp at h
  case h_6 => simp only [Option.some.injEq] at h; subst h; exact readColon_length_le rest
  case h_7 => simp only [Option.some.injEq] at h; subst h; exact readFunction_length_le rest
  case h_8 => simp only [Option.some.injEq] at h; subst h; simp [readReserved_rest]
  case h_9 =>
    simp only [Option.some.injEq] at h; subst h
    simpa [Item.piece] using readString_length_le rest
  case h_10 | h_11 => simp only [Option.some.injEq] at h; subst h; simp [Item.piece]
  case h_12 => simp only [Option.some.injEq] at h; subst h; simp

/-- What a byte shows inside a remark. -/
def remarkText (b : UInt8) : List Char :=
  if 32 ≤ b then [charOf b] else if isDigitByte b then decimal (b.toNat - 17) else []

/-- The pieces of a body, and the bytes from its zero byte on. When the file ends inside an operand
the bytes of that item are left over. -/
def readBody (bs : List UInt8) : List Segment × List UInt8 :=
  match bs with
  | [] => ([], [])
  | b :: rest =>
    if b = 0 then ([], b :: rest)
    else match _h : readItem b rest with
      | none => ([], b :: rest)
      | some i =>
        if i.remark then
          (i.pieces ++ [⟨.comment, (i.rest.takeWhile (· != 0)).flatMap remarkText⟩],
            i.rest.dropWhile (· != 0))
        else
          let line := readBody i.rest
          (i.pieces ++ line.1, line.2)
termination_by bs.length
decreasing_by
  have := readItem_length_le ‹_›
  simp only [List.length_cons]; omega

theorem readBody_length_le (bs : List UInt8) : (readBody bs).2.length ≤ bs.length := by
  fun_induction readBody bs with
  | case1 => simp
  | case2 => simp
  | case3 => simp
  | case4 b rest _ i h =>
    have := readItem_length_le h
    have hd := (List.dropWhile_sublist (l := i.rest) (· != 0)).length_le
    simp only [List.length_cons]; omega
  | case5 b rest _ i h _ line ih =>
    have := readItem_length_le h
    show line.2.length ≤ _
    simp only [line, List.length_cons]; omega

/-- The end of a line: a zero byte becomes a line break. -/
def endLine : List UInt8 → List Segment × List UInt8
  | [] => ([], [])
  | b :: rest => if b = 0 then ([⟨.plain, ['\n']⟩], rest) else ([], b :: rest)

theorem endLine_length_le (bs : List UInt8) : (endLine bs).2.length ≤ bs.length := by
  cases bs with
  | nil => simp [endLine]
  | cons b rest => simp only [endLine]; split <;> simp

/-- Whether two zero bytes, which end a program, stand here. -/
def atEndMark : List UInt8 → Bool
  | a :: b :: _ => a = 0 && b = 0
  | _ => false

/-- The pieces of all lines from here on. A line needs a link word and a line number. -/
def readLines (bs : List UInt8) : List Segment :=
  match bs with
  | _ :: _ :: low :: high :: body =>
    let line := readBody body
    let ending := endLine line.2
    ⟨.lineNumber, decimal (word low high)⟩ :: ⟨.plain, [' ']⟩ :: line.1 ++ ending.1 ++
      (if atEndMark ending.2 then [] else readLines ending.2)
  | _ => []
termination_by bs.length
decreasing_by
  have h1 := readBody_length_le body
  have h2 := endLine_length_le (readBody body).2
  simp only [List.length_cons]; omega

/-- Whether a file claims to be a tokenised program (`_looks_like_msx_basic_data`). -/
def isTokenised (file : List UInt8) : Bool := file.head? == some 0xFF

/-- The pieces of a tokenised program as they are read, one by one. -/
def pieces : List UInt8 → Except TokenError (List Segment)
  | [] => .error .empty
  | b :: rest => if b = 0xFF then .ok (readLines rest) else .error (.signature b)

/-- The listing of a tokenised program in joined segments (`decode_msx_basic_segments`). -/
def segments (file : List UInt8) : Except TokenError (List Segment) := (pieces file).map Segment.join

/-- The listing of a tokenised program as text (`decode_msx_basic`). -/
def listing (file : List UInt8) : Except TokenError (List Char) := (segments file).map Segment.textOf

end MsxWorkbench.Program
