import MsxWorkbench.Program.Tokens
import MsxWorkbench.Proofs.Program.Segments
/-
# The format of tokenised programs

What a tokenised program is made of, how it is written as bytes and how it is shown. A line has a link, a
number, tokens and perhaps a remark at its end. Reading what was written shows what it is made of
(`listing_encode`): no operand is taken for the end of a line or of the program, though it may have any
bytes.
-/
namespace MsxWorkbench.Program

/-! ## Tokens -/

/-- The code byte of a word of a list, counting up from 0x81. -/
def wordCode (i : Nat) : UInt8 := UInt8.ofNat (0x81 + i)

/-- A token of the body of a line. -/
inductive Token where
  /-- A character that stands for itself. -/
  | plain (b : UInt8) (h : 0x20 ≤ b ∧ b ≤ 0x7F ∧ b ≠ 0x22 ∧ b ≠ 0x3A)
  | colon
  /-- ELSE, which has a colon before it that is not shown. -/
  | elseWord
  | digit (n : Fin 10)
  | octal (low high : UInt8)
  | hexadecimal (low high : UInt8)
  /-- The number of a line. -/
  | line (low high : UInt8)
  | whole (low high : UInt8)
  | byte (n : UInt8)
  | single (k : Constant)
  | function (i : Fin functionWords.length)
  /-- A reserved word that does not start a remark. -/
  | reserved (i : Fin statementWords.length) (h : wordCode i ≠ 0x8F ∧ wordCode i ≠ 0xE6)
  | string (s : List UInt8) (h : ∀ b ∈ s, b ≠ 0 ∧ b ≠ 0x22)

namespace Token

/-- The bytes of a token. -/
def encode : Token → List UInt8
  | .plain b _ => [b]
  | .colon => [0x3A]
  | .elseWord => [0x3A, 0xA1]
  | .digit n => [UInt8.ofNat (0x11 + n)]
  | .octal low high => [0x0B, low, high]
  | .hexadecimal low high => [0x0C, low, high]
  | .line low high => [0x0E, low, high]
  | .whole low high => [0x1C, low, high]
  | .byte n => [0x0F, n]
  | .single k => [0x1D, k.head, k.high, k.mid, k.low]
  | .function i => [0xFF, wordCode i]
  | .reserved i _ => [wordCode i]
  | .string s _ => 0x22 :: (s ++ [0x22])

/-- A token in a listing. -/
def render : Token → List Char
  | .plain b _ => [charOf b]
  | .colon => [':']
  | .elseWord => "ELSE".toList
  | .digit n => [Nat.digitChar n]
  | .octal low high => '&' :: 'O' :: Nat.toDigits 8 (low.toNat + 256 * high.toNat)
  | .hexadecimal low high => '&' :: 'H' :: upperDigits 16 (low.toNat + 256 * high.toNat)
  | .line low high => decimal (low.toNat + 256 * high.toNat)
  | .whole low high => decimal (low.toNat + 256 * high.toNat)
  | .byte n => decimal n.toNat
  | .single k => k.render
  | .function i => (functionWords.get i).toList
  | .reserved i _ => (statementWords.get i).toList
  | .string s _ => '"' :: (s.map charOf ++ ['"'])

/-- The kind of piece that shows a token. -/
def kind : Token → Kind
  | .plain _ _ | .colon => .plain
  | .elseWord | .reserved _ _ => .command
  | .function _ => .function
  | .string _ _ => .string
  | .digit _ | .octal _ _ | .hexadecimal _ _ | .line _ _ | .whole _ _ | .byte _ | .single _ => .number

/-- The piece that shows a token. -/
def segment (t : Token) : Segment := ⟨t.kind, t.render⟩

end Token

/-! ## Remarks -/

/-- How a remark starts. -/
inductive RemarkSign where
  | rem
  | quote
  /-- An apostrophe with a colon and REM before it, which are not shown. -/
  | hidden

/-- A remark at the end of a line. -/
structure Remark where
  sign : RemarkSign
  text : List UInt8
  text_ne : ∀ b ∈ text, b ≠ 0

namespace RemarkSign

def encode : RemarkSign → List UInt8
  | .rem => [0x8F]
  | .quote => [0xE6]
  | .hidden => [0x3A, 0x8F, 0xE6]

def render : RemarkSign → List Char
  | .rem => "REM".toList
  | .quote => "'".toList
  | .hidden => "'".toList

end RemarkSign

namespace Remark

/-- What a byte of a remark shows: a character, a digit or nothing. -/
def shown (b : UInt8) : List Char :=
  if 0x20 ≤ b then [charOf b]
  else if 0x11 ≤ b ∧ b ≤ 0x1A then [Nat.digitChar (b.toNat - 0x11)]
  else []

def encode (r : Remark) : List UInt8 := r.sign.encode ++ r.text

def render (r : Remark) : List Char := r.sign.render ++ r.text.flatMap shown

end Remark

/-! ## Lines -/

/-- The bytes of the rest of a line. -/
def encodeBody (tokens : List Token) (remark : Option Remark) : List UInt8 :=
  tokens.flatMap Token.encode ++ (remark.map Remark.encode).getD []

/-- Whether no colon stands right before the code of REM or of ELSE. -/
def ColonsApart (remark : Option Remark) : List Token → Prop
  | [] => True
  | t :: tokens =>
    (t = .colon → (encodeBody tokens remark).head? ≠ some 0x8F ∧ (encodeBody tokens remark).head? ≠ some 0xA1) ∧
      ColonsApart remark tokens

/-- A line of a tokenised program. -/
structure TokenLine where
  link : UInt8 × UInt8
  number : Nat
  tokens : List Token
  remark : Option Remark
  number_lt : number < 65536
  apart : ColonsApart remark tokens

namespace TokenLine

/-- The bytes of a line. -/
def encode (l : TokenLine) : List UInt8 :=
  l.link.1 :: l.link.2 :: UInt8.ofNat (l.number % 256) :: UInt8.ofNat (l.number / 256) ::
    (encodeBody l.tokens l.remark ++ [0])

/-- A line in a listing. -/
def render (l : TokenLine) : List Char :=
  decimal l.number ++ ' ' :: (l.tokens.flatMap Token.render ++ (l.remark.map Remark.render).getD [] ++ ['\n'])

end TokenLine

/-! ## Reading a token -/

theorem lead_plain {b : UInt8} (h : 0x20 ≤ b ∧ b ≤ 0x7F ∧ b ≠ 0x22 ∧ b ≠ 0x3A) : Lead.of b = .character := by
  obtain ⟨hlow, hhigh, hquote, hcolon⟩ := h
  unfold Lead.of
  grind

theorem lead_digit (n : Fin 10) : Lead.of (UInt8.ofNat (0x11 + n)) = .digit := by
  revert n
  decide

theorem length_statementWords : statementWords.length = 124 := rfl

/-- The words by their codes. The two that start remarks have the codes 0x8F and 0xE6. -/
theorem wordCode_table (i : Fin statementWords.length) : Lead.of (wordCode i) = .reserved ∧ wordCode i ≠ 0 ∧
    (statementWords.get i = "REM" → wordCode i = 0x8F) ∧ (statementWords.get i = "'" → wordCode i = 0xE6) := by
  revert i
  decide +kernel

theorem lead_word (i : Fin statementWords.length) : Lead.of (wordCode i) = .reserved := (wordCode_table i).1

theorem wordCode_ne_zero (i : Fin statementWords.length) : wordCode i ≠ 0 := (wordCode_table i).2.1

theorem code_of_remark (i : Fin statementWords.length) :
    (statementWords.get i = "REM" → wordCode i = 0x8F) ∧ (statementWords.get i = "'" → wordCode i = 0xE6) :=
  (wordCode_table i).2.2

theorem wordAt?_wordCode {words : List String} (hsize : words.length ≤ 124) (i : Fin words.length) :
    wordAt? words (wordCode i) = some (words.get i) := by
  have hi := i.isLt
  have hcode : (wordCode i).toNat = 0x81 + i := by
    rw [wordCode, UInt8.toNat_ofNat']
    exact Nat.mod_eq_of_lt (by omega)
  rw [wordAt?, if_pos (by rw [UInt8.le_iff_toNat_le, hcode]; exact Nat.le_add_right _ _), hcode,
    Nat.add_sub_cancel_left]
  exact List.getElem?_eq_getElem hi

theorem digit_ne_zero (n : Fin 10) : UInt8.ofNat (0x11 + n) ≠ 0 := by
  revert n
  decide

theorem toNat_digit (n : Fin 10) : (UInt8.ofNat (0x11 + n)).toNat - 17 = n := by
  revert n
  decide

theorem decimal_digit (n : Fin 10) : decimal n = [Nat.digitChar n] := by
  revert n
  decide

theorem readString_closed {s : List UInt8} (h : ∀ b ∈ s, b ≠ 0 ∧ b ≠ 0x22) (rest : List UInt8) :
    readString (s ++ 0x22 :: rest) = (s.map charOf ++ ['"'], rest) := by
  induction s with
  | nil => rfl
  | cons b s ih =>
    have hb := (h b List.mem_cons_self).2
    have hnext : (s ++ 0x22 :: rest).head? ≠ some 0 := by
      intro hc
      cases s with
      | nil => cases hc
      | cons c s =>
        exact (h c (List.mem_cons_of_mem _ List.mem_cons_self)).1 (Option.some.inj hc)
    rw [List.cons_append, readString, if_neg hb, if_neg hnext, ih fun c hc => h c (List.mem_cons_of_mem _ hc)]
    rfl

/-- Reading a body shows a text and leaves the bytes from its end on. -/
def ReadsAs (bytes : List UInt8) (text : List Char) (rest : List UInt8) : Prop :=
  Segment.textOf (readBody bytes).1 = text ∧ (readBody bytes).2 = rest

section
variable {b : UInt8} {bytes rest after : List UInt8} {text : List Char} {i : Item}

theorem readsAs_end : ReadsAs (0 :: rest) [] (0 :: rest) := by
  rw [ReadsAs, readBody, if_pos rfl]
  exact ⟨rfl, rfl⟩

theorem readBody_item (hb : b ≠ 0) (hi : readItem b rest = some i) :
    readBody (b :: rest) =
      if i.remark then
        (i.pieces ++ [⟨.comment, (i.rest.takeWhile (· != 0)).flatMap remarkText⟩], i.rest.dropWhile (· != 0))
      else (i.pieces ++ (readBody i.rest).1, (readBody i.rest).2) := by
  rw [readBody, if_neg hb]
  split
  · rename_i h
    rw [hi] at h
    cases h
  · rename_i j h
    rw [hi, Option.some.injEq] at h
    rw [h]

/-- Where the file ends inside an item, the body has nothing more. -/
theorem readBody_none (hb : b ≠ 0) (hi : readItem b rest = none) : readBody (b :: rest) = ([], b :: rest) := by
  rw [readBody, if_neg hb]
  split
  · rfl
  · simp_all

/-- An item that starts no remark is shown, and the body goes on behind it. -/
theorem ReadsAs.item (h : ReadsAs i.rest text after) (hb : b ≠ 0) (hi : readItem b rest = some i)
    (hremark : i.remark = false) : ReadsAs (b :: rest) (Segment.textOf i.pieces ++ text) after := by
  rw [ReadsAs, readBody_item hb hi, hremark]
  refine ⟨?_, h.2⟩
  rw [← h.1]
  exact List.flatMap_append

theorem readBody_piece {kind : Kind} {shown : List Char} (hb : b ≠ 0)
    (hi : readItem b rest = some (.piece kind shown bytes)) :
    readBody (b :: rest) = (⟨kind, shown⟩ :: (readBody bytes).1, (readBody bytes).2) := by
  rw [readBody_item hb hi]
  rfl

/-- A reserved word that starts no remark. -/
theorem readBody_reserved (j : Fin statementWords.length) (hrem : wordCode j ≠ 0x8F) (hquote : wordCode j ≠ 0xE6) :
    readBody (wordCode j :: bytes) =
      (⟨.command, (statementWords.get j).toList⟩ :: (readBody bytes).1, (readBody bytes).2) := by
  have hword : statementWord? (wordCode j) = some (statementWords.get j) :=
    wordAt?_wordCode (Nat.le_of_eq length_statementWords) j
  have hitem : readItem (wordCode j) bytes = some (.piece .command (statementWords.get j).toList bytes) := by
    simp only [readItem, lead_word, readReserved, hword]
    rw [if_neg fun hw => hrem ((code_of_remark j).1 hw), if_neg fun hw => hquote ((code_of_remark j).2 hw)]
  exact readBody_piece (wordCode_ne_zero j) hitem

/-- A token is read as the piece that shows it, whatever comes behind it, if a colon is kept apart from REM and
ELSE. -/
theorem readBody_token (t : Token) (hapart : t = .colon → bytes.head? ≠ some 0x8F ∧ bytes.head? ≠ some 0xA1) :
    readBody (t.encode ++ bytes) = (t.segment :: (readBody bytes).1, (readBody bytes).2) := by
  cases t with
  | plain b hb =>
    have hitem : readItem b bytes = some (.piece .plain [charOf b] bytes) := by
      simp only [readItem, lead_plain hb]
    have hzero : b ≠ 0 := by
      rintro rfl
      exact absurd hb.1 (by decide)
    exact readBody_piece hzero hitem
  | colon =>
    obtain ⟨hrem, helse⟩ := hapart rfl
    have hitem : readItem 0x3A bytes = some (.piece .plain [':'] bytes) := by
      change some (readColon bytes) = _
      cases bytes with
      | nil => rfl
      | cons c bytes =>
        rw [readColon, if_neg fun hc => hrem (congrArg some hc), if_neg fun hc => helse (congrArg some hc)]
    exact readBody_piece (by decide) hitem
  | elseWord =>
    have hcolon : readBody (0x3A :: 0xA1 :: bytes) = readBody (0xA1 :: bytes) :=
      readBody_item (by decide) (rfl : readItem 0x3A (0xA1 :: bytes) = some ⟨[], false, 0xA1 :: bytes⟩)
    exact hcolon.trans (readBody_reserved ⟨32, by rw [length_statementWords]; decide⟩ (by decide) (by decide))
  | digit n =>
    have hitem : readItem (UInt8.ofNat (0x11 + n)) bytes = some (.piece .number [Nat.digitChar n] bytes) := by
      simp only [readItem, lead_digit, toNat_digit, decimal_digit]
    exact readBody_piece (digit_ne_zero n) hitem
  | octal low high => exact readBody_piece (by decide) rfl
  | hexadecimal low high => exact readBody_piece (by decide) rfl
  | line low high => exact readBody_piece (by decide) rfl
  | whole low high => exact readBody_piece (by decide) rfl
  | byte n => exact readBody_piece (by decide) rfl
  | single k => exact readBody_piece (by decide) rfl
  | function j =>
    have hitem : readItem 0xFF (wordCode j :: bytes) =
        some (.piece .function (functionWords.get j).toList bytes) := by
      change some (readFunction (wordCode j :: bytes)) = _
      simp only [readFunction, functionWord?, wordAt?_wordCode (by decide : functionWords.length ≤ 124) j]
    exact readBody_piece (by decide) hitem
  | reserved j hj => exact readBody_reserved j hj.1 hj.2
  | string s hs =>
    have hitem : readItem 0x22 (s ++ 0x22 :: bytes) = some (.piece .string ('"' :: (s.map charOf ++ ['"'])) bytes) := by
      change some (Item.piece .string ('"' :: (readString (s ++ 0x22 :: bytes)).1) (readString (s ++ 0x22 :: bytes)).2) = _
      rw [readString_closed hs]
    have hencode : (Token.string s hs).encode ++ bytes = 0x22 :: (s ++ 0x22 :: bytes) := by simp [Token.encode]
    rw [hencode]
    exact readBody_piece (by decide) hitem

theorem ReadsAs.token (h : ReadsAs bytes text after) (t : Token)
    (hapart : t = .colon → bytes.head? ≠ some 0x8F ∧ bytes.head? ≠ some 0xA1) :
    ReadsAs (t.encode ++ bytes) (t.render ++ text) after := by
  rw [ReadsAs, readBody_token t hapart]
  exact ⟨congrArg (t.render ++ ·) h.1, h.2⟩

/-! ## Reading a line -/

theorem remarkText_eq_shown (b : UInt8) : remarkText b = Remark.shown b := by
  rw [remarkText, Remark.shown]
  split
  · rfl
  · rename_i hlow
    by_cases hdigit : 0x11 ≤ b ∧ b ≤ 0x1A
    · have hlt : b.toNat - 17 < 10 := by
        have := UInt8.le_iff_toNat_le.1 hdigit.2
        change b.toNat ≤ 26 at this
        omega
      rw [if_pos hdigit, if_pos (by simpa [isDigitByte] using hdigit)]
      exact decimal_digit ⟨b.toNat - 17, hlt⟩
    · rw [if_neg hdigit, if_neg (by simpa [isDigitByte] using hdigit)]

/-- A remark takes the rest of its line. -/
theorem readBody_remark {s : List UInt8} (hs : ∀ c ∈ s, c ≠ 0) (hb : b ≠ 0)
    (hi : readItem b (s ++ 0 :: rest) = some i) (hremark : i.remark = true) (hrest : i.rest = s ++ 0 :: rest) :
    readBody (b :: (s ++ 0 :: rest)) = (i.pieces ++ [⟨.comment, s.flatMap Remark.shown⟩], 0 :: rest) := by
  have htake : (s ++ 0 :: rest).takeWhile (· != 0) = s := by
    rw [List.takeWhile_append_of_pos fun c hc => bne_iff_ne.2 (hs c hc), List.takeWhile_cons_of_neg (by decide),
      List.append_nil]
  have hdrop : (s ++ 0 :: rest).dropWhile (· != 0) = 0 :: rest := by
    rw [List.dropWhile_append_of_pos fun c hc => bne_iff_ne.2 (hs c hc), List.dropWhile_cons_of_neg (by decide)]
  rw [readBody_item hb hi, hremark, if_pos rfl, hrest, htake, hdrop, funext remarkText_eq_shown]

theorem ReadsAs.startRemark {s : List UInt8} (hs : ∀ c ∈ s, c ≠ 0) (hb : b ≠ 0)
    (hi : readItem b (s ++ 0 :: rest) = some i) (hremark : i.remark = true) (hrest : i.rest = s ++ 0 :: rest) :
    ReadsAs (b :: (s ++ 0 :: rest)) (Segment.textOf i.pieces ++ s.flatMap Remark.shown) (0 :: rest) := by
  rw [ReadsAs, readBody_remark hs hb hi hremark hrest]
  simp [Segment.textOf]

theorem readsAs_remark (r : Remark) (rest : List UInt8) :
    ReadsAs (r.encode ++ 0 :: rest) r.render (0 :: rest) := by
  obtain ⟨sign, s, hs⟩ := r
  have hquote : ReadsAs (0xE6 :: (s ++ 0 :: rest)) ("'".toList ++ s.flatMap Remark.shown) (0 :: rest) :=
    ReadsAs.startRemark (b := 0xE6) hs (by decide) rfl rfl rfl
  cases sign with
  | rem => exact ReadsAs.startRemark (b := 0x8F) hs (by decide) rfl rfl rfl
  | quote => exact hquote
  | hidden => exact hquote.item (b := 0x3A) (by decide) rfl rfl

theorem readsAs_body (tokens : List Token) (remark : Option Remark) (hapart : ColonsApart remark tokens)
    (rest : List UInt8) :
    ReadsAs (encodeBody tokens remark ++ 0 :: rest)
      (tokens.flatMap Token.render ++ (remark.map Remark.render).getD []) (0 :: rest) := by
  induction tokens with
  | nil =>
    cases remark with
    | none => exact readsAs_end
    | some r => exact readsAs_remark r rest
  | cons t tokens ih =>
    have hread := (ih hapart.2).token t fun ht => ?_
    · simpa only [encodeBody, List.flatMap_cons, List.append_assoc] using hread
    · have hhead := hapart.1 ht
      cases hbytes : encodeBody tokens remark with
      | nil => constructor <;> intro h <;> cases h
      | cons c bytes =>
        rw [hbytes] at hhead
        exact hhead

theorem word_number {n : Nat} (h : n < 65536) : word (UInt8.ofNat (n % 256)) (UInt8.ofNat (n / 256)) = n := by
  rw [word, UInt8.toNat_ofNat', UInt8.toNat_ofNat']
  omega

end

/-- Reading a line shows it and goes on behind it, unless the program ends there. -/
theorem textOf_readLines (l : TokenLine) (rest : List UInt8) :
    Segment.textOf (readLines (l.encode ++ rest)) =
      l.render ++ if atEndMark rest then [] else Segment.textOf (readLines rest) := by
  obtain ⟨htext, hrest⟩ := readsAs_body l.tokens l.remark l.apart rest
  have hbytes : l.encode ++ rest = l.link.1 :: l.link.2 :: UInt8.ofNat (l.number % 256) ::
      UInt8.ofNat (l.number / 256) :: (encodeBody l.tokens l.remark ++ 0 :: rest) := by
    simp [TokenLine.encode]
  have hend : endLine (0 :: rest) = ([⟨.plain, ['\n']⟩], rest) := rfl
  rw [hbytes, readLines]
  simp only [hrest, hend, word_number l.number_lt]
  rw [TokenLine.render, ← htext]
  split <;> simp [Segment.textOf]

theorem listing_eq (rest : List UInt8) : listing (0xFF :: rest) = .ok (Segment.textOf (readLines rest)) := by
  have hpieces : listing (0xFF :: rest) = .ok (Segment.textOf (Segment.join (readLines rest))) := rfl
  rw [hpieces, Segment.textOf_join]

theorem segments_of_readLines {rest : List UInt8} {shown : List Segment} (h : Segment.join (readLines rest) = shown) :
    segments (0xFF :: rest) = .ok shown :=
  congrArg Except.ok h

/-! ## Reading a program -/

theorem textOf_readLines_all {lines : List TokenLine} (hlink : ∀ l ∈ lines, l.link ≠ (0, 0)) (first : TokenLine)
    (trailing : List UInt8) :
    Segment.textOf (readLines (first.encode ++ (lines.flatMap TokenLine.encode ++ 0 :: 0 :: trailing))) =
      first.render ++ lines.flatMap TokenLine.render := by
  induction lines generalizing first with
  | nil => rw [textOf_readLines]; rfl
  | cons l lines ih =>
    have hmark : ∀ rest, atEndMark (l.encode ++ rest) = false := by
      intro rest
      have hne := hlink l List.mem_cons_self
      simp only [TokenLine.encode, List.cons_append, atEndMark, Bool.and_eq_false_imp, decide_eq_true_eq,
        decide_eq_false_iff_not]
      exact fun hlow hhigh => hne (Prod.ext hlow hhigh)
    rw [List.flatMap_cons, List.append_assoc, textOf_readLines, hmark, if_neg Bool.false_ne_true,
      ih (fun m hm => hlink m (List.mem_cons_of_mem _ hm)) l]
    rfl

/-- A tokenised program is listed as the lines that it was written from, whatever bytes come behind its
end. Only the first line may have the link of the end. -/
theorem listing_encode (first : TokenLine) (lines : List TokenLine) (hlink : ∀ l ∈ lines, l.link ≠ (0, 0))
    (trailing : List UInt8) :
    listing (0xFF :: ((first :: lines).flatMap TokenLine.encode ++ 0 :: 0 :: trailing)) =
      .ok ((first :: lines).flatMap TokenLine.render) := by
  rw [listing_eq, List.flatMap_cons, List.append_assoc, textOf_readLines_all hlink]
  rfl

/-- A line with the link of the end, with operands that have a zero, a quote and the code of REM in them, and
with words and colons that are not shown. -/
def operandLine : TokenLine where
  link := (0, 0)
  number := 10
  tokens := [.reserved ⟨10, by rw [length_statementWords]; decide⟩ (by decide), .line 0 0x22, .elseWord,
    .string [0x8F, 0x3A] (by simp), .colon, .byte 0x8F]
  remark := some ⟨.hidden, [0x41], by simp⟩
  number_lt := by decide
  apart := by simp [ColonsApart, encodeBody, Token.encode]

/-- A line that goes to line 0. -/
def zeroLine : TokenLine where
  link := (0, 1)
  number := 300
  tokens := [.reserved ⟨8, by rw [length_statementWords]; decide⟩ (by decide), .whole 0 0]
  remark := none
  number_lt := by decide
  apart := by simp [ColonsApart]

/-- The two lines, with bytes behind the end that look like another line. -/
theorem listing_encode_operands :
    listing [0xFF, 0, 0, 10, 0, 0x8B, 0x0E, 0, 0x22, 0x3A, 0xA1, 0x22, 0x8F, 0x3A, 0x22, 0x3A, 0x0F, 0x8F, 0x3A, 0x8F,
        0xE6, 0x41, 0, 0, 1, 44, 1, 0x89, 0x1C, 0, 0, 0, 0, 0, 1, 1, 1, 1, 0] =
      .ok "10 IF8704ELSE\"\u008f:\":143'A\n300 GOTO0\n".toList := by
  have h := listing_encode operandLine [zeroLine] (by decide) [1, 1, 1, 1, 0]
  have htext : [operandLine, zeroLine].flatMap TokenLine.render =
      "10 IF8704ELSE\"\u008f:\":143'A\n300 GOTO0\n".toList := by decide +kernel
  rw [htext] at h
  exact h

end MsxWorkbench.Program
