import MsxWorkbench.Proofs.Program.ItemForms
import MsxWorkbench.Proofs.Program.OffsetReading
/-
# How a line ends

The last thing on a line may be a string that nothing closes or a remark. Such a string is kept to its line if
and only if it has a character (`open_string_iff`): right behind the opening quote the zero byte is taken for one.
A remark is read as a remark if and only if no colon stands before it (`remark_iff`): the colon and REM are both
left out, and what was the remark is read as tokens.
-/
namespace MsxWorkbench.Program

/-! ## The front of a line -/

/-- What stands on a line before its last item. -/
structure LineFront where
  link : UInt8 × UInt8
  number : Nat
  tokens : List Token
  number_lt : number < 65536
  apart : ColonsApart none tokens

namespace LineFront

def encode (l : LineFront) : List UInt8 :=
  l.link.1 :: l.link.2 :: UInt8.ofNat (l.number % 256) :: UInt8.ofNat (l.number / 256) ::
    l.tokens.flatMap Token.encode

/-- The pieces that show the number of the line and its tokens. -/
def pieces (l : LineFront) : List Segment :=
  ⟨.lineNumber, decimal l.number⟩ :: ⟨.plain, [' ']⟩ :: l.tokens.map Token.segment

end LineFront

/-- The pieces of the lines behind a line; there are none if the program ends there. -/
def linesBehind (rest : List UInt8) : List Segment := if atEndMark rest then [] else readLines rest

theorem Token.encode_ne_nil (t : Token) : t.encode ≠ [] := by
  cases t <;> simp [Token.encode]

theorem head?_flatMap_encode (t : Token) (tokens : List Token) (bytes : List UInt8) :
    ((t :: tokens).flatMap Token.encode ++ bytes).head? = t.encode.head? := by
  rw [List.flatMap_cons, List.append_assoc, List.head?_append_of_ne_nil _ t.encode_ne_nil]

/-- Tokens are read as the pieces that show them, whatever comes behind them, if a colon at their end is kept apart
from REM and ELSE. -/
theorem readBody_tokens {tokens : List Token} (hapart : ColonsApart none tokens) {bytes : List UInt8}
    (hlast : tokens.getLast? = some .colon → bytes.head? ≠ some 0x8F ∧ bytes.head? ≠ some 0xA1) :
    readBody (tokens.flatMap Token.encode ++ bytes) =
      (tokens.map Token.segment ++ (readBody bytes).1, (readBody bytes).2) := by
  induction tokens with
  | nil => rfl
  | cons t tokens ih =>
    have hbehind : t = .colon →
        (tokens.flatMap Token.encode ++ bytes).head? ≠ some 0x8F ∧
          (tokens.flatMap Token.encode ++ bytes).head? ≠ some 0xA1 := by
      rintro rfl
      cases tokens with
      | nil => exact hlast rfl
      | cons u tokens =>
        have hnext := hapart.1 rfl
        rw [encodeBody, head?_flatMap_encode] at hnext
        rw [head?_flatMap_encode]
        exact hnext
    have hrest := ih hapart.2 fun h => hlast (by rw [List.getLast?_cons, h]; rfl)
    rw [List.flatMap_cons, List.append_assoc, readBody_token t hbehind, hrest]
    rfl

theorem fromBody_tokens {tokens : List Token} (hapart : ColonsApart none tokens) {bytes : List UInt8}
    (hlast : tokens.getLast? = some .colon → bytes.head? ≠ some 0x8F ∧ bytes.head? ≠ some 0xA1) :
    Walk.fromBody (tokens.flatMap Token.encode ++ bytes) = tokens.map Token.segment ++ Walk.fromBody bytes := by
  rw [Walk.fromBody, readBody_tokens hapart hlast, Walk.fromBody, List.append_assoc]

theorem segments_front (l : LineFront) (bytes : List UInt8) :
    segments (0xFF :: (l.encode ++ bytes)) =
      .ok (Segment.join (⟨.lineNumber, decimal l.number⟩ :: ⟨.plain, [' ']⟩ ::
        Walk.fromBody (l.tokens.flatMap Token.encode ++ bytes))) := by
  have hbytes : l.encode ++ bytes = l.link.1 :: l.link.2 :: UInt8.ofNat (l.number % 256) ::
      UInt8.ofNat (l.number / 256) :: (l.tokens.flatMap Token.encode ++ bytes) := rfl
  have hlines : readLines (l.encode ++ bytes) = ⟨.lineNumber, decimal l.number⟩ :: ⟨.plain, [' ']⟩ ::
      Walk.fromBody (l.tokens.flatMap Token.encode ++ bytes) := by
    rw [hbytes, readLines, word_number l.number_lt]
    simp only [Walk.fromBody, Walk.fromEnd]
    split <;> simp
  rw [← hlines]
  rfl

/-- The front of a line is shown, and the body goes on behind it. -/
theorem segments_front_apart (l : LineFront) {bytes : List UInt8}
    (hlast : l.tokens.getLast? = some .colon → bytes.head? ≠ some 0x8F ∧ bytes.head? ≠ some 0xA1) :
    segments (0xFF :: (l.encode ++ bytes)) = .ok (Segment.join (l.pieces ++ Walk.fromBody bytes)) := by
  rw [segments_front, fromBody_tokens l.apart hlast]
  rfl

/-! ## Strings that nothing closes -/

theorem readString_open {s : List UInt8} (hs : ∀ b ∈ s, b ≠ 0 ∧ b ≠ 0x22) (hne : s ≠ []) (rest : List UInt8) :
    readString (s ++ 0 :: rest) = (s.map charOf, 0 :: rest) := by
  induction s with
  | nil => exact absurd rfl hne
  | cons b s ih =>
    rw [List.cons_append, readString, if_neg (hs b List.mem_cons_self).2]
    cases s with
    | nil => rfl
    | cons c s =>
      have hnext : (c :: s ++ 0 :: rest).head? ≠ some 0 := fun h =>
        (hs c (List.mem_cons_of_mem _ List.mem_cons_self)).1 (Option.some.inj h)
      rw [if_neg hnext, ih (fun d hd => hs d (List.mem_cons_of_mem _ hd)) (List.cons_ne_nil c s)]
      rfl

/-- At the end of the file a string is all that is left. -/
theorem readString_cut {s : List UInt8} (hs : ∀ b ∈ s, b ≠ 0 ∧ b ≠ 0x22) : readString s = (s.map charOf, []) := by
  induction s with
  | nil => rfl
  | cons b s ih =>
    have hnext : s.head? ≠ some 0 := fun h =>
      (hs 0 (List.mem_cons_of_mem _ (List.mem_of_mem_head? h))).1 rfl
    rw [readString, if_neg (hs b List.mem_cons_self).2, if_neg hnext, ih fun c hc => hs c (List.mem_cons_of_mem _ hc)]
    rfl

theorem fromBody_string (bytes : List UInt8) :
    Walk.fromBody (0x22 :: bytes) =
      ⟨.string, '"' :: (readString bytes).1⟩ :: Walk.fromBody (readString bytes).2 := by
  have hitem : readItem 0x22 bytes = some (.piece .string ('"' :: (readString bytes).1) (readString bytes).2) := rfl
  rw [Walk.fromBody, readBody_piece (by decide) hitem]
  rfl

theorem fromBody_nil : Walk.fromBody [] = [] := by
  rw [Walk.fromBody, readBody]
  simp [Walk.fromEnd, endLine, atEndMark, readLines]

theorem fromBody_zero (rest : List UInt8) : Walk.fromBody (0 :: rest) = ⟨.plain, ['\n']⟩ :: linesBehind rest := by
  rw [Walk.fromBody, readBody, if_pos rfl]
  rfl

/-- A zero byte right behind the opening quote is the first character of the string. -/
theorem readString_zero (rest : List UInt8) : ∃ text, (readString (0 :: rest)).1 = charOf 0 :: text := by
  rw [readString, if_neg (by decide)]
  split
  · exact ⟨[], rfl⟩
  · exact ⟨(readString rest).1, rfl⟩

theorem listing_of_segments {file : List UInt8} {pieces : List Segment}
    (h : segments file = .ok (Segment.join pieces)) : listing file = .ok (Segment.textOf pieces) := by
  rw [listing, h, ← Segment.textOf_join pieces]
  rfl

/-- A string behind the front of a line. -/
theorem segments_string (l : LineFront) (bytes : List UInt8) :
    segments (0xFF :: (l.encode ++ 0x22 :: bytes)) =
      .ok (Segment.join (l.pieces ++ ⟨.string, '"' :: (readString bytes).1⟩ ::
        Walk.fromBody (readString bytes).2)) := by
  rw [segments_front_apart l fun _ => ⟨by simp, by simp⟩, fromBody_string]

/-- A string that nothing closes is kept to its line, and the lines behind it are read, if and only if the string has
a character. -/
theorem open_string_iff (l : LineFront) {s : List UInt8} (hs : ∀ b ∈ s, b ≠ 0 ∧ b ≠ 0x22) (rest : List UInt8) :
    segments (0xFF :: (l.encode ++ 0x22 :: s)) = .ok (Segment.join (l.pieces ++ [⟨.string, '"' :: s.map charOf⟩])) ∧
    (segments (0xFF :: (l.encode ++ 0x22 :: (s ++ 0 :: rest))) =
        .ok (Segment.join
          (l.pieces ++ ⟨.string, '"' :: s.map charOf⟩ :: ⟨.plain, ['\n']⟩ :: linesBehind rest)) ↔ s ≠ []) ∧
    (listing (0xFF :: (l.encode ++ 0x22 :: (s ++ 0 :: rest))) =
        .ok (Segment.textOf
          (l.pieces ++ ⟨.string, '"' :: s.map charOf⟩ :: ⟨.plain, ['\n']⟩ :: linesBehind rest)) ↔ s ≠ []) := by
  have hkept : s ≠ [] → segments (0xFF :: (l.encode ++ 0x22 :: (s ++ 0 :: rest))) =
      .ok (Segment.join
        (l.pieces ++ ⟨.string, '"' :: s.map charOf⟩ :: ⟨.plain, ['\n']⟩ :: linesBehind rest)) := by
    intro hne
    rw [segments_string, readString_open hs hne, fromBody_zero]
  have htaken : listing (0xFF :: (l.encode ++ 0x22 :: (s ++ 0 :: rest))) =
      .ok (Segment.textOf
        (l.pieces ++ ⟨.string, '"' :: s.map charOf⟩ :: ⟨.plain, ['\n']⟩ :: linesBehind rest)) → s ≠ [] := by
    rintro h rfl
    obtain ⟨text, hzero⟩ := readString_zero rest
    -- behind the quote the listing has the character of the zero byte where a line break should be
    rw [List.nil_append, listing_of_segments (segments_string l _), hzero] at h
    simp [Segment.textOf, charOf] at h
  refine ⟨?_, ⟨fun h => htaken (listing_of_segments h), hkept⟩, htaken, fun hne => listing_of_segments (hkept hne)⟩
  rw [segments_string, readString_cut hs, fromBody_nil]

/-- The front of a line 40 with the word PRINT. -/
def printFront : LineFront where
  link := (0, 0)
  number := 40
  tokens := [.reserved ⟨16, by rw [length_statementWords]; decide⟩ (by decide)]
  number_lt := by decide
  apart := by simp [ColonsApart]

/-- In front of a line 50, a string HI that nothing closes. -/
theorem open_string_iff_print :
    segments [0xFF, 0, 0, 40, 0, 0x91, 0x22, 0x48, 0x49, 0, 1, 0x80, 50, 0, 0x81, 0, 0, 0] =
      .ok (Segment.join (printFront.pieces ++ ⟨.string, ['"', 'H', 'I']⟩ :: ⟨.plain, ['\n']⟩ ::
        linesBehind [1, 0x80, 50, 0, 0x81, 0, 0, 0])) :=
  (open_string_iff printFront (s := [0x48, 0x49]) (by simp) [1, 0x80, 50, 0, 0x81, 0, 0, 0]).2.1.2 (by decide)

/-- A quote that ends a line takes the line behind it into its string. -/
theorem line_in_string :
    segments [0xFF, 0, 0, 10, 0, 0x91, 0x22, 0, 1, 0x80, 20, 0, 0x81, 0, 0, 0] =
      .ok [⟨.lineNumber, ['1', '0']⟩, ⟨.plain, [' ']⟩, ⟨.command, "PRINT".toList⟩,
        ⟨.string, ['"', '\x00', '\x01', '\x80', '\x14']⟩, ⟨.plain, ['\n']⟩, ⟨.lineNumber, ['0']⟩, ⟨.plain, [' ']⟩] :=
  segments_of_readLines (by decide +kernel)

/-! ## Remarks -/

theorem fromBody_rem {s : List UInt8} (hs : ∀ b ∈ s, b ≠ 0) (rest : List UInt8) :
    Walk.fromBody (0x8F :: (s ++ 0 :: rest)) =
      ⟨.command, "REM".toList⟩ :: ⟨.comment, s.flatMap Remark.shown⟩ :: ⟨.plain, ['\n']⟩ :: linesBehind rest := by
  have hbody : readBody (0x8F :: (s ++ 0 :: rest)) =
      ([⟨.command, "REM".toList⟩, ⟨.comment, s.flatMap Remark.shown⟩], 0 :: rest) :=
    readBody_remark (i := ⟨[⟨.command, "REM".toList⟩], true, s ++ 0 :: rest⟩) hs (by decide) rfl rfl rfl
  rw [Walk.fromBody, hbody]
  rfl

/-- Behind a colon the code of REM is left out with the colon. -/
theorem fromBody_colon_rem (bytes : List UInt8) : Walk.fromBody (0x3A :: 0x8F :: bytes) = Walk.fromBody bytes := by
  have hbody : readBody (0x3A :: 0x8F :: bytes) = readBody bytes :=
    readBody_item (by decide) (rfl : readItem 0x3A (0x8F :: bytes) = some ⟨[], false, bytes⟩)
  rw [Walk.fromBody, hbody, Walk.fromBody]

theorem ColonsApart.of_append {tokens more : List Token} (h : ColonsApart none (tokens ++ more)) :
    ColonsApart none tokens := by
  induction tokens with
  | nil => trivial
  | cons t tokens ih =>
    refine ⟨fun ht => ?_, ih h.2⟩
    cases tokens with
    | nil => simp [encodeBody]
    | cons u tokens =>
      have hnext := h.1 ht
      change (encodeBody (u :: (tokens ++ more)) none).head? ≠ _ ∧ (encodeBody (u :: (tokens ++ more)) none).head? ≠ _
        at hnext
      rw [encodeBody, head?_flatMap_encode] at hnext
      rw [encodeBody, head?_flatMap_encode]
      exact hnext

/-- Behind a front that ends with a colon, REM is left out with the colon, and the body goes on with what should be
its remark. -/
theorem segments_colon_rem {l : LineFront} (hlast : l.tokens.getLast? = some .colon) (bytes : List UInt8) :
    segments (0xFF :: (l.encode ++ 0x8F :: bytes)) =
      .ok (Segment.join (l.pieces.dropLast ++ Walk.fromBody bytes)) := by
  obtain ⟨tokens, htokens⟩ := List.getLast?_eq_some_iff.1 hlast
  have hapart : ColonsApart none tokens := (htokens ▸ l.apart).of_append
  have hbytes : l.tokens.flatMap Token.encode ++ 0x8F :: bytes =
      tokens.flatMap Token.encode ++ 0x3A :: 0x8F :: bytes := by
    simp [htokens, Token.encode]
  have hbody : Walk.fromBody (l.tokens.flatMap Token.encode ++ 0x8F :: bytes) =
      tokens.map Token.segment ++ Walk.fromBody bytes := by
    rw [hbytes, fromBody_tokens hapart fun _ => ⟨by simp, by simp⟩, fromBody_colon_rem]
  have hpieces : l.pieces.dropLast =
      ⟨.lineNumber, decimal l.number⟩ :: ⟨.plain, [' ']⟩ :: tokens.map Token.segment := by
    rw [LineFront.pieces, htokens, List.map_append, ← List.cons_append, ← List.cons_append]
    exact List.dropLast_concat
  rw [segments_front, hbody, hpieces]
  rfl

/-! ### What a body shows as a remark -/

/-- Where the remark of a body comes from. -/
inductive RemarkFrom (bytes : List UInt8) (pieces : List Segment) : Prop where
  | nowhere (hcomment : Segment.textIn .comment pieces = [])
      (hcommand : Segment.textIn .command pieces ≠ [] → ∃ b ∈ bytes, 0x80 ≤ b)
  | rem {before after : List UInt8} (hbytes : bytes = before ++ 0x8F :: after)
      (hcomment : Segment.textIn .comment pieces = (after.takeWhile (· != 0)).flatMap Remark.shown)
  | apostrophe {before after : List UInt8} (hbytes : bytes = before ++ 0xE6 :: after)
      (hcomment : Segment.textIn .comment pieces = '\'' :: (after.takeWhile (· != 0)).flatMap Remark.shown)

theorem textIn_item {b : UInt8} {rest : List UInt8} {i : Item} (hi : readItem b rest = some i)
    (hremark : i.remark ≠ true) :
    Segment.textIn .comment i.pieces = [] ∧ (Segment.textIn .command i.pieces ≠ [] → 0x80 ≤ b) := by
  cases readItem_form hi with
  | piece hkind htext hafter =>
    rcases hkind with rfl | rfl | rfl | ⟨rfl, hb⟩
    · simp [Item.piece]
    · simp [Item.piece]
    · simp [Item.piece]
    · simp [Item.piece, hb]
  | silent hafter => simp
  | string => simp [Item.piece]
  | rem hb => exact absurd rfl hremark
  | apostrophe hb => exact absurd rfl hremark

theorem readBody_remarkFrom (bytes : List UInt8) : RemarkFrom bytes (readBody bytes).1 := by
  fun_induction readBody bytes with
  | case1 => exact .nowhere rfl (absurd rfl)
  | case2 rest => exact .nowhere rfl (absurd rfl)
  | case3 b rest hb hi => exact .nowhere rfl (absurd rfl)
  | case4 b rest hb i hi hremark =>
    rw [funext remarkText_eq_shown]
    cases readItem_form hi with
    | piece hkind htext hafter => cases hremark
    | silent hafter => cases hremark
    | string => cases hremark
    | rem hb =>
      subst hb
      exact .rem (List.nil_append _).symm (by simp)
    | apostrophe hb =>
      subst hb
      exact .apostrophe (List.nil_append _).symm (by simp)
  | case5 b rest hb i hi hremark line ih =>
    obtain ⟨hcomment, hcommand⟩ := textIn_item hi hremark
    obtain ⟨before, hrest⟩ := rest_suffix hi
    -- the item takes `b` and the bytes `before`
    have hbytes : b :: rest = (b :: before) ++ i.rest := by rw [List.cons_append, hrest]
    cases ih with
    | nowhere hnone hcode =>
      refine .nowhere (by rw [Segment.textIn_append, hcomment, hnone]; rfl) fun h => ?_
      rw [Segment.textIn_append] at h
      by_cases hitem : Segment.textIn .command i.pieces = []
      · obtain ⟨c, hc, hle⟩ := hcode fun hline => h (by rw [hitem, hline]; rfl)
        exact ⟨c, hbytes ▸ List.mem_append_right _ hc, hle⟩
      · exact ⟨b, List.mem_cons_self, hcommand hitem⟩
    | rem hsplit htext =>
      refine .rem (hbytes.trans (by rw [hsplit, ← List.append_assoc])) ?_
      rw [Segment.textIn_append, hcomment, htext]
      rfl
    | apostrophe hsplit htext =>
      refine .apostrophe (hbytes.trans (by rw [hsplit, ← List.append_assoc])) ?_
      rw [Segment.textIn_append, hcomment, htext]
      rfl

/-! ### The last line -/

theorem split_before_zero {s before after : List UInt8} {b : UInt8} (h : s ++ [0] = before ++ b :: after) :
    (b = 0 ∧ after = []) ∨ ∃ text, s = before ++ b :: text ∧ after = text ++ [0] := by
  rcases List.eq_nil_or_concat after with rfl | ⟨text, c, rfl⟩
  · obtain ⟨-, hlast⟩ := List.append_inj' h rfl
    cases hlast
    exact .inl ⟨rfl, rfl⟩
  · have hconcat : s ++ [0] = (before ++ b :: text) ++ [c] := by simpa using h
    obtain ⟨hs, hlast⟩ := List.append_inj' hconcat rfl
    cases hlast
    exact .inr ⟨text, hs, List.concat_eq_append⟩

/-- At the end of a program little is left behind a body: its zero byte or an item that is cut off. -/
theorem length_left_le {s : List UInt8} (hs : ∀ b ∈ s, b ≠ 0) : (readBody (s ++ [0])).2.length ≤ 4 := by
  obtain ⟨⟨before, hbytes⟩, (hnil | hzero) | ⟨b, rest, hrest, -, hi⟩⟩ := readBody_rest (s ++ [0])
  · simp [hnil]
  · obtain ⟨after, hafter⟩ := List.head?_eq_some_iff.1 hzero
    rw [hafter] at hbytes
    rcases split_before_zero hbytes.symm with ⟨-, rfl⟩ | ⟨text, rfl, -⟩
    · simp [hafter]
    · exact absurd rfl (hs 0 (by simp))
  · have hlength := length_of_readItem_none hi
    rw [hrest, List.length_cons]
    omega

theorem kind_of_short {bytes : List UInt8} (h : bytes.length ≤ 4) :
    ∀ p ∈ Walk.fromEnd bytes, p.kind = .plain ∨ p.kind = .lineNumber := by
  have hlines : ∀ {bytes : List UInt8}, bytes.length ≤ 4 →
      ∀ p ∈ readLines bytes, p.kind = .plain ∨ p.kind = .lineNumber := by
    intro bytes h
    rcases bytes with _ | ⟨a, _ | ⟨b, _ | ⟨c, _ | ⟨d, _ | ⟨e, bytes⟩⟩⟩⟩⟩
    · simp [readLines]
    · simp [readLines]
    · simp [readLines]
    · simp [readLines]
    · simp [readLines, readBody, endLine, atEndMark]
    · simp only [List.length_cons] at h
      omega
  intro p hp
  rcases List.mem_append.1 hp with hp | hp
  · cases bytes with
    | nil => cases hp
    | cons b rest =>
      rw [Program.endLine] at hp
      split at hp
      · exact .inl (by rw [List.mem_singleton.1 hp])
      · cases hp
  · split at hp
    · cases hp
    · exact hlines ((endLine_length_le bytes).trans h) p hp

theorem takeWhile_text {s before text : List UInt8} {b : UInt8} (hs : ∀ c ∈ s, c ≠ 0) (h : s = before ++ b :: text) :
    (text ++ [0]).takeWhile (· != 0) = text := by
  rw [List.takeWhile_append_of_pos fun c hc => bne_iff_ne.2 (hs c (by simp [h, hc]))]
  simp

theorem shown_code {b : UInt8} (h : 0x80 ≤ b) : Remark.shown b = [charOf b] :=
  if_pos (UInt8.le_trans (by decide) h)

/-- Read as tokens, the bytes of a remark never show both a command and the remark. -/
theorem fromBody_ne_remark {s : List UInt8} (hs : ∀ b ∈ s, b ≠ 0)
    (hcommand : Segment.textIn .command (Walk.fromBody (s ++ [0])) ≠ []) :
    Segment.textIn .comment (Walk.fromBody (s ++ [0])) ≠ s.flatMap Remark.shown := by
  have hbody : ∀ {kind : Kind}, kind ≠ .plain ∧ kind ≠ .lineNumber →
      Segment.textIn kind (Walk.fromBody (s ++ [0])) = Segment.textIn kind (readBody (s ++ [0])).1 := by
    rintro kind ⟨hplain, hnumber⟩
    have hend : Segment.textIn kind (Walk.fromEnd (readBody (s ++ [0])).2) = [] := by
      refine Segment.textIn_eq_nil fun p hp hkind => ?_
      rcases kind_of_short (length_left_le hs) p hp with h | h
      · exact hplain (hkind ▸ h)
      · exact hnumber (hkind ▸ h)
    rw [Walk.fromBody, Segment.textIn_append, hend, List.append_nil]
  rw [hbody (by decide)] at hcommand ⊢
  intro heq
  cases readBody_remarkFrom (s ++ [0]) with
  | nowhere hcomment hcode =>
    obtain ⟨b, hb, hle⟩ := hcode hcommand
    rcases List.mem_append.1 hb with hb | hb
    · have hnone := List.flatMap_eq_nil_iff.1 (heq.symm.trans hcomment) b hb
      rw [shown_code hle] at hnone
      cases hnone
    · rw [List.mem_singleton.1 hb] at hle
      exact absurd hle (by decide)
  | rem hbytes hcomment =>
    rcases split_before_zero hbytes with ⟨hzero, -⟩ | ⟨text, htext, rfl⟩
    · exact absurd hzero (by decide)
    -- the remark would be longer than itself by what the code of REM shows
    · rw [hcomment, takeWhile_text hs htext, htext, List.flatMap_append, List.flatMap_cons,
        shown_code (by decide)] at heq
      have hlength := congrArg List.length heq
      simp only [List.length_append, List.length_singleton] at hlength
      omega
  | @apostrophe before after hbytes hcomment =>
    rcases split_before_zero hbytes with ⟨hzero, -⟩ | ⟨text, htext, rfl⟩
    · exact absurd hzero (by decide)
    -- the lengths agree if nothing is shown before the code, and then the first characters differ
    · rw [hcomment, takeWhile_text hs htext, htext, List.flatMap_append, List.flatMap_cons,
        shown_code (by decide)] at heq
      have hlength := congrArg List.length heq
      simp only [List.length_append, List.length_cons] at hlength
      have hbefore : before.flatMap Remark.shown = [] := List.eq_nil_of_length_eq_zero (by omega)
      rw [hbefore, List.nil_append, List.singleton_append, List.cons.injEq] at heq
      exact absurd heq.1 (by decide)

theorem textIn_pieces {l : LineFront} (hlast : l.tokens.getLast? = some .colon) {kind : Kind} (hkind : kind ≠ .plain) :
    Segment.textIn kind l.pieces = Segment.textIn kind l.pieces.dropLast := by
  have hcolon : l.pieces.getLast? = some Token.colon.segment := by
    simp [LineFront.pieces, List.getLast?_cons, hlast]
  have hpieces := Segment.textIn_append kind l.pieces.dropLast [Token.colon.segment]
  rw [List.dropLast_append_getLast? _ hcolon] at hpieces
  have hnone : Segment.textIn kind [Token.colon.segment] = [] :=
    Segment.textIn_eq_nil (List.forall_mem_singleton.2 hkind.symm)
  rw [hpieces, hnone, List.append_nil]

/-- **A remark is read as a remark**, whatever lines stand behind it, if and only if no colon stands right before it.
Behind a colon the bytes of the remark are read as tokens. -/
theorem remark_iff (l : LineFront) {s : List UInt8} (hs : ∀ b ∈ s, b ≠ 0) :
    ((∀ rest, segments (0xFF :: (l.encode ++ 0x8F :: (s ++ 0 :: rest))) =
        .ok (Segment.join (l.pieces ++ ⟨.command, "REM".toList⟩ :: ⟨.comment, s.flatMap Remark.shown⟩ ::
          ⟨.plain, ['\n']⟩ :: linesBehind rest))) ↔ l.tokens.getLast? ≠ some .colon) ∧
    (l.tokens.getLast? = some .colon → ∀ rest, segments (0xFF :: (l.encode ++ 0x8F :: (s ++ 0 :: rest))) =
        .ok (Segment.join (l.pieces.dropLast ++ Walk.fromBody (s ++ 0 :: rest)))) := by
  refine ⟨⟨fun h hlast => ?_, fun hlast rest => ?_⟩, fun hlast rest => segments_colon_rem hlast _⟩
  · have hjoin := Except.ok.inj ((segments_colon_rem hlast _).symm.trans (h []))
    have hlines : linesBehind [] = [] := by simp [linesBehind, atEndMark, readLines]
    have hcommand := Segment.textIn_of_join hjoin .command
    have hcomment := Segment.textIn_of_join hjoin .comment
    rw [Segment.textIn_append, Segment.textIn_append, textIn_pieces hlast (by decide), List.append_cancel_left_eq,
      hlines] at hcommand hcomment
    exact fromBody_ne_remark hs (by simp [hcommand]) (by simpa using hcomment)
  · rw [segments_front_apart l fun h => absurd h hlast, fromBody_rem hs]

/-- A remark with the code of a word and a digit in it. -/
theorem remark_iff_print :
    printFront.tokens.getLast? ≠ some .colon ∧
      ∀ rest, segments (0xFF :: 0 :: 0 :: 40 :: 0 :: 0x91 :: 0x8F :: 0x20 :: 0x91 :: 0x12 :: 0 :: rest) =
        .ok (Segment.join (printFront.pieces ++ ⟨.command, "REM".toList⟩ :: ⟨.comment, [' ', '\x91', '1']⟩ ::
          ⟨.plain, ['\n']⟩ :: linesBehind rest)) := by
  have hlast : printFront.tokens.getLast? ≠ some .colon := by simp [printFront]
  exact ⟨hlast, (remark_iff printFront (s := [0x20, 0x91, 0x12]) (by simp)).1.2 hlast⟩

/-- Behind a colon the word REM is not shown, and its remark is not shown as one. -/
theorem remark_behind_colon :
    segments [0xFF, 0, 0, 10, 0, 0x9F, 0x3A, 0x8F, 0x20, 0x41, 0, 0, 0] =
      .ok [⟨.lineNumber, ['1', '0']⟩, ⟨.plain, [' ']⟩, ⟨.command, "CLS".toList⟩, ⟨.plain, [' ', 'A', '\n']⟩] :=
  segments_of_readLines (by decide +kernel)

end MsxWorkbench.Program
