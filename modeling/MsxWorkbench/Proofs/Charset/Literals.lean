import MsxWorkbench.Charset.Source
import MsxWorkbench.Proofs.Text.Hexadecimal
import MsxWorkbench.Proofs.Text.Numerals
/-
# Literals

A literal goes up to the first apostrophe that no backslash takes with it (`spanLiteral?_eq_some_iff`), so the literals of
a text are found one after the other, with what lies between them passed over (`scanLiterals_quote`). A character can be
spelled in several ways, by itself, by a number or by an escape of its own; each spelling is a literal, and it is read as
the character (`itemText_of_spells`).
-/
namespace MsxWorkbench.Charset

open Text (apostrophe hexDigitChars hexDigitValue hexValue)

/-! ## Where a literal ends -/

/-- A text inside apostrophes: an apostrophe or a backslash stands only behind a backslash that takes it, and a line break
is never taken. -/
inductive IsLiteral : List Char → Prop
  | nil : IsLiteral []
  | plain {c : Char} {text : List Char} : c ≠ apostrophe → c ≠ '\\' → IsLiteral text → IsLiteral (c :: text)
  | escaped {d : Char} {text : List Char} : d ≠ '\n' → IsLiteral text → IsLiteral ('\\' :: d :: text)

theorem spanLiteral?_apostrophe (rest : List Char) : spanLiteral? (apostrophe :: rest) = some ([], rest) := by
  rw [spanLiteral?.eq_def]
  simp only [if_pos]

theorem spanLiteral?_plain {c : Char} (h : c ≠ apostrophe) (hback : c ≠ '\\') (rest : List Char) :
    spanLiteral? (c :: rest) = (spanLiteral? rest).map fun span => (c :: span.1, span.2) := by
  rw [spanLiteral?.eq_def]
  simp only [if_neg h, if_neg hback]

theorem spanLiteral?_escaped {d : Char} (h : d ≠ '\n') (rest : List Char) :
    spanLiteral? ('\\' :: d :: rest) = (spanLiteral? rest).map fun span => ('\\' :: d :: span.1, span.2) := by
  rw [spanLiteral?.eq_def]
  simp only [if_neg (show '\\' ≠ apostrophe by decide), if_pos, if_neg h]

/-- A literal is found up to its apostrophe. -/
theorem spanLiteral?_append {text : List Char} (h : IsLiteral text) (rest : List Char) :
    spanLiteral? (text ++ apostrophe :: rest) = some (text, rest) := by
  induction h with
  | nil => exact spanLiteral?_apostrophe rest
  | plain hne hback _ ih =>
    rw [List.cons_append, spanLiteral?_plain hne hback, ih]
    rfl
  | escaped hbreak _ ih =>
    rw [List.cons_append, List.cons_append, spanLiteral?_escaped hbreak, ih]
    rfl

theorem of_spanLiteral? {s text rest : List Char} (h : spanLiteral? s = some (text, rest)) :
    IsLiteral text ∧ s = text ++ apostrophe :: rest := by
  fun_induction spanLiteral? s generalizing text rest with
  | case1 => cases h
  | case2 after =>
    cases h
    exact ⟨.nil, rfl⟩
  | case3 => cases h
  | case4 => cases h
  | case5 d after hbreak _ ih =>
    obtain ⟨⟨more, behind⟩, hmore, hspan⟩ := Option.map_eq_some_iff.1 h
    cases hspan
    obtain ⟨hliteral, rfl⟩ := ih hmore
    exact ⟨.escaped hbreak hliteral, rfl⟩
  | case6 c after hne hback ih =>
    obtain ⟨⟨more, behind⟩, hmore, hspan⟩ := Option.map_eq_some_iff.1 h
    cases hspan
    obtain ⟨hliteral, rfl⟩ := ih hmore
    exact ⟨.plain hne hback hliteral, rfl⟩

/-- A literal goes up to the first apostrophe that is not taken. -/
theorem spanLiteral?_eq_some_iff {s text rest : List Char} :
    spanLiteral? s = some (text, rest) ↔ IsLiteral text ∧ s = text ++ apostrophe :: rest := by
  refine ⟨of_spanLiteral?, ?_⟩
  rintro ⟨hliteral, rfl⟩
  exact spanLiteral?_append hliteral rest

/-! ## The literals of a text -/

/-- A text between apostrophes. -/
def quote (text : List Char) : List Char := apostrophe :: (text ++ [apostrophe])

theorem scanLiterals_skip (skip : Nat) (s : List Char) : scanLiterals skip s = scanLiterals 0 (s.drop skip) := by
  induction skip generalizing s with
  | zero => rfl
  | succ skip ih =>
    cases s with
    | nil => rfl
    | cons c s => exact ih s

theorem scanLiterals_gap {gap : List Char} (h : apostrophe ∉ gap) (s : List Char) :
    scanLiterals 0 (gap ++ s) = scanLiterals 0 s := by
  induction gap with
  | nil => rfl
  | cons c gap ih =>
    rw [List.mem_cons, not_or] at h
    rw [List.cons_append, scanLiterals, if_neg (Ne.symm h.1)]
    exact ih h.2

theorem scanLiterals_quote {text : List Char} (h : IsLiteral text) (s : List Char) :
    scanLiterals 0 (quote text ++ s) = text :: scanLiterals 0 s := by
  have hquote : quote text ++ s = apostrophe :: (text ++ apostrophe :: s) := by simp [quote]
  rw [hquote, scanLiterals, if_pos rfl, spanLiteral?_append h]
  dsimp only
  rw [scanLiterals_skip, ← List.drop_drop, List.drop_left, List.drop_one, List.tail_cons]

/-! ## Hexadecimal numerals -/

/-- The characters that are marks in a numeral, in a literal or in an array. -/
def marks : List Char := ['-', '+', 'x', 'X', '\x7b', '\n', ']', '\\', apostrophe]

theorem hexDigit_spec {d : Char} (h : d ∈ hexDigitChars) :
    Text.baseDigit? 16 d = some (hexDigitValue d) ∧ Text.isNumeralBlank d = false ∧ d ∉ marks := by
  have hall : hexDigitChars.all (fun d => decide (Text.baseDigit? 16 d = some (hexDigitValue d)) &&
      !Text.isNumeralBlank d && !marks.contains d) = true := by decide
  have hd := List.all_eq_true.1 hall d h
  simp only [Bool.and_eq_true, decide_eq_true_eq, Bool.not_eq_true', List.contains_eq_mem, decide_eq_false_iff_not] at hd
  exact ⟨hd.1.1, hd.1.2, hd.2⟩

theorem spanNumeral_hex {digits : List Char} (h : ∀ d ∈ digits, d ∈ hexDigitChars) (after : Bool) :
    Text.spanNumeral 16 after digits = some (digits.map hexDigitValue, []) := by
  induction digits generalizing after with
  | nil => rfl
  | cons d digits ih =>
    rw [List.forall_mem_cons] at h
    rw [Text.spanNumeral.eq_def]
    simp only [(hexDigit_spec h.1).1, ih h.2, Option.map_some, List.map_cons]

theorem spanSign_of_digit {d : Char} (h : d ∉ marks) (rest : List Char) :
    Text.spanSign (d :: rest) = (false, d :: rest) := by
  rw [Text.spanSign]
  · rintro _ ⟨⟩
    exact h (by decide)
  · rintro _ ⟨⟩
    exact h (by decide)

theorem dropHexMark_hex {digits : List Char} (h : ∀ d ∈ digits, d ∈ hexDigitChars) : Text.dropHexMark digits = digits := by
  rw [Text.dropHexMark.eq_def]
  split
  · rename_i z x rest
    have hx : x ∉ marks := (hexDigit_spec (h x (by simp))).2.2
    have hmark : (x == 'x' || x == 'X') = false := by
      rw [Bool.or_eq_false_iff, beq_eq_false_iff_ne, beq_eq_false_iff_ne]
      constructor
      · rintro rfl
        exact hx (by decide)
      · rintro rfl
        exact hx (by decide)
    rw [hmark, Bool.and_false, if_neg Bool.false_ne_true]
  · rfl

/-- Hexadecimal digits are read as their value. -/
theorem readInteger_hex {digits : List Char} (hne : digits ≠ []) (h : ∀ d ∈ digits, d ∈ hexDigitChars) :
    Text.readInteger 16 digits = .ok (hexValue digits) := by
  obtain ⟨d, rest, rfl⟩ := List.exists_cons_of_ne_nil hne
  obtain ⟨-, hblank, hmark⟩ := hexDigit_spec (h d List.mem_cons_self)
  rw [Text.readInteger, List.dropWhile_cons_of_neg (by rw [hblank]; exact Bool.false_ne_true), spanSign_of_digit hmark]
  dsimp only
  rw [if_pos rfl, dropHexMark_hex h, spanNumeral_hex h]
  simp [hexValue, List.foldl_map]

/-! ## Spellings of a character -/

/-- The hexadecimal digits of the number of a character. -/
structure HexOf (digits : List Char) (c : Char) : Prop where
  nonempty : digits ≠ []
  value : hexValue digits = c.toNat
  hex : ∀ d ∈ digits, d ∈ hexDigitChars

/-- The ways to write a character in a literal: as it is, by its number, and by an escape of its own. -/
inductive Spells : List Char → Char → Prop
  | plain {c : Char} : c ≠ apostrophe → c ≠ '\\' → Spells [c] c
  | number {digits : List Char} {c : Char} : HexOf digits c → Spells ('\\' :: 'u' :: digits) c
  | braced {digits : List Char} {c : Char} : HexOf digits c → Spells ('\\' :: 'u' :: '\x7b' :: (digits ++ ['\x7d'])) c
  | byte {digits : List Char} {c : Char} : HexOf digits c → Spells ('\\' :: 'x' :: digits) c
  | zero : Spells ['\\', '0'] (Char.ofNat 0)
  | apostrophe : Spells ['\\', Text.apostrophe] Text.apostrophe
  | backslash : Spells ['\\', '\\'] '\\'

theorem textOfHex_of_hexOf {digits : List Char} {c : Char} (h : HexOf digits c) : textOfHex digits = .ok [c] := by
  have hvalid : c.toNat < 0xD800 ∨ 0xDFFF < c.toNat ∧ c.toNat < 0x110000 := c.valid
  rw [textOfHex, readInteger_hex h.nonempty h.hex, h.value]
  dsimp only
  rw [if_neg (by omega), if_neg (by omega), if_neg (by omega), Int.toNat_natCast, Char.ofNat_toNat]

theorem dropStart?_append (start s : List Char) : dropStart? start (start ++ s) = some s := by
  simp [dropStart?]

theorem dropStart?_eq_some_iff {start s rest : List Char} : dropStart? start s = some rest ↔ s = start ++ rest := by
  constructor
  · intro h
    rw [dropStart?] at h
    split at h
    · rename_i hstart
      obtain ⟨after, rfl⟩ := List.isPrefixOf_iff_prefix.1 hstart
      rw [List.drop_left] at h
      rw [Option.some.inj h]
    · cases h
  · rintro rfl
    exact dropStart?_append start rest

theorem dropStart?_eq_none {start s : List Char} (h : ¬ start <+: s) : dropStart? start s = none := by
  simp [dropStart?, h]

theorem itemText_plain {c : Char} (h : c ≠ '\\') : itemText [c] = .ok [c] := by
  simp [itemText, dropStart?, escapeStart, h, Ne.symm h]

theorem itemText_number {digits : List Char} (h : '\x7b' ∉ digits) : itemText ('\\' :: 'u' :: digits) = textOfHex digits := by
  have hbrace : ¬ ['\\', 'u', '\x7b'] <+: '\\' :: 'u' :: digits := by
    rintro ⟨rest, hrest⟩
    cases hrest
    exact h List.mem_cons_self
  have hnumber : dropStart? escapeStart ('\\' :: 'u' :: digits) = some digits := dropStart?_append escapeStart digits
  rw [itemText, if_neg (by simp), dropStart?_eq_none hbrace, hnumber]
  rfl

theorem itemText_braced (digits : List Char) :
    itemText ('\\' :: 'u' :: '\x7b' :: (digits ++ ['\x7d'])) = textOfHex digits := by
  have hdrop : dropStart? ['\\', 'u', '\x7b'] ('\\' :: 'u' :: '\x7b' :: (digits ++ ['\x7d'])) = some (digits ++ ['\x7d']) :=
    dropStart?_append ['\\', 'u', '\x7b'] _
  have hlast : ('\\' :: 'u' :: '\x7b' :: (digits ++ ['\x7d'])).getLast? = some '\x7d' :=
    List.getLast?_concat (l := '\\' :: 'u' :: '\x7b' :: digits)
  rw [itemText, if_neg (by simp), hdrop, hlast]
  exact congrArg textOfHex List.dropLast_concat

theorem itemText_byte (digits : List Char) : itemText ('\\' :: 'x' :: digits) = textOfHex digits := by
  simp [itemText, dropStart?, escapeStart]

/-- Every spelling of a character is read as the character. -/
theorem itemText_of_spells {text : List Char} {c : Char} (h : Spells text c) : itemText text = .ok [c] := by
  cases h with
  | plain hne hback => exact itemText_plain hback
  | number hhex =>
    rw [itemText_number fun hbrace => (hexDigit_spec (hhex.hex _ hbrace)).2.2 (by decide), textOfHex_of_hexOf hhex]
  | braced hhex => rw [itemText_braced, textOfHex_of_hexOf hhex]
  | byte hhex => rw [itemText_byte, textOfHex_of_hexOf hhex]
  | zero => rfl
  | apostrophe => rfl
  | backslash => rfl

theorem IsLiteral.of_plain {text : List Char} (h : ∀ c ∈ text, c ≠ Text.apostrophe ∧ c ≠ '\\') : IsLiteral text := by
  induction text with
  | nil => exact .nil
  | cons c text ih =>
    rw [List.forall_mem_cons] at h
    exact .plain h.1.1 h.1.2 (ih h.2)

theorem HexOf.plain {digits : List Char} {c : Char} (h : HexOf digits c) :
    ∀ d ∈ digits, d ≠ Text.apostrophe ∧ d ≠ '\\' := by
  intro d hd
  have hmark : d ∉ marks := (hexDigit_spec (h.hex d hd)).2.2
  constructor
  · rintro rfl
    exact hmark (by decide)
  · rintro rfl
    exact hmark (by decide)

theorem IsLiteral.of_spells {text : List Char} {c : Char} (h : Spells text c) : IsLiteral text := by
  cases h with
  | plain hne hback => exact .plain hne hback .nil
  | number hhex => exact .escaped (by decide) (.of_plain hhex.plain)
  | braced hhex =>
    refine .escaped (by decide) (.plain (by decide) (by decide) (.of_plain fun d hd => ?_))
    rcases List.mem_append.1 hd with hd | hd
    · exact hhex.plain d hd
    · obtain rfl := List.mem_singleton.1 hd
      decide
  | byte hhex => exact .escaped (by decide) (.of_plain hhex.plain)
  | zero => exact .escaped (by decide) .nil
  | apostrophe => exact .escaped (by decide) .nil
  | backslash => exact .escaped (by decide) .nil

end MsxWorkbench.Charset
