import MsxWorkbench.Markup.Tag
import MsxWorkbench.Proofs.Text.Ascii
/-
# Written tags

A grammar of marked-up texts as they are written with care: every tag is complete, every value stands between quotation
marks, and an ampersand or the mark itself is written by a reference. `tags_of_markupText` says that reading such a text
gives exactly the tags it was written from.

Values come first (`Escaped`), then attributes (`AttributesText`), tags (`TagText`) and texts (`MarkupText`). Each has a
lemma that says what its reader makes of it in front of any other text.
-/
namespace MsxWorkbench.Markup

open Text

/-! ## Values -/

/-- The characters that have a name, with the name. -/
def escapes : List (Char × List Char) :=
  [('&', "amp".toList), ('<', "lt".toList), ('>', "gt".toList), ('"', "quot".toList), (apostrophe, "apos".toList)]

/-- A printable ASCII character. -/
def IsPrintable (c : Char) : Prop := 0x20 ≤ c.toNat ∧ c.toNat < 0x7F

/-- The texts between `&` and `;` that stand for a character: its name, or its number in decimal or hexadecimal digits. -/
inductive Refers (c : Char) : List Char → Prop where
  | named {name : List Char} : (c, name) ∈ escapes → Refers c name
  | decimal {digits : List Char} : digits ≠ [] → (∀ d ∈ digits, d.isDigit = true) → digits.length ≤ mostDigits →
      IsPrintable c → baseValue 10 digits = c.toNat → Refers c ('#' :: digits)
  | hexadecimal {x : Char} {digits : List Char} : x = 'x' ∨ x = 'X' → digits ≠ [] →
      (∀ d ∈ digits, (hexDigit? d).isSome = true) → IsPrintable c → baseValue 16 digits = c.toNat →
      Refers c ('#' :: x :: digits)

/-- A value and how it is written between two quotation marks `mark`. -/
inductive Escaped (mark : Char) : List Char → List Char → Prop where
  | nil : Escaped mark [] []
  | plain {c : Char} {value s : List Char} : c ≠ '&' → c ≠ mark → Escaped mark value s →
      Escaped mark (c :: value) (c :: s)
  | reference {c : Char} {name value s : List Char} : Refers c name → Escaped mark value s →
      Escaped mark (c :: value) ('&' :: (name ++ ';' :: s))

theorem expandFrom_append (a s : List Char) : expandFrom a.length (a ++ s) = expandFrom 0 s := by
  induction a with
  | nil => rfl
  | cons c a ih => simpa [expandFrom] using ih

theorem longReference?_append {a : List Char} (ha : '&' ∉ a) (s : List Char) :
    longReference? (a ++ s) = longReference? s := by
  induction a with
  | nil => rfl
  | cons c a ih =>
    rw [List.mem_cons, not_or] at ha
    simp [longReference?, Ne.symm ha.1, ih ha.2]

theorem numbered_of_isPrintable {c : Char} (hc : IsPrintable c) : numbered c.toNat = [c] := by
  have hmod : c.toNat % 0x10000 = c.toNat := Nat.mod_eq_of_lt (by have := hc.2; omega)
  have hnum : numbered c.toNat = [Char.ofNat c.toNat] := by
    obtain ⟨hlow, hhigh⟩ := hc
    have hname : isUnnameable c.toNat = false := by
      simp only [isUnnameable, hmod, Bool.or_eq_false_iff, Bool.and_eq_false_iff, decide_eq_false_iff_not, beq_eq_false_iff_ne]
      omega
    unfold numbered
    rw [if_neg, if_neg, hname, if_neg (by simp)]
    · simp only [Bool.and_eq_true, decide_eq_true_eq]
      omega
    · simp only [Bool.or_eq_true, beq_iff_eq, Bool.and_eq_true, decide_eq_true_eq]
      omega
  rw [hnum, Char.ofNat_toNat]

theorem takeWhile_append_stop {p : Char → Bool} {a : List Char} {c : Char} (ha : ∀ d ∈ a, p d = true) (hc : p c = false)
    (s : List Char) : (a ++ c :: s).takeWhile p = a := by
  rw [List.takeWhile_append_of_pos ha, List.takeWhile_cons_of_neg (by simp [hc]), List.append_nil]

/-- A character of a class is none that the class leaves out. -/
theorem ne_of_class {p : Char → Bool} {c d : Char} (hc : p c = true) (hd : p d = false) : c ≠ d := by
  rintro rfl
  exact absurd hc (by simp [hd])

/-- A class of characters without ampersand and quotation marks. -/
theorem plain_of_class {p : Char → Bool} (hp : (p '&' || p '"' || p apostrophe) = false) {d : Char} (hd : p d = true) :
    d ≠ '&' ∧ isQuote d = false := by
  simp only [Bool.or_eq_false_iff] at hp
  refine ⟨ne_of_class hd hp.1.1, ?_⟩
  simp [isQuote, ne_of_class hd hp.1.2, ne_of_class hd hp.2]

theorem reference?_name {name : List Char} (hne : name ≠ []) (hshort : name.length < 32)
    (hpart : ∀ d ∈ name, isNamePart d = true) (s : List Char) :
    reference? (name ++ ';' :: s) = some (nameText name true, name.length + 1) := by
  have hread : ((name ++ ';' :: s).take 32).takeWhile isNamePart = name := by
    have hrest : 32 - name.length = 31 - name.length + 1 := by omega
    rw [List.take_append, List.take_of_length_le (by omega), hrest, List.take_succ_cons]
    exact takeWhile_append_stop hpart (by decide) _
  obtain ⟨c, rest, rfl⟩ := List.exists_cons_of_ne_nil hne
  have hc : c ≠ '#' := by
    rintro rfl
    exact absurd (hpart '#' List.mem_cons_self) (by decide)
  unfold reference?
  split
  · rename_i heq
    exact absurd (List.cons.inj heq).1 hc
  · simp only [hread, List.drop_left, semicolon]
    simp

namespace Refers

variable {c : Char} {name : List Char}

/-- Neither an ampersand nor a quotation mark is part of a reference. -/
theorem plain (h : Refers c name) : ∀ d ∈ name, d ≠ '&' ∧ isQuote d = false := by
  cases h with
  | named hmem =>
    have hall : (escapes.all fun p => p.2.all fun d => d != '&' && !isQuote d) = true := by decide
    intro d hd
    simpa using List.all_eq_true.1 (List.all_eq_true.1 hall _ hmem) d hd
  | decimal _ hdigits =>
    intro d hd
    rcases List.mem_cons.1 hd with rfl | hd
    · decide
    · exact plain_of_class (by decide) (hdigits d hd)
  | hexadecimal hx _ hdigits =>
    intro d hd
    rcases List.mem_cons.1 hd with rfl | hd
    · decide
    rcases List.mem_cons.1 hd with rfl | hd
    · rcases hx with rfl | rfl <;> decide
    · exact plain_of_class (p := fun d => (hexDigit? d).isSome) (by decide) (hdigits d hd)

theorem reference?_eq (h : Refers c name) (s : List Char) :
    reference? (name ++ ';' :: s) = some ([c], name.length + 1) := by
  cases h with
  | named hmem =>
    have hall : (escapes.all fun p => !p.2.isEmpty && decide (p.2.length < 32) && p.2.all isNamePart &&
        nameText p.2 true == [p.1]) = true := by decide +kernel
    have hname := List.all_eq_true.1 hall _ hmem
    simp only [Bool.and_eq_true, Bool.not_eq_true', List.isEmpty_eq_false_iff, decide_eq_true_eq, beq_iff_eq,
      List.all_eq_true] at hname
    obtain ⟨⟨⟨hne, hshort⟩, hpart⟩, htext⟩ := hname
    rw [reference?_name hne hshort hpart, htext]
  | @decimal digits hne hdigits _ hc hvalue =>
    obtain ⟨d, rest, rfl⟩ := List.exists_cons_of_ne_nil hne
    have hread := takeWhile_append_stop hdigits (by decide : ';'.isDigit = false) s
    have hx : (d == 'x' || d == 'X') = false := by
      have hd := hdigits d List.mem_cons_self
      have hsmall : d ≠ 'x' := ne_of_class hd (by decide)
      have hcapital : d ≠ 'X' := ne_of_class hd (by decide)
      simp [hsmall, hcapital]
    rw [List.cons_append] at hread
    simp only [List.cons_append, reference?, hx, hread]
    simp [hvalue, numbered_of_isPrintable hc, semicolon]
    omega
  | @hexadecimal x digits hx hne hdigits hc hvalue =>
    have hread := takeWhile_append_stop (p := fun d => (hexDigit? d).isSome) hdigits (by decide : (hexDigit? ';').isSome = false) s
    have hx : (x == 'x' || x == 'X') = true := by simpa using hx
    simp only [List.cons_append, reference?, hx, hread]
    simp [hvalue, numbered_of_isPrintable hc, semicolon, hne]
    omega

theorem longReference?_eq (h : Refers c name) (s : List Char) :
    longReference? ('&' :: (name ++ ';' :: s)) = longReference? s := by
  have hname : '&' ∉ name := fun hmem => (h.plain _ hmem).1 rfl
  have hrest : longReference? (name ++ ';' :: s) = longReference? s := by
    rw [longReference?_append hname]
    simp [longReference?]
  have hlong : (if (name ++ ';' :: s).head? == some '#' then longNumber? (name ++ ';' :: s).tail else none) = none := by
    cases h with
    | named hmem =>
      have hall : (escapes.all fun p => !p.2.isEmpty && p.2.head? != some '#') = true := by decide
      have hhead := List.all_eq_true.1 hall _ hmem
      cases name with
      | nil => simp at hhead
      | cons d rest => simp_all
    | decimal _ hdigits hlength =>
      have hread := takeWhile_append_stop hdigits (by decide : ';'.isDigit = false) s
      simp [longNumber?, hread, Nat.not_lt.2 hlength]
    | hexadecimal hx =>
      rcases hx with rfl | rfl <;> simp [longNumber?]
  rw [longReference?, hrest]
  simp only [decide_true, Bool.true_and]
  rw [hlong, Option.none_or]

end Refers

namespace Escaped

variable {mark : Char} {value s : List Char}

theorem mark_notMem (hmark : isQuote mark = true) (h : Escaped mark value s) : mark ∉ s := by
  induction h with
  | nil => exact List.not_mem_nil
  | plain _ hc _ ih => simp [Ne.symm hc, ih]
  | reference hname _ ih =>
    have hstart : mark ≠ '&' := ne_of_class hmark (by decide)
    have hend : mark ≠ ';' := ne_of_class hmark (by decide)
    have hnot : mark ∉ _ := fun hmem => ne_of_class hmark (hname.plain _ hmem).2 rfl
    simp [hstart, hend, ih, hnot]

theorem expand_eq (h : Escaped mark value s) : expand s = .ok value := by
  have hlong : longReference? s = none := by
    induction h with
    | nil => rfl
    | plain hc _ _ ih => simp [longReference?, hc, ih]
    | reference hname _ ih => rw [hname.longReference?_eq, ih]
  have hread : expandFrom 0 s = value := by
    clear hlong
    induction h with
    | nil => rfl
    | plain hc _ _ ih => simp [expandFrom, hc, ih]
    | @reference c name value s hname _ ih =>
      have hskip := expandFrom_append (name ++ [';']) s
      rw [List.append_assoc, List.length_append, List.singleton_append, List.length_singleton] at hskip
      simp [expandFrom, hname.reference?_eq, hskip, ih]
  rw [expand, hlong, hread]

end Escaped

/-! ## Attributes -/

/-- A word of small letters, and the same word in any case of its letters. -/
structure Spells (word name : List Char) : Prop where
  nonempty : name ≠ []
  small : ∀ c ∈ name, 'a' ≤ c ∧ c ≤ 'z'
  same : word.map Char.toLower = name

/-- White space inside a tag. -/
def IsGap (s : List Char) : Prop := ∀ c ∈ s, c ∈ [' ', '\t', '\n', '\x0c']

/-- Attributes and how they are written in a tag, with the white space around them. -/
inductive AttributesText : List Attribute → List Char → Prop where
  | nil {gap : List Char} : IsGap gap → AttributesText [] gap
  | cons {gap word name value s : List Char} {mark : Char} {more : List Attribute} {rest : List Char} :
      gap ≠ [] → IsGap gap → Spells word name → isQuote mark = true → Escaped mark value s → AttributesText more rest →
      AttributesText (⟨name, value⟩ :: more) (gap ++ (word ++ '=' :: mark :: (s ++ mark :: rest)))

theorem isAscii_of_le {c d : Char} (hd : d.toNat < 0x80) (h : c ≤ d) : c.toNat < 0x80 :=
  Nat.lt_of_le_of_lt (UInt32.le_iff_toNat_le.1 (Char.le_def.1 h)) hd

theorem isLetter_of_toLower {c : Char} (h : 'a' ≤ c.toLower ∧ c.toLower ≤ 'z') :
    isLetter c = true ∧ c.toNat < 0x80 ∧ lowerChar c = [c.toLower] := by
  have hascii : c.toNat < 0x80 := by
    by_cases hcapital : c.val ≥ 'A'.val ∧ c.val ≤ 'Z'.val
    · exact isAscii_of_le (d := 'Z') (by decide) (Char.le_def.2 hcapital.2)
    · have hsame : c.toLower = c := dif_neg hcapital
      rw [hsame] at h
      exact isAscii_of_le (d := 'z') (by decide) h.2
  have hall : ∀ n < 0x80, ('a' ≤ (Char.ofNat n).toLower ∧ (Char.ofNat n).toLower ≤ 'z') →
      isLetter (Char.ofNat n) = true ∧ lowerChar (Char.ofNat n) = [(Char.ofNat n).toLower] := by decide
  have := forall_ascii (p := fun c => ('a' ≤ c.toLower ∧ c.toLower ≤ 'z') →
    isLetter c = true ∧ lowerChar c = [c.toLower]) hall hascii h
  exact ⟨this.1, hascii, this.2⟩

namespace Spells

variable {word name : List Char}

theorem toLower (h : Spells word name) {c : Char} (hc : c ∈ word) : 'a' ≤ c.toLower ∧ c.toLower ≤ 'z' :=
  h.small _ (h.same ▸ List.mem_map_of_mem hc)

theorem isLetter (h : Spells word name) {c : Char} (hc : c ∈ word) : isLetter c = true :=
  (isLetter_of_toLower (h.toLower hc)).1

theorem ne_nil (h : Spells word name) : word ≠ [] := by
  rintro rfl
  exact h.nonempty h.same.symm

theorem lower_eq (h : Spells word name) : lower word = name := by
  have hafter : ∀ (before s : List Char), (∀ c ∈ s, 'a' ≤ c.toLower ∧ c.toLower ≤ 'z') →
      lowerAfter before s = s.map Char.toLower := by
    intro before s hs
    induction s generalizing before with
    | nil => rfl
    | cons c s ih =>
      obtain ⟨_, hascii, hlower⟩ := isLetter_of_toLower (hs c List.mem_cons_self)
      have hsigma : c ≠ capitalSigma := by
        rintro rfl
        exact absurd hascii (by decide)
      simp [lowerAfter, hsigma, hlower, ih _ fun d hd => hs d (List.mem_cons_of_mem _ hd)]
  rw [lower, hafter [] word fun c hc => h.toLower hc, h.same]

end Spells

/-- A fact about all letters is checked code point by code point. -/
theorem forall_letter {p : Char → Prop} (hp : ∀ n < 0x80, isLetter (Char.ofNat n) = true → p (Char.ofNat n)) {c : Char}
    (h : isLetter c = true) : p c := by
  have hascii : c.toNat < 0x80 := by
    simp only [isLetter, Bool.or_eq_true, Bool.and_eq_true, decide_eq_true_eq] at h
    rcases h with ⟨_, h⟩ | ⟨_, h⟩
    · exact isAscii_of_le (d := 'z') (by decide) h
    · exact isAscii_of_le (d := 'Z') (by decide) h
  exact forall_ascii (p := fun c => isLetter c = true → p c) hp hascii h

theorem letter_classes {c : Char} (h : isLetter c = true) :
    isBlank c = false ∧ isTagPart c = true ∧ isAttributePart c = true :=
  forall_letter (p := fun c => isBlank c = false ∧ isTagPart c = true ∧ isAttributePart c = true) (by decide) h

theorem isBlank_of_isLetter {c : Char} (h : isLetter c = true) : isBlank c = false := (letter_classes h).1

theorem isTagPart_of_isLetter {c : Char} (h : isLetter c = true) : isTagPart c = true := (letter_classes h).2.1

theorem isAttributePart_of_isLetter {c : Char} (h : isLetter c = true) : isAttributePart c = true :=
  (letter_classes h).2.2

theorem isPlainPart_of_isLetter {c : Char} (h : isLetter c = true) : isPlainPart c = true := by
  simp [isPlainPart, h]

namespace IsGap

variable {gap : List Char} {c : Char}

theorem all {p : Char → Bool} (h : IsGap gap) (hp : [' ', '\t', '\n', '\x0c'].all p = true) (hc : c ∈ gap) : p c = true :=
  List.all_eq_true.1 hp c (h c hc)

theorem isBlank (h : IsGap gap) (hc : c ∈ gap) : isBlank c = true := h.all (by decide) hc

theorem isTagPart (h : IsGap gap) (hc : c ∈ gap) : isTagPart c = false := by
  simpa using h.all (p := fun c => !Markup.isTagPart c) (by decide) hc

theorem isPlainPart (h : IsGap gap) (hc : c ∈ gap) : isPlainPart c = false := by
  simpa using h.all (p := fun c => !Markup.isPlainPart c) (by decide) hc

end IsGap

theorem gapSize_append {gap : List Char} (hgap : IsGap gap) {s : List Char} (hs : gapSize s = 0) :
    gapSize (gap ++ s) = gap.length := by
  induction gap with
  | nil => exact hs
  | cons c gap ih =>
    have hblank := hgap.isBlank List.mem_cons_self
    simp [gapSize, hblank, ih fun d hd => hgap d (List.mem_cons_of_mem _ hd)]

theorem gapSize_word {word name : List Char} (h : Spells word name) (s : List Char) : gapSize (word ++ s) = 0 := by
  obtain ⟨c, rest, rfl⟩ := List.exists_cons_of_ne_nil h.ne_nil
  have hletter := h.isLetter List.mem_cons_self
  have hslash : c ≠ '/' := ne_of_class hletter (by decide)
  simp [gapSize, isBlank_of_isLetter hletter, hslash]

theorem value?_quoted {mark : Char} (hmark : isQuote mark = true) {s : List Char} (hs : mark ∉ s) (rest : List Char) :
    value? ('=' :: mark :: (s ++ mark :: rest)) = some (s, s.length + 3) := by
  have hsign : (mark == '=') = false := beq_eq_false_iff_ne.2 (ne_of_class hmark (by decide))
  have hblank : isBlank mark = false := by
    rcases Bool.or_eq_true_iff.1 hmark with h | h <;> rw [beq_iff_eq.1 h] <;> decide
  have hinner : (s ++ mark :: rest).takeWhile (· != mark) = s :=
    takeWhile_append_stop (fun c hc => bne_iff_ne.2 (ne_of_mem_of_not_mem hc hs)) (by simp) rest
  have hequals : isBlank '=' = false := by decide
  simp [value?, hsign, hblank, hmark, hinner, hequals]
  omega

/-- Characters that belong to what was read are passed over; the last of them is the one before what comes next. -/
theorem attributesFrom_append (a s : List Char) (n : Nat) (before : Char) :
    attributesFrom (a.length + n) before (a ++ s) =
      ((attributesFrom n (a.getLastD before) s).1, (attributesFrom n (a.getLastD before) s).2 + a.length) := by
  induction a generalizing before with
  | nil => simp
  | cons c a ih =>
    have hsize : (c :: a).length + n = a.length + n + 1 := by simp only [List.length_cons]; omega
    rw [hsize, List.cons_append, attributesFrom, ih, List.getLastD_cons, List.length_cons]
    rfl

theorem attributesFrom_end (before : Char) (rest : List Char) : attributesFrom 0 before ('>' :: rest) = ([], 0) := by
  simp [attributesFrom, startsAttribute]

theorem attributesFrom_attribute {before mark : Char} {word name s : List Char} (hbefore : isBlank before = true)
    (hword : Spells word name) (hmark : isQuote mark = true) (hs : mark ∉ s) (t : List Char) :
    attributesFrom 0 before (word ++ '=' :: mark :: (s ++ mark :: t)) =
      (⟨name, s⟩ :: (attributesFrom (gapSize t) mark t).1,
        (attributesFrom (gapSize t) mark t).2 + (word.length + s.length + 3)) := by
  obtain ⟨c, rest, rfl⟩ := List.exists_cons_of_ne_nil hword.ne_nil
  have hstart : startsAttribute before c = true := by
    have hletter := hword.isLetter List.mem_cons_self
    have hslash : c ≠ '/' := ne_of_class hletter (by decide)
    have hend : c ≠ '>' := ne_of_class hletter (by decide)
    simp [startsAttribute, hbefore, isBlank_of_isLetter hletter, hslash, hend]
  have hpart : ∀ d ∈ rest, isAttributePart d = true := fun d hd =>
    isAttributePart_of_isLetter (hword.isLetter (List.mem_cons_of_mem _ hd))
  have htail : (rest ++ '=' :: mark :: (s ++ mark :: t)).takeWhile isAttributePart = rest :=
    takeWhile_append_stop hpart (by decide) _
  have hskip := attributesFrom_append ((rest ++ '=' :: mark :: s) ++ [mark]) t (gapSize t) c
  have hsize : ((rest ++ '=' :: mark :: s) ++ [mark]).length = rest.length + (s.length + 3) := by simp
  have hdrop : (rest ++ '=' :: mark :: (s ++ mark :: t)).drop (rest.length + (s.length + 3)) = t := by
    rw [← hsize]
    simp
  rw [hsize, List.getLastD_concat] at hskip
  simp only [List.append_assoc, List.cons_append, List.nil_append] at hskip
  rw [List.cons_append, attributesFrom, if_pos hstart]
  simp only [htail, List.drop_left, value?_quoted hmark hs, Option.map_some, Option.getD_some, hdrop, hskip, hword.lower_eq,
    List.length_cons, Prod.mk.injEq, true_and]
  omega

/-- Attributes are read as they are written, each with its value still to be expanded. -/
theorem AttributesText.attributesFrom_eq {attributes : List Attribute} {s : List Char} (h : AttributesText attributes s)
    (before : Char) (rest : List Char) :
    ∃ written : List Attribute, written.mapM Attribute.expanded = .ok attributes ∧
      attributesFrom (gapSize (s ++ '>' :: rest)) before (s ++ '>' :: rest) = (written, s.length) := by
  induction h generalizing before with
  | @nil gap hgap =>
    have hskip := attributesFrom_append gap ('>' :: rest) 0 before
    rw [attributesFrom_end, Nat.zero_add, Nat.add_zero] at hskip
    exact ⟨[], rfl, by rw [gapSize_append hgap (by simp [gapSize, isBlank]), hskip]⟩
  | @cons gap word name value s mark more tail hne hgap hword hmark hvalue _ ih =>
    obtain ⟨written, hexpand, hread⟩ := ih mark
    have hblank : isBlank (gap.getLastD before) = true := by
      rw [List.getLastD_eq_getLast?, List.getLast?_eq_some_getLast hne, Option.getD_some]
      exact hgap.isBlank (List.getLast_mem hne)
    have hskip := attributesFrom_append gap (word ++ '=' :: mark :: (s ++ mark :: (tail ++ '>' :: rest))) 0 before
    rw [attributesFrom_attribute hblank hword hmark (hvalue.mark_notMem hmark), hread, Nat.add_zero] at hskip
    refine ⟨⟨name, s⟩ :: written, ?_, ?_⟩
    · rw [List.mapM_cons, Attribute.expanded, hvalue.expand_eq, hexpand]
      rfl
    · simp only [List.append_assoc, List.cons_append]
      rw [gapSize_append hgap (gapSize_word hword _), hskip]
      simp
      omega

/-! ## Tags -/

/-- A tag and how it is written. An opening tag is none of an element whose content is raw. -/
inductive TagText : Tag → List Char → Prop where
  | opening {word name s : List Char} {attributes : List Attribute} : Spells word name → isRaw name = false →
      AttributesText attributes s → TagText (.opening name attributes false) ('<' :: (word ++ (s ++ ['>'])))
  | closing {word name gap : List Char} : Spells word name → IsGap gap →
      TagText (.closing name) ('<' :: '/' :: (word ++ (gap ++ ['>'])))

/-- Tags and a text in which they stand with other text between them. -/
inductive MarkupText : List Tag → List Char → Prop where
  | nil : MarkupText [] []
  | text {c : Char} {ts : List Tag} {s : List Char} : c ≠ '<' → c ≠ '&' → MarkupText ts s → MarkupText ts (c :: s)
  | tag {t : Tag} {ts : List Tag} {u s : List Char} : TagText t u → MarkupText ts s → MarkupText (t :: ts) (u ++ s)

/-- The name of a tag ends where its attributes start. -/
theorem AttributesText.exists_head {attributes : List Attribute} {s : List Char} (h : AttributesText attributes s)
    (rest : List Char) : ∃ c t, s ++ '>' :: rest = c :: t ∧ isTagPart c = false := by
  cases h with
  | @nil _ hgap =>
    cases s with
    | nil => exact ⟨'>', rest, rfl, by decide⟩
    | cons c t => exact ⟨c, _, rfl, hgap.isTagPart List.mem_cons_self⟩
  | @cons gap _ _ _ _ _ _ _ hne hgap =>
    obtain ⟨c, gap, rfl⟩ := List.exists_cons_of_ne_nil hne
    exact ⟨c, _, rfl, hgap.isTagPart List.mem_cons_self⟩

theorem gapSize_le (s : List Char) : gapSize s ≤ s.length := by
  induction s with
  | nil => exact Nat.le_refl 0
  | cons c s ih =>
    rw [gapSize, List.length_cons]
    split <;> omega

theorem readOpening_written {attributes : List Attribute} {word name s : List Char} (hword : Spells word name)
    (h : AttributesText attributes s) (rest : List Char) :
    readOpening (word ++ (s ++ '>' :: rest)) = .tag (.opening name attributes false) (word.length + s.length + 2) := by
  obtain ⟨written, hexpand, hread⟩ := h.attributesFrom_eq (word.getLastD '<') rest
  have hname : (word ++ (s ++ '>' :: rest)).takeWhile isTagPart = word := by
    obtain ⟨c, t, hhead, hc⟩ := h.exists_head rest
    rw [hhead]
    exact takeWhile_append_stop (fun d hd => isTagPart_of_isLetter (hword.isLetter hd)) hc t
  have hdrop : (s ++ '>' :: rest).drop s.length = '>' :: rest := List.drop_left
  generalize s ++ '>' :: rest = text at hread hname hdrop ⊢
  have hgap := List.length_take_of_le (gapSize_le text)
  have hskip := attributesFrom_append (text.take (gapSize text)) (text.drop (gapSize text)) 0 (word.getLastD '<')
  rw [List.take_append_drop, hgap, Nat.add_zero, hread, Prod.mk.injEq] at hskip
  have hbefore : ((word ++ text).take (word.length + gapSize text)).getLast?.getD '<' =
      (text.take (gapSize text)).getLastD (word.getLastD '<') := by
    rw [List.take_length_add_append, List.getLast?_append, Option.getD_or, List.getLastD_eq_getLast?,
      List.getLastD_eq_getLast?]
  have hend : text.drop (gapSize text +
      (attributesFrom 0 ((text.take (gapSize text)).getLastD (word.getLastD '<')) (text.drop (gapSize text))).2) =
      '>' :: rest := by
    rw [Nat.add_comm, ← hskip.2, hdrop]
  simp only [readOpening, hname, List.drop_left, hbefore, hend, ← hskip.1, hexpand, hword.lower_eq]
  congr 1
  omega

theorem throughEnd?_append {a : List Char} (ha : '>' ∉ a) (s : List Char) :
    throughEnd? (a ++ '>' :: s) = some (a.length + 1) := by
  induction a with
  | nil => simp [throughEnd?]
  | cons c a ih =>
    rw [List.mem_cons, not_or] at ha
    simp [throughEnd?, Ne.symm ha.1, ih ha.2]

theorem readClosing_written {word name gap : List Char} (hword : Spells word name) (hgap : IsGap gap) (rest : List Char) :
    readClosing (word ++ (gap ++ '>' :: rest)) = .tag (.closing name) (word.length + gap.length + 3) := by
  have hend : throughEnd? (word ++ (gap ++ '>' :: rest)) = some (word.length + gap.length + 1) := by
    have hnot : '>' ∉ word ++ gap := by
      rw [List.mem_append]
      rintro (hmem | hmem)
      · exact ne_of_class (hword.isLetter hmem) (by decide) rfl
      · exact ne_of_class (hgap.isBlank hmem) (by decide) rfl
    rw [← List.append_assoc, throughEnd?_append hnot, List.length_append]
  have hblank : (gap ++ '>' :: rest).dropWhile isBlank = '>' :: rest := by
    rw [List.dropWhile_append_of_pos fun c hc => hgap.isBlank hc, List.dropWhile_cons_of_neg (by decide)]
  have hname : (word ++ (gap ++ '>' :: rest)).takeWhile isPlainPart = word := by
    have hpart : ∀ d ∈ word, isPlainPart d = true := fun d hd => isPlainPart_of_isLetter (hword.isLetter hd)
    cases gap with
    | nil => exact takeWhile_append_stop hpart (by decide) rest
    | cons c gap => exact takeWhile_append_stop hpart (hgap.isPlainPart List.mem_cons_self) _
  have hplain : plainClosing? (word ++ (gap ++ '>' :: rest)) = some word := by
    have hstart : (word ++ (gap ++ '>' :: rest)).dropWhile isBlank = word ++ (gap ++ '>' :: rest) := by
      obtain ⟨c, t, rfl⟩ := List.exists_cons_of_ne_nil hword.ne_nil
      exact List.dropWhile_cons_of_neg (by simp [isBlank_of_isLetter (hword.isLetter List.mem_cons_self)])
    have hletter : ((word ++ (gap ++ '>' :: rest)).head?.map isLetter) = some true := by
      obtain ⟨c, t, rfl⟩ := List.exists_cons_of_ne_nil hword.ne_nil
      simp [hword.isLetter List.mem_cons_self]
    simp only [plainClosing?, hstart, hname, hletter, List.drop_left, hblank]
    simp
  simp only [readClosing, hend, hplain, hword.lower_eq]
  congr 1
  omega

theorem readMarkup_letter {c : Char} (hc : isLetter c = true) (s : List Char) :
    readMarkup (c :: s) = readOpening (c :: s) := by
  have hsign : c ≠ '/' ∧ c ≠ '?' ∧ c ≠ '!' :=
    ⟨ne_of_class hc (by decide), ne_of_class hc (by decide), ne_of_class hc (by decide)⟩
  unfold readMarkup
  split <;> simp_all

theorem tagsFrom_append (a s : List Char) (raw : Option (List Char)) (late : Bool) :
    tagsFrom a.length raw late (a ++ s) = tagsFrom 0 raw late s := by
  induction a with
  | nil => rfl
  | cons c a ih => rw [List.cons_append, List.length_cons, tagsFrom, ih]

/-- A written tag is read as that tag, and reading goes on behind it. -/
theorem TagText.tagsFrom_eq {t : Tag} {u : List Char} (h : TagText t u) (late : Bool) (s : List Char) :
    tagsFrom 0 none late (u ++ s) = (tagsFrom 0 none late s).map (t :: ·) := by
  cases h with
  | @opening word name u attributes hword hraw hu =>
    have hread : readMarkup (word ++ (u ++ '>' :: s)) =
        .tag (.opening name attributes false) ((word ++ (u ++ ['>'])).length + 1) := by
      have hopen := readOpening_written hword hu s
      obtain ⟨c, rest, rfl⟩ := List.exists_cons_of_ne_nil hword.ne_nil
      rw [List.cons_append, readMarkup_letter (hword.isLetter List.mem_cons_self), ← List.cons_append, hopen]
      simp
      omega
    have hskip := tagsFrom_append (word ++ (u ++ ['>'])) s none late
    simp only [List.append_assoc, List.singleton_append] at hskip
    simp only [List.cons_append, List.append_assoc, List.nil_append]
    simp [tagsFrom, hread, hraw, ← hskip]
  | @closing word name gap hword hgap =>
    have hskip := tagsFrom_append ('/' :: (word ++ (gap ++ ['>']))) s none late
    simp only [List.append_assoc, List.cons_append, List.nil_append] at hskip
    simp only [List.cons_append, List.append_assoc, List.nil_append]
    simp [tagsFrom, readMarkup, readClosing_written hword hgap, ← hskip, Nat.add_assoc]

theorem tagsFrom_markupText {ts : List Tag} {s : List Char} (h : MarkupText ts s) (late : Bool) :
    tagsFrom 0 none late s = .ok ts := by
  induction h with
  | nil => rfl
  | text hopen hand _ ih => simpa [tagsFrom, hopen, hand] using ih
  | tag ht _ ih =>
    rw [ht.tagsFrom_eq, ih]
    rfl

theorem tags_of_markupText {ts : List Tag} {s : List Char} (h : MarkupText ts s) : tags s = .ok ts :=
  tagsFrom_markupText h false

/-! ## A writer -/

/-- A character in a value between double quotes. -/
def escapeChar (c : Char) : List Char :=
  if c = '&' then "&amp;".toList else if c = '"' then "&quot;".toList else [c]

/-- An attribute, with a blank before it. -/
def Attribute.text (a : Attribute) : List Char :=
  ' ' :: (a.name ++ '=' :: '"' :: (a.value.flatMap escapeChar ++ ['"']))

/-- The text of a tag. -/
def Tag.text : Tag → List Char
  | .opening name attributes _ => '<' :: (name ++ (attributes.flatMap Attribute.text ++ ['>']))
  | .closing name => '<' :: '/' :: (name ++ ['>'])

/-- A word of small letters. -/
def isSmallWord (name : List Char) : Bool := !name.isEmpty && name.all fun c => 'a' ≤ c && c ≤ 'z'

/-- Tags that the writer can write: their names are words, and the element has no raw content. -/
def Tag.isPlain : Tag → Bool
  | .opening name attributes closed =>
    isSmallWord name && !isRaw name && !closed && attributes.all fun a => isSmallWord a.name
  | .closing name => isSmallWord name

theorem escaped_escapeChar (value : List Char) : Escaped '"' value (value.flatMap escapeChar) := by
  induction value with
  | nil => exact .nil
  | cons c value ih =>
    rw [List.flatMap_cons]
    by_cases hand : c = '&'
    · subst hand
      have hname : Refers '&' "amp".toList := .named (by simp [escapes])
      exact .reference hname ih
    · by_cases hquote : c = '"'
      · subst hquote
        have hname : Refers '"' "quot".toList := .named (by simp [escapes])
        exact .reference hname ih
      · rw [escapeChar, if_neg hand, if_neg hquote]
        exact .plain hand hquote ih

theorem spells_of {word name : List Char} (h : isSmallWord name = true) (hword : word.map Char.toLower = name) :
    Spells word name := by
  rw [isSmallWord, Bool.and_eq_true, Bool.not_eq_true', List.isEmpty_eq_false_iff, List.all_eq_true] at h
  exact ⟨h.1, fun c hc => by simpa using h.2 c hc, hword⟩

theorem spells_self {name : List Char} (h : isSmallWord name = true) : Spells name name := by
  refine spells_of h ((List.map_congr_left fun c hc => ?_).trans (List.map_id' name))
  rw [isSmallWord, Bool.and_eq_true, List.all_eq_true] at h
  have hsmall : 'a' ≤ c ∧ c ≤ 'z' := by simpa using h.2 c hc
  have hall : ∀ n < 0x80, 'a' ≤ Char.ofNat n ∧ Char.ofNat n ≤ 'z' → (Char.ofNat n).toLower = Char.ofNat n := by
    decide +kernel
  exact forall_ascii (p := fun c => 'a' ≤ c ∧ c ≤ 'z' → c.toLower = c) hall
    (isAscii_of_le (d := 'z') (by decide) hsmall.2) hsmall

theorem attributesText_text {attributes : List Attribute} (h : ∀ a ∈ attributes, isSmallWord a.name = true) :
    AttributesText attributes (attributes.flatMap Attribute.text) := by
  induction attributes with
  | nil => exact .nil (by simp [IsGap])
  | cons a attributes ih =>
    rw [List.forall_mem_cons] at h
    have hgap : IsGap [' '] := by simp [IsGap]
    have htext := AttributesText.cons (List.cons_ne_nil _ _) hgap (spells_self h.1) (by decide)
      (escaped_escapeChar a.value) (ih h.2)
    simpa [Attribute.text] using htext

theorem tagText_text {t : Tag} (h : t.isPlain = true) : TagText t t.text := by
  cases t with
  | opening name attributes closed =>
    simp only [Tag.isPlain, Bool.and_eq_true, Bool.not_eq_true', List.all_eq_true] at h
    obtain ⟨⟨⟨hname, hraw⟩, rfl⟩, hattributes⟩ := h
    exact .opening (spells_self hname) hraw (attributesText_text hattributes)
  | closing name =>
    have hgap : IsGap [] := by simp [IsGap]
    exact .closing (spells_self h) hgap

theorem markupText_text {ts : List Tag} (h : ∀ t ∈ ts, t.isPlain = true) : MarkupText ts (ts.flatMap Tag.text) := by
  induction ts with
  | nil => exact .nil
  | cons t ts ih =>
    rw [List.forall_mem_cons] at h
    exact .tag (tagText_text h.1) (ih h.2)

end MsxWorkbench.Markup
