import Mathlib.Data.List.Forall2
import Mathlib.Logic.Relation
import MsxWorkbench.Proofs.Program.AnalysisStates
import MsxWorkbench.Proofs.Program.RenumberedLines
import MsxWorkbench.Proofs.Program.RespacedJumps
/-
# What of a line is analysed

Closed strings and remarks are not: an analysis records the same for two texts that differ in nothing else
(`addText_of_differsAside`). The text behind a quote that is not closed is, up to a remark in it, as if it were the code
behind the part in front of the quote (`lineFacts?_unclosed`).
-/
namespace MsxWorkbench.Program

open Text (isBlank isDigit capital)

/-! ## Code and what follows it -/

section
variable {u s t mark : List Char}

/-- The number of a line stands in front of the first other character that is visible. -/
theorem spanLineNumber?_append {c : Char} (hblank : isBlank c = false) (hdigit : isDigit c = false) (u t : List Char) :
    spanLineNumber? (u ++ c :: t) = (spanLineNumber? u).map fun span => (span.1, span.2 ++ c :: t) := by
  rw [spanLineNumber?, spanLineNumber?, Text.trimLeft, Text.trimLeft, dropWhile_append_cons hblank,
    dropWhile_append_cons hdigit, takeWhile_append_of_noHead _ (noHead_cons hdigit t)]
  split
  · rfl
  · rfl

/-- There is no quote in front of the body of a numbered line. -/
theorem exists_front_of_span {digits body : List Char} (h : spanLineNumber? u = some (digits, body)) :
    ∃ front, u = front ++ body ∧ '"' ∉ front := by
  rw [spanLineNumber?] at h
  split at h
  · cases h
  · cases h
    refine ⟨u.takeWhile isBlank ++ (Text.trimLeft u).takeWhile isDigit, ?_, ?_⟩
    · rw [List.append_assoc, List.takeWhile_append_dropWhile, Text.trimLeft, List.takeWhile_append_dropWhile]
    · rw [List.mem_append, not_or]
      exact ⟨fun hq => absurd (List.mem_takeWhile_imp hq) (by decide),
        fun hq => absurd (List.mem_takeWhile_imp hq) (by decide)⟩

theorem OutsideStrings.of_append (hu : '"' ∉ u) (h : OutsideStrings (u ++ s)) : OutsideStrings s := by
  rwa [OutsideStrings, List.count_append, List.count_eq_zero.2 hu, Nat.zero_add] at h

theorem OutsideStrings.append (hs : OutsideStrings s) (ht : OutsideStrings t) : OutsideStrings (s ++ t) := by
  rw [OutsideStrings] at *
  rw [List.count_append]
  omega

theorem outsideStrings_closed (hs : '"' ∉ s) : OutsideStrings ('"' :: (s ++ ['"'])) := by
  rw [OutsideStrings, List.count_cons_self, List.count_append, List.count_eq_zero.2 hs]
  rfl

/-- Cuts a text at its strings, all of which are closed. -/
theorem induction_closed {P : (s : List Char) → OutsideStrings s → Prop}
    (plain : ∀ u (hu : '"' ∉ u), P u (outsideStrings_of_notMem hu))
    (closed : ∀ u v t (hu : '"' ∉ u) (hv : '"' ∉ v) (ht : OutsideStrings t), P t ht →
      P (u ++ ('"' :: (v ++ ['"']) ++ t)) ((outsideStrings_of_notMem hu).append ((outsideStrings_closed hv).append ht)))
    (s : List Char) (hs : OutsideStrings s) : P s hs := by
  induction s using induction_strings with
  | plain u hu => exact plain u hu
  | unclosed u v hu hv =>
    rw [OutsideStrings, List.count_append, List.count_cons_self, List.count_eq_zero.2 hu, List.count_eq_zero.2 hv] at hs
    cases hs
  | closed u v t hu hv ih =>
    have ht : OutsideStrings t := by
      rw [OutsideStrings, List.count_append, List.count_cons_self, List.count_append, List.count_cons_self,
        List.count_eq_zero.2 hu, List.count_eq_zero.2 hv] at hs
      rw [OutsideStrings]
      omega
    have hshape : u ++ ('"' :: (v ++ ['"']) ++ t) = u ++ '"' :: (v ++ '"' :: t) := by simp
    have hP := closed u v t hu hv ht (ih ht)
    simpa only [hshape] using hP

theorem OutsideStrings.emptyStrings_append (h : OutsideStrings u) (s : List Char) :
    emptyStrings (u ++ s) = emptyStrings u ++ emptyStrings s := by
  induction u, h using induction_closed with
  | plain u hu => rw [Program.emptyStrings_append hu, emptyStrings_plain hu]
  | closed u v t hu hv _ ih =>
    simp only [List.append_assoc, List.cons_append, List.nil_append]
    rw [Program.emptyStrings_append hu, emptyStrings_closed hv, ih, Program.emptyStrings_append hu, emptyStrings_closed hv]
    simp only [List.append_assoc, List.cons_append]

/-! ## Remarks -/

/-- What starts a remark: an apostrophe, or REM in any letters. -/
def IsRemark (mark : List Char) : Prop := mark = [Text.apostrophe] ∨ IsRem mark

theorem IsRemark.quote_notMem (h : IsRemark mark) : '"' ∉ mark := by
  rcases h with rfl | h
  · decide
  · intro hq
    have hmem := List.mem_map_of_mem (f := capital) hq
    rw [h] at hmem
    revert hmem
    decide

theorem startsFolded_rem_iff : Text.startsFolded ['R', 'E', 'M'] s = true ↔ ∃ mark x, IsRem mark ∧ s = mark ++ x := by
  rw [Text.startsFolded_iff (List.all_eq_true.1 (by decide))]
  constructor
  · intro h
    refine ⟨s.take 3, s.drop 3, ?_, (List.take_append_drop 3 s).symm⟩
    rw [IsRem, List.map_take]
    exact (List.prefix_iff_eq_take.1 h).symm
  · rintro ⟨mark, x, hmark, rfl⟩
    rw [List.map_append, hmark]
    exact List.prefix_append _ _

theorem atRemark_iff : atRemark s = true ↔ ∃ mark x, IsRemark mark ∧ s = mark ++ x := by
  rw [atRemark, Bool.or_eq_true, beq_iff_eq, startsFolded_rem_iff]
  constructor
  · rintro (h | ⟨mark, x, hmark, hs⟩)
    · obtain ⟨x, hs⟩ := List.head?_eq_some_iff.1 h
      exact ⟨[Text.apostrophe], x, .inl rfl, hs⟩
    · exact ⟨mark, x, .inr hmark, hs⟩
  · rintro ⟨mark, x, rfl | hmark, rfl⟩
    · exact .inl rfl
    · exact .inr ⟨mark, x, hmark, rfl⟩

/-- Whether a remark starts in front of a mark does not depend on what is behind it. -/
theorem IsRemark.atRemark_append (h : IsRemark mark) (s x : List Char) :
    atRemark (s ++ (mark ++ x)) = atRemark (s ++ mark) := by
  have hupper : ∀ p ∈ ['R', 'E', 'M'], p.isUpper = true := List.all_eq_true.1 (by decide)
  have hletters : Text.startsFolded ['R', 'E', 'M'] (s ++ (mark ++ x)) =
      Text.startsFolded ['R', 'E', 'M'] (s ++ mark) := by
    rcases h with rfl | h
    · -- no letter of a word is an apostrophe
      have hlatin : Text.isLatin Text.apostrophe = false := by decide
      rw [List.singleton_append, startsFolded_append_cons hlatin x hupper, startsFolded_append_cons hlatin [] hupper]
    · have hlength : ['R', 'E', 'M'].length ≤ ((s ++ mark).map capital).length := by
        rw [List.map_append, h, List.length_append]
        exact Nat.le_add_left _ _
      rw [Bool.eq_iff_iff, Text.startsFolded_iff hupper, Text.startsFolded_iff hupper, ← List.append_assoc,
        List.map_append]
      exact ⟨fun hp => List.prefix_of_prefix_length_le hp (List.prefix_append _ _) hlength,
        fun hp => hp.trans (List.prefix_append _ _)⟩
  obtain ⟨c, more, rfl, -, -⟩ := exists_cons_mark h
  rw [atRemark, atRemark, hletters]
  cases s <;> rfl

/-- The code of a text with a remark ends at the mark or before it. -/
theorem IsRemark.beforeRemark_append (h : IsRemark mark) (x : List Char) : ∀ s : List Char,
    beforeRemark (s ++ (mark ++ x)) = beforeRemark (s ++ mark)
  | [] => by
    have hmark : ∀ y, beforeRemark (mark ++ y) = [] := by
      intro y
      have hat := atRemark_iff.2 ⟨mark, y, h, rfl⟩
      obtain ⟨c, more, rfl, -, -⟩ := exists_cons_mark h
      exact if_pos hat
    have hnil := hmark []
    rw [List.append_nil] at hnil
    rw [List.nil_append, List.nil_append, hmark, hnil]
  | c :: s => by
    have hat := h.atRemark_append (c :: s) x
    rw [List.cons_append, List.cons_append] at hat
    rw [List.cons_append, List.cons_append, beforeRemark, beforeRemark, hat, h.beforeRemark_append x s]

theorem OutsideStrings.codeOf_closed (hu : OutsideStrings u) (hs : '"' ∉ s) (t : List Char) :
    codeOf (u ++ '"' :: (s ++ '"' :: t)) = beforeRemark (emptyStrings u ++ '"' :: '"' :: emptyStrings t) := by
  rw [codeOf, hu.emptyStrings_append, emptyStrings_closed hs]

theorem OutsideStrings.codeOf_remark (hu : OutsideStrings u) (h : IsRemark mark) (x : List Char) :
    codeOf (u ++ (mark ++ x)) = beforeRemark (emptyStrings u ++ mark) := by
  rw [codeOf, hu.emptyStrings_append, Program.emptyStrings_append h.quote_notMem, h.beforeRemark_append]

/-! ## Texts that differ aside from their code -/

/-- The second line is the first with another closed string or with another remark, behind the same mark. -/
inductive ChangesAside : List Char → List Char → Prop
  | string {pre v w post : List Char} : OutsideStrings pre → '"' ∉ v → '"' ∉ w →
      ChangesAside (pre ++ '"' :: (v ++ '"' :: post)) (pre ++ '"' :: (w ++ '"' :: post))
  | remark {code mark x y : List Char} : OutsideStrings code → IsRemark mark →
      ChangesAside (code ++ (mark ++ x)) (code ++ (mark ++ y))

/-- The lines of one text come from those of the other by such changes. -/
def DiffersAside (t u : List Char) : Prop :=
  List.Forall₂ (Relation.ReflTransGen ChangesAside) (Text.lines t) (Text.lines u)

/-- Of what is behind a number only the code matters. -/
theorem lineFacts?_congr {c : Char} (hblank : isBlank c = false) (hdigit : isDigit c = false)
    (hcode : ∀ digits body, spanLineNumber? u = some (digits, body) → codeOf (body ++ c :: s) = codeOf (body ++ c :: t)) :
    lineFacts? (u ++ c :: s) = lineFacts? (u ++ c :: t) := by
  rw [lineFacts?, lineFacts?, spanLineNumber?_append hblank hdigit, spanLineNumber?_append hblank hdigit]
  cases hspan : spanLineNumber? u with
  | none => rfl
  | some span => simp only [Option.map_some, factsOf, hcode span.1 span.2 hspan]

theorem OutsideStrings.span {digits body : List Char} (h : OutsideStrings u)
    (hspan : spanLineNumber? u = some (digits, body)) : OutsideStrings body := by
  obtain ⟨front, rfl, hfront⟩ := exists_front_of_span hspan
  exact h.of_append hfront

/-- A change aside from the code keeps all that is read from a line. -/
theorem ChangesAside.lineFacts?_eq (h : ChangesAside s t) : lineFacts? s = lineFacts? t := by
  cases h with
  | string hpre hv hw =>
    refine lineFacts?_congr (by decide) (by decide) fun digits body hspan => ?_
    have hbody := hpre.span hspan
    rw [hbody.codeOf_closed hv, hbody.codeOf_closed hw]
  | @remark code mark x y hcode hmark =>
    have hsame : ∀ body, OutsideStrings body → codeOf (body ++ (mark ++ x)) = codeOf (body ++ (mark ++ y)) :=
      fun body hbody => (hbody.codeOf_remark hmark x).trans (hbody.codeOf_remark hmark y).symm
    obtain ⟨c, more, rfl, hblank, hdigit⟩ := exists_cons_mark hmark
    exact lineFacts?_congr hblank hdigit fun digits body hspan => hsame body (hcode.span hspan)

theorem lineFacts?_of_changes (h : Relation.ReflTransGen ChangesAside s t) : lineFacts? s = lineFacts? t := by
  induction h with
  | refl => rfl
  | tail _ hlast ih => exact ih.trans hlast.lineFacts?_eq

theorem filterMap_of_changes {ls ms : List (List Char)} (h : List.Forall₂ (Relation.ReflTransGen ChangesAside) ls ms) :
    ls.filterMap lineFacts? = ms.filterMap lineFacts? := by
  induction h with
  | nil => rfl
  | cons hline _ ih => rw [List.filterMap_cons, List.filterMap_cons, lineFacts?_of_changes hline, ih]

/-- **Strings and remarks do not influence an analysis.** It records the same for two texts that differ in nothing else and
stops with the same error, from any state. Where it does not stop, the summaries are the same. -/
theorem addText_of_differsAside (h : DiffersAside t u) :
    (∀ a : Analysis, a.addText t = a.addText u) ∧
      ∀ b c : Analysis, ({} : Analysis).addText t = (b, none) → ({} : Analysis).addText u = (c, none) →
        b.summarize.2 = c.summarize.2 := by
  have hsame : ∀ a : Analysis, a.addText t = a.addText u := by
    intro a
    rw [Analysis.addText, Analysis.addText, Analysis.addLines_eq, Analysis.addLines_eq,
      filterMap_of_changes h]
  refine ⟨hsame, fun b c hb hc => ?_⟩
  rw [hsame, hc] at hb
  cases hb
  rfl

/-- A string with a jump in it against one with a mark in it, and another remark behind. -/
theorem addText_of_differsAside_jump :
    DiffersAside "10 A$=\"GOTO 9\"'X\n20 GOSUB 10".toList "10 A$=\"'\"'GOTO 20\n20 GOSUB 10".toList ∧
      ({} : Analysis).addText "10 A$=\"GOTO 9\"'X\n20 GOSUB 10".toList =
        ({} : Analysis).addText "10 A$=\"'\"'GOTO 20\n20 GOSUB 10".toList ∧
      ({} : Analysis).addText "10 A$=\"'\"'GOTO 20\n20 GOSUB 10".toList =
        (⟨[⟨"A$".toList, .string, [10], 1, false⟩], [⟨20, 10, .gosub⟩], [10]⟩, none) := by
  have hstring : ChangesAside ("10 A$=".toList ++ '"' :: ("GOTO 9".toList ++ '"' :: "'X".toList))
      ("10 A$=".toList ++ '"' :: ("'".toList ++ '"' :: "'X".toList)) := .string (by decide) (by decide) (by decide)
  have hremark : ChangesAside ("10 A$=\"'\"".toList ++ ("'".toList ++ "X".toList))
      ("10 A$=\"'\"".toList ++ ("'".toList ++ "GOTO 20".toList)) := .remark (by decide) (.inl rfl)
  have haside : DiffersAside "10 A$=\"GOTO 9\"'X\n20 GOSUB 10".toList "10 A$=\"'\"'GOTO 20\n20 GOSUB 10".toList :=
    .cons (.tail (.single hstring) hremark) (.cons .refl .nil)
  exact ⟨haside, (addText_of_differsAside haside).1 {}, by with_unfolding_all decide⟩

/-! ## Quotes that are not closed -/

/-- No remark starts in a text, outside its strings. -/
def Uncommented (u : List Char) : Prop :=
  ∀ code mark x, OutsideStrings code → IsRemark mark → u ≠ code ++ (mark ++ x)

theorem uncommented_iff : Uncommented u ↔ ∀ i < u.length, OutsideStrings (u.take i) → atRemark (u.drop i) = false := by
  constructor
  · intro h i _ hcode
    rw [Bool.eq_false_iff]
    intro hat
    obtain ⟨mark, x, hmark, heq⟩ := atRemark_iff.1 hat
    exact h (u.take i) mark x hcode hmark (by rw [← heq, List.take_append_drop])
  · rintro h code mark x hcode hmark rfl
    have hat := atRemark_iff.2 ⟨mark, x, hmark, rfl⟩
    obtain ⟨c, more, rfl, -, -⟩ := exists_cons_mark hmark
    have hnone := h code.length (by simp) (by rwa [List.take_left])
    rw [List.drop_left, hat] at hnone
    cases hnone

instance (u : List Char) : Decidable (Uncommented u) := decidable_of_iff _ uncommented_iff.symm

theorem Uncommented.of_append (hs : OutsideStrings s) (h : Uncommented (s ++ t)) : Uncommented t := by
  intro code mark x hcode hmark ht
  exact h (s ++ code) mark x (hs.append hcode) hmark (by rw [ht, List.append_assoc])

/-- In front of a quote no remark starts in a text that has none. -/
theorem Uncommented.atRemark_eq (h : Uncommented (u ++ t)) (hu : '"' ∉ u) (hs : ∀ c ∈ s.head?, c = '"') :
    ∀ i < u.length, atRemark ((u ++ s).drop i) = false := by
  intro i hi
  rw [List.drop_append_of_le_length (Nat.le_of_lt hi), Bool.eq_false_iff]
  intro hat
  obtain ⟨mark, x, hmark, heq⟩ := atRemark_iff.1 hat
  have hcode : OutsideStrings (u.take i) := outsideStrings_of_notMem fun hq => hu (List.mem_of_mem_take hq)
  have hinside : ∀ z, u.drop i ≠ mark ++ z := by
    intro z hz
    refine h (u.take i) mark (z ++ t) hcode hmark ?_
    rw [← List.append_assoc mark, ← hz, ← List.append_assoc, List.take_append_drop]
  rcases List.append_eq_append_iff.1 heq with ⟨z, hz, hsz⟩ | ⟨z, hz, -⟩
  · -- the mark would reach past the place where the quote is
    cases z with
    | nil => exact hinside [] (by rw [hz, List.append_nil, List.append_nil])
    | cons c z =>
      have hc : c = '"' := hs c (by rw [hsz]; rfl)
      exact hmark.quote_notMem (by rw [hz, hc]; simp)
  · exact hinside z hz

/-- Text without remarks in front of a quote, or of nothing, is code as a whole. -/
theorem Uncommented.codeOf_append (hu : OutsideStrings u) (h : Uncommented u) (hs : ∀ c ∈ s.head?, c = '"') :
    codeOf (u ++ s) = emptyStrings u ++ codeOf s := by
  induction u, hu using induction_closed with
  | plain u hquote =>
    have hat := Uncommented.atRemark_eq (t := []) (by rwa [List.append_nil]) hquote hs
    rw [Program.codeOf_append hquote hat, emptyStrings_plain hquote]
  | closed u v t hquote hv ht ih =>
    have hat := h.atRemark_eq (s := '"' :: (v ++ '"' :: (t ++ s))) hquote (by simp)
    have hrest := h.of_append (outsideStrings_of_notMem hquote)
    simp only [List.append_assoc, List.cons_append, List.nil_append]
    rw [Program.codeOf_append hquote hat, Program.codeOf_closed hv, ih (hrest.of_append (outsideStrings_closed hv)),
      Program.emptyStrings_append hquote, emptyStrings_closed hv]
    simp only [List.append_assoc, List.cons_append]

/-! ## Jumps and variables on both sides of a quote -/

theorem matchJumpWord?_quote (kind : JumpKind) (s t : List Char) :
    matchJumpWord? kind (s ++ '"' :: t) = matchJumpWord? kind s := by
  have hupper := isUpper_referenceWords _ (name_mem_referenceWords kind)
  rw [matchJumpWord?, matchJumpWord?, startsFolded_append_cons (by decide) t hupper]
  split
  · rename_i hstart
    rw [Text.startsFolded_iff hupper] at hstart
    have hlen := hstart.length_le
    rw [List.length_map] at hlen
    simp only [List.drop_append_of_le_length hlen]
    generalize s.drop kind.name.toList.length = rest
    have hword : Text.startsWord (rest ++ '"' :: t) = Text.startsWord rest := by
      cases rest with
      | nil => rfl
      | cons c rest => rfl
    have hblanks : (rest ++ '"' :: t).takeWhile isBlank = rest.takeWhile isBlank :=
      takeWhile_append_of_noHead rest (noHead_cons (by decide) t)
    have hdigits : ((rest ++ '"' :: t).dropWhile isBlank).takeWhile isDigit =
        (rest.dropWhile isBlank).takeWhile isDigit := by
      rw [dropWhile_append_cons (by decide), takeWhile_append_of_noHead _ (noHead_cons (by decide) t)]
    rw [hword, hblanks, hdigits]
  · rfl

theorem scanJumps_quote (t : List Char) : ∀ (s : List Char) (inWord : Bool),
    scanJumps 0 inWord (s ++ '"' :: t) = scanJumps 0 inWord s ++ scanJumps 0 false t
  | [], inWord => by rw [List.nil_append, scanJumps_mark (by decide) (by decide), scanJumps, List.nil_append]
  | c :: s, inWord => by
    have hjump : jumpAt (c :: (s ++ '"' :: t)) = jumpAt (c :: s) := by
      rw [jumpAt, jumpAt, ← List.cons_append, matchJump?, matchJump?, matchJumpWord?_quote, matchJumpWord?_quote]
    rw [List.cons_append, scanJumps_cons, scanJumps_cons, hjump, scanJumps_quote t s, List.append_assoc]

theorem endsName_quote : EndsName '"' := ⟨by decide, by decide, by decide, by decide⟩

theorem variablesOf_quote (s t : List Char) : variablesOf (s ++ '"' :: t) = variablesOf s ++ variablesOf t := by
  rw [variablesOf, scanNames_append_end endsName_quote t s 0 false (Nat.zero_le _), List.filterMap_append, variablesOf,
    variablesOf]

theorem codeOf_unclosed (hs : '"' ∉ s) : codeOf ('"' :: s) = '"' :: beforeRemark s := by
  rw [codeOf, emptyStrings_unclosed hs, beforeRemark, atRemark_of_not_latin (by decide) (by decide),
    if_neg Bool.false_ne_true]

/-- **What an analysis reads from a line whose last string is not closed**: what it reads from the part in front of that
string, and the jumps and variables behind the quote. -/
theorem lineFacts?_unclosed {k : LineFacts} (hu : OutsideStrings u) (hcode : Uncommented u) (hs : '"' ∉ s)
    (hk : lineFacts? u = some k) :
    lineFacts? (u ++ '"' :: s) = some { k with
      jumps := k.jumps ++ jumpsOf (beforeRemark s), vars := k.vars ++ variablesOf (beforeRemark s) } := by
  obtain ⟨span, hspan, rfl⟩ := Option.map_eq_some_iff.1 hk
  obtain ⟨digits, body⟩ := span
  obtain ⟨front, rfl, hfront⟩ := exists_front_of_span hspan
  have hbody := hcode.of_append (outsideStrings_of_notMem hfront)
  have hwhole := hbody.codeOf_append (s := '"' :: s) (hu.of_append hfront) (by simp)
  have hcut := hbody.codeOf_append (s := []) (hu.of_append hfront) (by simp)
  rw [List.append_nil, codeOf_nil, List.append_nil] at hcut
  rw [← hcut, codeOf_unclosed hs] at hwhole
  rw [lineFacts?, spanLineNumber?_append (by decide) (by decide), hspan]
  simp only [Option.map_some, factsOf, hwhole, jumpsOf, scanJumps_quote, variablesOf_quote]

end

/-! ## Recording more -/

namespace Analysis

variable {a b : Analysis} {n : Nat}

theorem addJumps_append (n : Nat) (xs ys : List (JumpKind × List Char)) (a : Analysis) :
    addJumps n a (xs ++ ys) = match addJumps n a xs with
      | (b, some e) => (b, some e)
      | (b, none) => addJumps n b ys := by
  induction xs generalizing a with
  | nil => rfl
  | cons x xs ih =>
    rw [List.cons_append, addJumps, addJumps]
    cases Text.readDigits x.2 with
    | error e => rfl
    | ok target => exact ih _

theorem addVariables_append (n : Nat) (xs ys : List (List Char × VariableType)) (a : Analysis) :
    addVariables n a (xs ++ ys) = match addVariables n a xs with
      | (b, some e) => (b, some e)
      | (b, none) => addVariables n b ys := by
  induction xs generalizing a with
  | nil => rfl
  | cons x xs ih =>
    rw [List.cons_append, addVariables, addVariables]
    cases addVariable n x.1 x.2 a.vars with
    | error e => rfl
    | ok vs => exact ih _

/-- A jump fails because of its number. -/
theorem error_of_addJumps {xs : List (JumpKind × List Char)} {e : AnalysisError} (h : addJumps n a xs = (b, some e)) :
    ∃ e', e = .number e' := by
  induction xs generalizing a with
  | nil => cases h
  | cons x xs ih =>
    rw [addJumps] at h
    cases hread : Text.readDigits x.2 with
    | error e' =>
      rw [hread] at h
      cases h
      exact ⟨e', rfl⟩
    | ok target =>
      rw [hread] at h
      exact ih h

theorem length_flow_addJumps {xs : List (JumpKind × List Char)} (h : addJumps n a xs = (b, none)) :
    b.flow.length = a.flow.length + xs.length := by
  induction xs generalizing a with
  | nil =>
    cases h
    rfl
  | cons x xs ih =>
    obtain ⟨target, -, h⟩ := addJumps_cons_iff.1 h
    rw [ih h, addJump, List.length_append, List.length_cons, List.length_cons, List.length_nil]
    omega

theorem addVariable_eq_error {name : List Char} {type : VariableType} {vars : List Variable} {e : AnalysisError}
    (h : addVariable n name type vars = .error e) : e = .finalLines := by
  induction vars with
  | nil => cases h
  | cons v vars ih =>
    rw [addVariable] at h
    split at h
    · split at h
      · cases h
        rfl
      · cases h
    · cases hrest : addVariable n name type vars with
      | error e' =>
        rw [hrest] at h
        cases h
        exact ih hrest
      | ok ws =>
        rw [hrest] at h
        cases h

/-- A variable fails because its lines are final, and no variable changes the flow. -/
theorem addVariables_frame (n : Nat) (xs : List (List Char × VariableType)) (a : Analysis) :
    (addVariables n a xs).1.flow = a.flow ∧ ∀ e ∈ (addVariables n a xs).2, e = .finalLines := by
  induction xs generalizing a with
  | nil => exact ⟨rfl, by simp [addVariables]⟩
  | cons x xs ih =>
    rw [addVariables]
    cases hadd : addVariable n x.1 x.2 a.vars with
    | error e =>
      refine ⟨rfl, fun e' he => ?_⟩
      cases he
      exact addVariable_eq_error hadd
    | ok vs => exact ih _

/-- How often variables were met. -/
def occurrences : List Variable → Nat
  | [] => 0
  | v :: vars => v.count + occurrences vars

theorem occurrences_append (vars ws : List Variable) : occurrences (vars ++ ws) = occurrences vars + occurrences ws := by
  induction vars with
  | nil => rw [List.nil_append, occurrences, Nat.zero_add]
  | cons v vars ih => rw [List.cons_append, occurrences, occurrences, ih, Nat.add_assoc]

theorem occurrences_addVariable {name : List Char} {type : VariableType} {vars vs : List Variable}
    (h : addVariable n name type vars = .ok vs) : occurrences vs = occurrences vars + 1 := by
  rcases addVariable_cases h with ⟨-, rfl⟩ | ⟨before, v, after, rfl, rfl⟩
  · rw [occurrences_append]
    rfl
  · simp only [occurrences_append, occurrences]
    omega

theorem occurrences_addVariables {xs : List (List Char × VariableType)} (h : addVariables n a xs = (b, none)) :
    occurrences b.vars = occurrences a.vars + xs.length := by
  induction xs generalizing a with
  | nil =>
    cases h
    rfl
  | cons x xs ih =>
    obtain ⟨vs, hadd, h⟩ := addVariables_cons_iff.1 h
    rw [ih h, occurrences_addVariable hadd, List.length_cons]
    omega

/-- More variables are recorded unless one before them fails. -/
theorem addVariables_append_iff (n : Nat) (a : Analysis) (xs vs : List (List Char × VariableType)) :
    addVariables n a (xs ++ vs) = addVariables n a xs ↔ ((addVariables n a xs).2 = none → vs = []) := by
  rw [addVariables_append]
  cases hxs : addVariables n a xs with
  | mk b error =>
    cases error with
    | some e => exact iff_of_true rfl fun hnone => nomatch hnone
    | none =>
      constructor
      · intro h _
        have hcount := occurrences_addVariables h
        exact List.eq_nil_of_length_eq_zero (by omega)
      · intro h
        obtain rfl : vs = [] := h rfl
        rfl

/-- More jumps and variables of a line change what is recorded, unless they are not reached. -/
theorem addFacts_append_iff (a : Analysis) (k : LineFacts) (js : List (JumpKind × List Char))
    (vs : List (List Char × VariableType)) :
    a.addFacts { k with jumps := k.jumps ++ js, vars := k.vars ++ vs } = a.addFacts k ↔
      (∃ e, (a.addFacts k).2 = some (.number e)) ∨ js = [] ∧ ((a.addFacts k).2 = none → vs = []) := by
  rw [addFacts, addFacts]
  cases Text.readDigits k.digits with
  | error e => exact iff_of_true rfl (.inl ⟨e, rfl⟩)
  | ok n =>
    simp only [addJumps_append]
    cases hjumps : addJumps n a k.jumps with
    | mk b error =>
      cases error with
      | some e =>
        obtain ⟨e', rfl⟩ := error_of_addJumps hjumps
        exact iff_of_true rfl (.inl ⟨e', rfl⟩)
      | none =>
        obtain ⟨hflow, hfinal⟩ := addVariables_frame n k.vars b
        have hno : ¬ ∃ e, (addVariables n b k.vars).2 = some (.number e) :=
          fun ⟨e, he⟩ => nomatch hfinal (.number e) he
        rw [or_iff_right hno, ← addVariables_append_iff]
        dsimp only
        constructor
        · intro h
          cases hjs : addJumps n b js with
          | mk c error =>
            rw [hjs] at h
            cases error with
            | some e =>
              -- these jumps fail at a number, and variables do not
              obtain ⟨e', rfl⟩ := error_of_addJumps hjs
              exact absurd ⟨e', congrArg Prod.snd h.symm⟩ hno
            | none =>
              have hsame : c.flow = b.flow := by
                rw [← (addVariables_frame n (k.vars ++ vs) c).1, ← hflow]
                exact congrArg (fun r => r.1.flow) h
              have hlength := length_flow_addJumps hjs
              rw [hsame] at hlength
              obtain rfl : js = [] := List.eq_nil_of_length_eq_zero (by omega)
              cases hjs
              exact ⟨rfl, h⟩
        · rintro ⟨rfl, h⟩
          exact h

end Analysis

/-- **The text behind a quote that is not closed is analysed.** The analysis of a line is that of the part in front of
such a quote exactly if it stops at a number in that part, or if the text behind has no jump, and no variable either
unless it stops at a variable of that part. -/
theorem addLine_unclosed_iff {u v : List Char} (hu : OutsideStrings u) (hcode : Uncommented u) (hv : '"' ∉ v)
    (hnumber : spanLineNumber? u ≠ none) (a : Analysis) :
    a.addLine (u ++ '"' :: v) = a.addLine u ↔
      (∃ e, (a.addLine u).2 = some (.number e)) ∨
        jumpsOf (beforeRemark v) = [] ∧ ((a.addLine u).2 = none → variablesOf (beforeRemark v) = []) := by
  obtain ⟨span, hspan⟩ := Option.ne_none_iff_exists'.1 hnumber
  have hfacts : lineFacts? u = some (factsOf span) := by rw [lineFacts?, hspan, Option.map_some]
  rw [Analysis.addLine_eq, Analysis.addLine_eq, lineFacts?_unclosed hu hcode hv hfacts, hfacts]
  exact a.addFacts_append_iff _ _ _

/-- What stands behind this quote is a reserved word with a number, and a remark. -/
theorem addLine_unclosed_reserved :
    ({} : Analysis).addLine "10 A=1:PRINT \"TO 20'GOTO 9".toList = ({} : Analysis).addLine "10 A=1:PRINT ".toList := by
  have hiff := addLine_unclosed_iff (u := "10 A=1:PRINT ".toList) (v := "TO 20'GOTO 9".toList) (by decide) (by decide)
    (by decide) (by decide) {}
  exact hiff.2 (.inr ⟨by with_unfolding_all decide, fun _ => by with_unfolding_all decide⟩)

/-- The jump in this text is recorded, as if there were no quote. -/
theorem addLine_unclosed_goto :
    OutsideStrings "10 PRINT ".toList ∧ Uncommented "10 PRINT ".toList ∧ '"' ∉ "GOTO 20".toList ∧
      ({} : Analysis).addLine "10 PRINT ".toList = ({}, none) ∧
      ({} : Analysis).addLine "10 PRINT \"GOTO 20".toList = (⟨[], [⟨10, 20, .goto⟩], []⟩, none) := by
  exact ⟨by decide, by decide, by decide, by with_unfolding_all decide, by with_unfolding_all decide⟩

end MsxWorkbench.Program
