import MsxWorkbench.Proofs.Program.AnalysedCode
/-
# Names in front of a parenthesis

An analysis looks for identifiers that no opening parenthesis follows. In place of one with a parenthesis behind it finds
the longest shorter one: the identifier without its suffix or, if it has none, without its last character (`cutName`).
So a part of an array's or a function's name is recorded as a variable, unless it is empty or a reserved word or
starts with one (`addLine_called_iff`).
-/
namespace MsxWorkbench.Program

open Text (isWord)

/-! ## Names on both sides of a word boundary -/

theorem isWord_of_isNameChar {c : Char} (h : isNameChar c = true) : isWord c = true := by
  rcases Bool.or_eq_true_iff.1 h with hlatin | hdigit
  · exact Text.isWord_of_isLatin hlatin
  · exact Text.isWord_of_isDigit (Text.isDigit_of_ascii hdigit)

theorem isNameChar_of_not_isWord {c : Char} (h : isWord c = false) : isNameChar c = false := by
  rw [Bool.eq_false_iff]
  intro hname
  rw [isWord_of_isNameChar hname] at h
  cases h

theorem isLatin_of_not_isWord {c : Char} (h : isWord c = false) : Text.isLatin c = false :=
  (Bool.or_eq_false_iff.1 (isNameChar_of_not_isWord h)).1

section
variable {u s : List Char}

/-- A name that ends in front of a place is found without what is behind it, unless that is a parenthesis. -/
theorem matchName?_append_outside (hu : ∃ x ∈ u, isNameChar x = false) (hs : s.head? ≠ some '(') (c : Char) :
    matchName? (c :: (u ++ s)) = matchName? (c :: u) := by
  obtain ⟨x, hx, hname⟩ := hu
  cases hd : u.dropWhile isNameChar with
  | nil =>
    rw [List.dropWhile_eq_nil_iff.1 hd x hx] at hname
    cases hname
  | cons d after =>
    have hdrop : (u ++ s).dropWhile isNameChar = d :: (after ++ s) := by
      rw [List.dropWhile_append, hd]
      rfl
    have htake : (u ++ s).takeWhile isNameChar = u.takeWhile isNameChar := by
      rw [List.takeWhile_append, if_neg]
      intro hall
      rw [← drop_length_takeWhile, hall, List.drop_length] at hd
      cases hd
    have hhead : (after ++ s).head? = some '(' ↔ after.head? = some '(' := by
      cases after with
      | nil => simpa using hs
      | cons e after => rfl
    simp only [matchName?, htake, hdrop, hd, hhead]

/-- Names in front of a word boundary and behind it are found apart. -/
theorem scanNames_append_outside (hs : s.head? ≠ some '(') : ∀ (u : List Char) (skip : Nat) (inWord : Bool),
    skip ≤ u.length → u ≠ [] → (∀ c ∈ u.getLast?, isWord c = false) →
    scanNames skip inWord (u ++ s) = scanNames skip inWord u ++ scanNames 0 false s
  | [c], 0, inWord, _, _, hlast => by
    have hc := hlast c rfl
    have hnone := matchName?_of_not_latin (isLatin_of_not_isWord hc)
    rw [List.singleton_append, scanNames_none (hnone _), scanNames_none (hnone _), hc, scanNames, List.nil_append]
  | [c], 1, inWord, _, _, hlast => by
    rw [List.singleton_append, scanNames, scanNames, hlast c rfl, scanNames, List.nil_append]
  | c :: d :: u, skip + 1, inWord, hskip, _, hlast => by
    rw [List.getLast?_cons_cons] at hlast
    rw [List.cons_append, scanNames, scanNames,
      scanNames_append_outside hs (d :: u) skip _ (Nat.le_of_succ_le_succ hskip) (List.cons_ne_nil d u) hlast]
  | c :: d :: u, 0, inWord, _, _, hlast => by
    rw [List.getLast?_cons_cons] at hlast
    have hu : ∃ x ∈ d :: u, isNameChar x = false := by
      have hne := List.cons_ne_nil d u
      exact ⟨_, List.getLast_mem hne, isNameChar_of_not_isWord (hlast _ (List.getLast?_eq_getLast_of_ne_nil hne))⟩
    rw [List.cons_append, scanNames, scanNames, matchName?_append_outside hu hs]
    split
    · rename_i name suffix hname
      have hlen := Nat.le_trans (skip_le_of_found hname) (List.takeWhile_sublist isVisible).length_le
      rw [scanNames_append_outside hs (d :: u) _ _ hlen (List.cons_ne_nil d u) hlast]
      rfl
    · rw [scanNames_append_outside hs (d :: u) 0 _ (Nat.zero_le _) (List.cons_ne_nil d u) hlast]

end

/-! ## Identifiers -/

/-- A letter with letters and digits behind it, and perhaps a suffix. -/
structure IsIdentifier (name : List Char) (suffix : Option Char) : Prop where
  letter : ∃ c tail, name = c :: tail ∧ Text.isLatin c = true
  chars : ∀ c ∈ name, isNameChar c = true
  suffix : ∀ d ∈ suffix, isSuffix d = true

/-- An identifier without its suffix, or without its last character if it has none. -/
def cutName (name : List Char) (suffix : Option Char) : List Char := if suffix.isSome then name else name.dropLast

/-- The variable that is recorded for an identifier in front of a parenthesis. -/
def calledVariable? (name : List Char) (suffix : Option Char) : Option (List Char × VariableType) :=
  if cutName name suffix = [] then none else variableOf? (cutName name suffix) none

theorem calledVariable?_eq_none_iff {name : List Char} {suffix : Option Char} : calledVariable? name suffix = none ↔
    cutName name suffix = [] ∨ isReserved (Text.upper (cutName name suffix)) = true ∨
      startsReserved (Text.upper (cutName name suffix)) = true := by
  rw [calledVariable?]
  split
  · rename_i hcut
    exact iff_of_true rfl (.inl hcut)
  · rename_i hcut
    rw [or_iff_right hcut, variableOf?]
    simp only [Option.toList_none, List.append_nil]
    split
    · rename_i hreserved
      refine iff_of_true rfl ?_
      simp only [Bool.or_eq_true] at hreserved
      tauto
    · rename_i hreserved
      refine iff_of_false (by simp) ?_
      simp only [Bool.or_eq_true] at hreserved
      tauto

theorem suffix_not_in_name {d : Char} (h : isSuffix d = true) : isWord d = false := by
  simp only [isSuffix, Bool.or_eq_true, beq_iff_eq] at h
  rcases h with ((rfl | rfl) | rfl) | rfl <;> decide

theorem scanNames_skip (t : List Char) : ∀ (s : List Char) (inWord : Bool),
    scanNames s.length inWord (s ++ t) = scanNames 0 (wordAfter inWord s) t
  | [], _ => rfl
  | c :: s, _ => by
    rw [List.length_cons, List.cons_append, scanNames, scanNames_skip t s]
    rfl

theorem scanNames_paren (inWord : Bool) (t : List Char) : scanNames 0 inWord ('(' :: t) = scanNames 0 false t :=
  scanNames_none (matchName?_of_not_latin (by decide) t)

theorem wordAfter_of_names {s : List Char} (h : ∀ c ∈ s, isNameChar c = true) : wordAfter true s = true := by
  induction s with
  | nil => rfl
  | cons c s ih =>
    rw [List.forall_mem_cons] at h
    rw [wordAfter, List.foldl_cons, isWord_of_isNameChar h.1]
    exact ih h.2

namespace IsIdentifier

variable {name : List Char} {suffix : Option Char}

/-- An identifier in front of a parenthesis is found cut. -/
theorem matchName?_eq (h : IsIdentifier name suffix) (t : List Char) :
    matchName? (name ++ (suffix.toList ++ '(' :: t)) =
      if cutName name suffix = [] then none else some (cutName name suffix, none) := by
  obtain ⟨c, tail, rfl, hc⟩ := h.letter
  have htail : ∀ d ∈ tail, isNameChar d = true := fun d hd => h.chars d (List.mem_cons_of_mem _ hd)
  have hstop : NoHead isNameChar (suffix.toList ++ '(' :: t) := by
    cases suffix with
    | none => exact noHead_cons (by decide) t
    | some d => exact noHead_cons (isNameChar_of_not_isWord (suffix_not_in_name (h.suffix d rfl))) _
  rw [List.cons_append, matchName?, if_pos hc, takeWhile_append_noHead htail hstop, dropWhile_append_noHead htail hstop]
  cases suffix with
  | some d => simp [cutName, h.suffix d rfl]
  | none =>
    have hparen : isSuffix '(' = false := by decide
    cases tail with
    | nil => simp [cutName, hparen]
    | cons d tail => simp [cutName, hparen]

/-- Nothing more of an identifier is found behind the cut. -/
theorem scanNames_eq (h : IsIdentifier name suffix) (t : List Char) :
    scanNames 0 false (name ++ (suffix.toList ++ '(' :: t)) =
      (if cutName name suffix = [] then [] else [(cutName name suffix, none)]) ++ scanNames 0 false t := by
  have hmatch := h.matchName?_eq t
  obtain ⟨c, tail, rfl, hc⟩ := h.letter
  have hword : isWord c = true := Text.isWord_of_isLatin hc
  rw [List.cons_append] at hmatch ⊢
  rw [scanNames, if_neg Bool.false_ne_true, hmatch, hword]
  cases suffix with
  | some d =>
    have hd := isLatin_of_not_isWord (suffix_not_in_name (h.suffix d rfl))
    simp only [cutName, Option.isSome_some, if_true, if_neg (List.cons_ne_nil c tail), Option.toList_none,
      List.length_nil, List.length_cons, Nat.add_zero, Nat.add_sub_cancel, List.singleton_append, Option.toList_some]
    rw [scanNames_skip, scanNames_none (matchName?_of_not_latin hd _), scanNames_paren]
  | none =>
    rcases List.eq_nil_or_concat tail with rfl | ⟨front, x, rfl⟩
    · simp only [cutName, Option.isSome_none, Bool.false_eq_true, if_false, List.dropLast_singleton, if_true,
        Option.toList_none, List.nil_append]
      exact scanNames_paren true t
    · -- the character behind the cut is inside a word
      have hfront : ∀ d ∈ front, isNameChar d = true := fun d hd => h.chars d (by simp [hd])
      have hcut : cutName (c :: (front ++ [x])) none = c :: front := by
        rw [← List.cons_append]
        exact List.dropLast_concat
      rw [List.concat_eq_append, hcut]
      simp only [if_neg (List.cons_ne_nil c front), Option.toList_none, List.length_nil, List.length_cons, Nat.add_zero,
        Nat.add_sub_cancel, List.append_assoc, List.singleton_append, List.nil_append]
      rw [scanNames_skip, wordAfter_of_names hfront, scanNames, if_pos rfl, scanNames_paren]

theorem variablesOf_eq (h : IsIdentifier name suffix) (t : List Char) :
    variablesOf (name ++ (suffix.toList ++ '(' :: t)) = (calledVariable? name suffix).toList ++ variablesOf t := by
  rw [variablesOf, h.scanNames_eq, List.filterMap_append, calledVariable?, variablesOf]
  split
  · rfl
  · simp only [List.filterMap_cons, List.filterMap_nil]
    cases variableOf? (cutName name suffix) none <;> rfl

end IsIdentifier

/-- The variables of a text with an identifier in front of a parenthesis. -/
theorem variablesOf_called {u name : List Char} {suffix : Option Char} (hu : ∀ c ∈ u.getLast?, isWord c = false)
    (h : IsIdentifier name suffix) (t : List Char) :
    variablesOf (u ++ (name ++ (suffix.toList ++ '(' :: t))) =
      variablesOf u ++ ((calledVariable? name suffix).toList ++ variablesOf t) := by
  rw [← h.variablesOf_eq]
  by_cases hempty : u = []
  · rw [hempty]
    rfl
  · have hhead : (name ++ (suffix.toList ++ '(' :: t)).head? ≠ some '(' := by
      obtain ⟨c, tail, rfl, hc⟩ := h.letter
      intro heq
      rw [Option.some.inj heq] at hc
      revert hc
      decide
    rw [variablesOf, scanNames_append_outside hhead u 0 false (Nat.zero_le _) hempty hu, List.filterMap_append, variablesOf,
      variablesOf]

/-! ## What is recorded -/

namespace Analysis

variable {a b : Analysis}

theorem vars_addJumps (n : Nat) (xs : List (JumpKind × List Char)) (a : Analysis) : (addJumps n a xs).1.vars = a.vars := by
  induction xs generalizing a with
  | nil => rfl
  | cons x xs ih =>
    rw [addJumps]
    cases Text.readDigits x.2 with
    | error e => rfl
    | ok target => exact ih _

/-- A line that was recorded as a whole has added all its occurrences. -/
theorem occurrences_addFacts {k : LineFacts} (h : a.addFacts k = (b, none)) :
    occurrences b.vars = occurrences a.vars + k.vars.length := by
  obtain ⟨n, c, -, hjumps, hadd⟩ := addFacts_iff.1 h
  have hvars := vars_addJumps n k.jumps a
  rw [hjumps] at hvars
  rw [occurrences_addVariables hadd, hvars]

end Analysis

/-- **A part of a name in front of a parenthesis is recorded.** Between the variables on both sides of an identifier with an
opening parenthesis behind it, the variable of its cut form is recorded. Nothing is recorded for the identifier exactly if
that form is empty or a reserved word or starts with one. -/
theorem addLine_called_iff {line digits body u name t : List Char} {suffix : Option Char}
    (hspan : spanLineNumber? line = some (digits, body)) (hcode : codeOf body = u ++ (name ++ (suffix.toList ++ '(' :: t)))
    (hstart : ∀ c ∈ u.getLast?, isWord c = false) (hname : IsIdentifier name suffix) :
    variablesOf (codeOf body) = variablesOf u ++ ((calledVariable? name suffix).toList ++ variablesOf t) ∧
      ∀ a b : Analysis, a.addLine line = (b, none) →
        (a.addFacts ⟨digits, jumpsOf (codeOf body), variablesOf u ++ variablesOf t⟩ = (b, none) ↔
          cutName name suffix = [] ∨ isReserved (Text.upper (cutName name suffix)) = true ∨
            startsReserved (Text.upper (cutName name suffix)) = true) := by
  have hvars := variablesOf_called hstart hname t
  rw [← hcode] at hvars
  refine ⟨hvars, fun a b hline => ?_⟩
  rw [Analysis.addLine_eq, lineFacts?, hspan] at hline
  have hfacts : a.addFacts ⟨digits, jumpsOf (codeOf body), variablesOf (codeOf body)⟩ = (b, none) := hline
  rw [hvars] at hfacts
  rw [← calledVariable?_eq_none_iff]
  constructor
  · intro hwithout
    -- each occurrence adds one to the counts
    have hcount := (Analysis.occurrences_addFacts hfacts).symm.trans (Analysis.occurrences_addFacts hwithout)
    cases hcalled : calledVariable? name suffix with
    | none => rfl
    | some v =>
      rw [hcalled] at hcount
      simp only [List.length_append, Option.toList_some, List.length_singleton] at hcount
      omega
  · intro hcalled
    rwa [hcalled] at hfacts

/-- One letter in front of a parenthesis is not recorded, the variables on both sides are. -/
theorem addLine_called_letter :
    ({} : Analysis).addLine "10 B=A(B%)".toList =
        (⟨[⟨['B'], .single, [10], 1, false⟩, ⟨['B', '%'], .integer, [10], 1, false⟩], [], []⟩, none) ∧
      ({} : Analysis).addFacts
          ⟨"10".toList, jumpsOf (codeOf " B=A(B%)".toList), variablesOf " B=".toList ++ variablesOf "B%)".toList⟩ =
        (⟨[⟨['B'], .single, [10], 1, false⟩, ⟨['B', '%'], .integer, [10], 1, false⟩], [], []⟩, none) := by
  have hline : ({} : Analysis).addLine "10 B=A(B%)".toList =
      (⟨[⟨['B'], .single, [10], 1, false⟩, ⟨['B', '%'], .integer, [10], 1, false⟩], [], []⟩, none) := by
    with_unfolding_all decide
  have hcode : codeOf " B=A(B%)".toList = " B=".toList ++ (['A'] ++ ((none : Option Char).toList ++ '(' :: "B%)".toList)) := by
    with_unfolding_all decide
  have hstart : ∀ c ∈ " B=".toList.getLast?, isWord c = false := by
    rw [show " B=".toList.getLast? = some '=' by decide]
    intro c hc
    rw [← Option.mem_some.1 hc]
    decide
  have hname : IsIdentifier ['A'] none :=
    ⟨⟨'A', [], rfl, by decide⟩, List.forall_mem_singleton.2 (by decide), fun d hd => by cases hd⟩
  have hspan : spanLineNumber? "10 B=A(B%)".toList = some ("10".toList, " B=A(B%)".toList) := by decide
  have hcalled := (addLine_called_iff hspan hcode hstart hname).2 {} _ hline
  exact ⟨hline, hcalled.2 (.inl rfl)⟩

/-- The name of this array has two letters, and the first of them is recorded as a variable. -/
theorem addLine_called_array :
    spanLineNumber? "10 AB(1)=2".toList = some ("10".toList, " AB(1)=2".toList) ∧
      codeOf " AB(1)=2".toList = " ".toList ++ ("AB".toList ++ ((none : Option Char).toList ++ '(' :: "1)=2".toList)) ∧
      ({} : Analysis).addLine "10 AB(1)=2".toList = (⟨[⟨['A'], .single, [10], 1, false⟩], [], []⟩, none) := by
  exact ⟨by decide, by with_unfolding_all decide, by with_unfolding_all decide⟩

end MsxWorkbench.Program
