import Mathlib.Data.List.Induction
import MsxWorkbench.Proofs.Editor.Renumber
import MsxWorkbench.Proofs.Program.WordTable
import MsxWorkbench.Proofs.Text.Capitals
/-
# Marks on functions

Highlighting looks for words of letters and dollars that start and end at a word boundary. Between a dollar and a
parenthesis there is none, so a name that ends with a dollar is never found in front of its parenthesis; and a name behind
dollars is found alone only if the dollars do not belong to a word themselves (`mem_wordParts_iff`). This is exactly when a
function that is called gets its mark (`highlight_function_iff`).
-/
namespace MsxWorkbench.Program

open Text (isWord isLatin)

/-! ## Boundaries -/

/-- Is there a character, and does it stand in words? -/
def isWordAt (c : Option Char) : Bool := (c.map isWord).getD false

theorem isWordAt_eq_false_iff {c : Option Char} : isWordAt c = false ↔ ∀ d ∈ c, isWord d = false := by
  cases c <;> simp [isWordAt]

theorem isBoundary_eq_true_iff {a b : Option Char} : isBoundary a b = true ↔ isWordAt a ≠ isWordAt b := bne_iff_ne

theorem isBoundary_eq_false_iff {a b : Option Char} : isBoundary a b = false ↔ isWordAt a = isWordAt b := bne_eq_false_iff_eq

theorem isWordPart_of_isLatin {c : Char} (h : isLatin c = true) : isWordPart c = true := by
  rw [isWordPart, h, Bool.true_or]

/-- Of the characters of a word only dollars are no word characters. -/
theorem isWord_of_isWordPart {c : Char} (h : isWordPart c = true) : isWord c = (c != '$') := by
  rcases Bool.or_eq_true_iff.1 h with hlatin | hdollar
  · have hne : c ≠ '$' := by
      rintro rfl
      cases hlatin
    rw [Text.isWord_of_isLatin hlatin, bne_iff_ne.2 hne]
  · rw [beq_iff_eq.1 hdollar]
    decide

section
variable {s u v : List Char} {column m n skip : Nat} {before : Option Char} {p : ShadedPart}

theorem wordSize?_eq_some (h : wordSize? s n = some m) :
    0 < m ∧ m ≤ n ∧ isBoundary s[m - 1]? s[m]? = true := by
  induction n with
  | zero => cases h
  | succ n ih =>
    rw [wordSize?] at h
    split at h
    · rename_i hboundary
      obtain rfl := Option.some.inj h
      exact ⟨Nat.succ_pos n, Nat.le_refl _, hboundary⟩
    · obtain ⟨hpos, hle, hboundary⟩ := ih h
      exact ⟨hpos, Nat.le_succ_of_le hle, hboundary⟩

/-- The size of a word does not depend on what stands far behind it. -/
theorem wordSize?_append (h : n < u.length) (v : List Char) : wordSize? (u ++ v) n = wordSize? u n := by
  induction n with
  | zero => rfl
  | succ n ih =>
    rw [wordSize?, wordSize?, ih (by omega), List.getElem?_append_left (by omega), List.getElem?_append_left h]

/-! ## One step of the search -/

theorem wordParts_of_boundary {c : Char} (hboundary : isBoundary before (some c) = true)
    (hsize : wordSize? (c :: s) ((c :: s).takeWhile isWordPart).length = some n) :
    wordParts 0 column before (c :: s) =
      ((wordShade? (((c :: s).takeWhile isWordPart).take n)).map fun shade => ⟨shade, column, column + n⟩).toList ++
        wordParts (n - 1) (column + 1) (some c) s := by
  simp only [wordParts, hboundary, hsize, if_true]

theorem wordParts_of_none {c : Char} (h : (if isBoundary before (some c) then
      wordSize? (c :: s) ((c :: s).takeWhile isWordPart).length else none) = none) :
    wordParts 0 column before (c :: s) = wordParts 0 (column + 1) (some c) s := by
  simp only [wordParts, h]

/-- The part covers the word `w` of letters and dollars between `u` and `v`. It ends at a boundary and has the shade of the
word. -/
structure Covers (p : ShadedPart) (column : Nat) (u w v : List Char) : Prop where
  ne_nil : w ≠ []
  first : p.first = column + u.length
  last : p.last = p.first + w.length
  chars : ∀ c ∈ w, isWordPart c = true
  boundary : isBoundary w.getLast? v.head? = true
  shade : wordShade? w = some p.shade

theorem Covers.cons {u w v : List Char} (h : Covers p (column + 1) u w v) (c : Char) :
    Covers p column (c :: u) w v :=
  { h with first := by rw [h.first, List.length_cons]; omega }

/-- The word that is found at a place. -/
theorem covers_here {shade : Shade} (hsize : wordSize? s (s.takeWhile isWordPart).length = some n)
    (hshade : wordShade? ((s.takeWhile isWordPart).take n) = some shade) :
    Covers ⟨shade, column, column + n⟩ column [] (s.take n) (s.drop n) := by
  obtain ⟨hpos, hle, hboundary⟩ := wordSize?_eq_some hsize
  have hrun : (s.takeWhile isWordPart).take n = s.take n :=
    (List.prefix_iff_eq_take.1 ((List.take_prefix n _).trans (List.takeWhile_prefix _))).trans
      (by rw [List.length_take, Nat.min_eq_left hle])
  have hlength : n ≤ s.length := Nat.le_trans hle (List.takeWhile_sublist _).length_le
  have hend : s[n - 1]? = some s[n - 1] := List.getElem?_eq_getElem (by omega)
  rw [hrun] at hshade
  refine ⟨fun hnil => ?_, rfl, by simp [hlength], fun c hc => ?_, ?_, hshade⟩
  · rw [List.take_eq_nil_iff] at hnil
    rcases hnil with rfl | rfl
    · omega
    · exact absurd hlength (Nat.not_le.2 hpos)
  · rw [← hrun] at hc
    exact List.mem_takeWhile_imp (List.mem_of_mem_take hc)
  · rwa [List.getLast?_take, if_neg (by omega), hend, Option.some_or, List.head?_drop, ← hend]

/-- Only such words are found, and none before the search starts. -/
theorem of_mem_wordParts : ∀ {s : List Char} {skip column : Nat} {before : Option Char},
    p ∈ wordParts skip column before s →
      ∃ u w v, s = u ++ (w ++ v) ∧ skip ≤ u.length ∧ Covers p column u w v
  | [], _, _, _, h => by simp [wordParts] at h
  | c :: s, skip + 1, column, before, h => by
    rw [wordParts] at h
    obtain ⟨u, w, v, rfl, hskip, hpart⟩ := of_mem_wordParts h
    exact ⟨c :: u, w, v, rfl, Nat.succ_le_succ hskip, hpart.cons c⟩
  | c :: s, 0, column, before, h => by
    have hlater : ∀ {skip : Nat}, p ∈ wordParts skip (column + 1) (some c) s →
        ∃ u w v, c :: s = u ++ (w ++ v) ∧ 0 ≤ u.length ∧ Covers p column u w v := by
      intro skip hmem
      obtain ⟨u, w, v, rfl, -, hpart⟩ := of_mem_wordParts hmem
      exact ⟨c :: u, w, v, rfl, Nat.zero_le _, hpart.cons c⟩
    cases hsize : if isBoundary before (some c) then
        wordSize? (c :: s) ((c :: s).takeWhile isWordPart).length else none with
    | none =>
      rw [wordParts_of_none hsize] at h
      exact hlater h
    | some n =>
      obtain ⟨hboundary, hsize⟩ := Option.ite_none_right_eq_some.1 hsize
      rw [wordParts_of_boundary hboundary hsize, List.mem_append, Option.mem_toList, Option.map_eq_some_iff] at h
      rcases h with ⟨shade, hshade, rfl⟩ | h
      · exact ⟨[], _, _, (List.take_append_drop n _).symm, Nat.zero_le _, covers_here hsize hshade⟩
      · exact hlater h

theorem first_of_mem_wordParts (h : p ∈ wordParts skip column before s) :
    column + skip ≤ p.first ∧ p.first < column + s.length := by
  obtain ⟨u, w, v, rfl, hskip, hpart⟩ := of_mem_wordParts h
  have hw := List.length_pos_iff.2 hpart.ne_nil
  rw [hpart.first, List.length_append, List.length_append]
  omega

/-- Words before and behind a character that stands in none are found apart. -/
theorem wordParts_append_cons {c : Char} (hc : isWordPart c = false) (v : List Char) :
    ∀ (u : List Char) (skip column : Nat) (before : Option Char), skip ≤ u.length →
      wordParts skip column before (u ++ c :: v) =
        wordParts skip column before (u ++ [c]) ++ wordParts 0 (column + (u.length + 1)) (some c) v
  | [], skip, column, before, hskip => by
    obtain rfl := Nat.le_zero.1 hskip
    have hnone : ∀ s, wordParts 0 column before (c :: s) = wordParts 0 (column + 1) (some c) s := fun s =>
      wordParts_of_none (by simp [hc, wordSize?])
    rw [List.nil_append, List.nil_append, hnone, hnone, wordParts, List.nil_append]
    rfl
  | d :: u, skip, column, before, hskip => by
    have hcolumn : column + ((d :: u).length + 1) = column + 1 + (u.length + 1) := by
      rw [List.length_cons]
      omega
    have ih : ∀ n ≤ u.length, wordParts n (column + 1) (some d) (u ++ c :: v) =
        wordParts n (column + 1) (some d) (u ++ [c]) ++ wordParts 0 (column + ((d :: u).length + 1)) (some c) v := by
      intro n hn
      rw [hcolumn, wordParts_append_cons hc v u n _ _ hn]
    rw [List.cons_append, List.cons_append]
    cases skip with
    | succ skip => rw [wordParts, wordParts, ih skip (Nat.le_of_succ_le_succ hskip)]
    | zero =>
      have hrun : ∀ w, (d :: (u ++ c :: w)).takeWhile isWordPart = (d :: u).takeWhile isWordPart :=
        fun w => takeWhile_append_of_noHead (d :: u) (noHead_cons hc w)
      have hle : ((d :: u).takeWhile isWordPart).length ≤ u.length + 1 := (List.takeWhile_sublist _).length_le
      -- the run of letters and dollars ends before `v`, and so does all that is looked at
      have hsame : wordSize? (d :: (u ++ c :: v)) ((d :: u).takeWhile isWordPart).length =
          wordSize? (d :: (u ++ [c])) ((d :: u).takeWhile isWordPart).length := by
        have happend := wordSize?_append (u := d :: (u ++ [c])) (n := ((d :: u).takeWhile isWordPart).length)
          (by rw [List.length_cons, List.length_append, List.length_singleton]; omega) v
        rwa [List.cons_append, List.append_assoc] at happend
      cases hsize : if isBoundary before (some d) then
          wordSize? (d :: (u ++ [c])) ((d :: u).takeWhile isWordPart).length else none with
      | none =>
        rw [wordParts_of_none (by rw [hrun, hsame, hsize]), wordParts_of_none (by rw [hrun, hsize]), ih 0 (Nat.zero_le _)]
      | some n =>
        obtain ⟨hboundary, hsize⟩ := Option.ite_none_right_eq_some.1 hsize
        have hn := (wordSize?_eq_some hsize).2.1
        rw [wordParts_of_boundary hboundary (by rw [hrun, hsame, hsize]),
          wordParts_of_boundary hboundary (by rw [hrun, hsize]), ih (n - 1) (by omega), hrun, hrun, List.append_assoc]

/-! ## Names in front of a parenthesis -/

/-- A run that ends with a letter in front of a parenthesis is a word. -/
theorem wordSize?_run {r : List Char} (hlast : isWordAt r.getLast? = true) (v : List Char) :
    wordSize? (r ++ '(' :: v) r.length = some r.length := by
  obtain ⟨init, c, rfl⟩ : ∃ init c, r = init ++ [c] := by
    rcases List.eq_nil_or_concat' r with rfl | h
    · cases hlast
    · exact h
  have hboundary : isBoundary (some c) (some '(') = true := by
    rw [List.getLast?_append, List.getLast?_singleton, Option.some_or] at hlast
    rw [isBoundary_eq_true_iff, hlast]
    decide
  rw [List.length_append, List.length_singleton, wordSize?, if_pos]
  simpa using hboundary

/-- A run in front of a parenthesis is found as a whole. -/
theorem wordParts_run {c : Char} {r : List Char} (hboundary : isBoundary before (some c) = true)
    (hrun : ∀ d ∈ c :: r, isWordPart d = true) (hlast : isWordAt (c :: r).getLast? = true) (v : List Char) :
    wordParts 0 column before (c :: r ++ '(' :: v) =
      ((wordShade? (c :: r)).map fun shade => ⟨shade, column, column + (c :: r).length⟩).toList ++
        wordParts r.length (column + 1) (some c) (r ++ '(' :: v) := by
  have htake : (c :: (r ++ '(' :: v)).takeWhile isWordPart = c :: r :=
    takeWhile_append_noHead hrun (noHead_cons (by decide) v)
  have hsize := wordSize?_run hlast v
  rw [List.cons_append] at hsize ⊢
  rw [wordParts_of_boundary hboundary (by rw [htake, hsize]), htake, List.take_length]
  rfl

/-- Behind a boundary a run is taken for one word with the name that follows it, so the name is not found alone. -/
theorem notMem_wordParts_run {c : Char} {run name after : List Char} {shade : Shade} {last : Nat}
    (hboundary : isBoundary before (some c) = true)
    (hparts : ∀ d ∈ c :: (run ++ name), isWordPart d = true) (hne : name ≠ []) (hword : isWordAt name.getLast? = true) :
    ⟨shade, column + (c :: run).length, last⟩ ∉ wordParts 0 column before (c :: (run ++ name) ++ '(' :: after) := by
  have hend : isWordAt (c :: (run ++ name)).getLast? = true := by
    rw [← List.cons_append, List.getLast?_append_of_ne_nil _ hne, hword]
  intro hmem
  rw [wordParts_run hboundary hparts hend, List.mem_append] at hmem
  rcases hmem with hmem | hmem
  · rw [Option.mem_toList, Option.map_eq_some_iff] at hmem
    obtain ⟨_, -, heq⟩ := hmem
    have hfirst : column = column + (c :: run).length := congrArg ShadedPart.first heq
    rw [List.length_cons] at hfirst
    omega
  · have hfirst : column + 1 + (run ++ name).length ≤ column + (c :: run).length := (first_of_mem_wordParts hmem).1
    have hpos := List.length_pos_iff.2 hne
    rw [List.length_append, List.length_cons] at hfirst
    omega

/-- A name of letters in front of a parenthesis, behind a run of letters and dollars that does not end with a letter, is
found alone exactly if the run has dollars only and no word character comes before it. -/
theorem mem_wordParts_iff {name : List Char} {shade : Shade} (hne : name ≠ []) (hname : ∀ c ∈ name, isLatin c = true)
    (hshade : wordShade? name = some shade) (after : List Char) :
    ∀ (run : List Char) (column : Nat) (before : Option Char), (∀ c ∈ run, isWordPart c = true) →
      isWordAt (run.getLast?.or before) = false →
      (⟨shade, column + run.length, column + run.length + name.length⟩ ∈
          wordParts 0 column before (run ++ name ++ '(' :: after) ↔
        (∀ c ∈ run, c = '$') ∧ isWordAt before = false) := by
  have hword : isWordAt name.getLast? = true := by
    rw [List.getLast?_eq_some_getLast hne]
    exact Text.isWord_of_isLatin (hname _ (List.getLast_mem hne))
  have hparts : ∀ c ∈ name, isWordPart c = true := fun c hc => isWordPart_of_isLatin (hname c hc)
  intro run
  induction run with
  | nil =>
    intro column before _ hlast
    refine iff_of_true ?_ ⟨List.forall_mem_nil _, hlast⟩
    cases name with
    | nil => exact absurd rfl hne
    | cons c name =>
      have hboundary : isBoundary before (some c) = true := by
        have hfirst : isWordAt (some c) = true := Text.isWord_of_isLatin (hname c List.mem_cons_self)
        rw [isBoundary_eq_true_iff, hfirst, show isWordAt before = false from hlast]
        decide
      rw [List.nil_append, wordParts_run hboundary hparts hword, hshade]
      exact List.mem_append_left _ List.mem_cons_self
  | cons c run ih =>
    intro column before hrun hlast
    rw [List.forall_mem_cons] at hrun
    have hc : isWordAt (some c) = (c != '$') := isWord_of_isWordPart hrun.1
    rw [List.forall_mem_cons]
    cases hboundary : isBoundary before (some c) with
    | true =>
      refine iff_of_false ?_ fun hdollars => ?_
      · rw [List.cons_append]
        exact notMem_wordParts_run hboundary
          (List.forall_mem_cons.2 ⟨hrun.1, List.forall_mem_append.2 ⟨hrun.2, hparts⟩⟩) hne hword
      · rw [isBoundary_eq_true_iff, hdollars.2, hc, hdollars.1.1] at hboundary
        exact hboundary rfl
    | false =>
      have hsame := isBoundary_eq_false_iff.1 hboundary
      rw [List.cons_append, List.cons_append, wordParts_of_none (by rw [hboundary]; rfl)]
      have hnext := ih (column + 1) (some c) hrun.2 (by rwa [Option.or_some, ← List.getLast?_cons])
      have hcolumn : column + (c :: run).length = column + 1 + run.length := by
        rw [List.length_cons]
        omega
      rw [hcolumn, hnext, hsame, hc, bne_eq_false_iff_eq]
      tauto

/-! ## Functions -/

/-- No function has the word of a statement. -/
theorem any_statementWords_of_isFunctionWord {w : List Char} (h : isFunctionWord w = true) :
    (statementWords.any fun v => v.toList == w) = false := by
  have hapart : (functionWords.all fun w => !statementWords.contains w) = true := by decide +kernel
  obtain ⟨u, hu, heq⟩ := List.any_eq_true.1 h
  obtain rfl := beq_iff_eq.1 heq
  rw [List.any_eq_false]
  intro v hv heq
  have hnot := List.all_eq_true.1 hapart u hu
  rw [← String.toList_inj.1 (beq_iff_eq.1 heq)] at hnot
  simp [hv] at hnot

theorem wordShade?_eq_function_iff {w : List Char} :
    wordShade? w = some .function ↔ isFunctionWord (Text.upper w) = true := by
  constructor
  · intro h
    simp only [wordShade?] at h
    split at h
    · cases h
    · split at h
      · assumption
      · cases h
  · intro h
    simp only [wordShade?, any_statementWords_of_isFunctionWord h, h, if_true, Bool.false_eq_true, if_false]

/-- Letters and dollars that end with a letter and are the name of a function are letters only. -/
theorem isLatin_of_function {w : List Char} (h : isFunctionWord (Text.upper w) = true)
    (hw : ∀ c ∈ w, isWordPart c = true) (hlast : isWordAt w.getLast? = true) : ∀ c ∈ w, isLatin c = true := by
  intro c hc
  refine (Bool.or_eq_true_iff.1 (hw c hc)).resolve_right fun hdollar => ?_
  obtain rfl := beq_iff_eq.1 hdollar
  obtain ⟨u, v, rfl⟩ := List.append_of_mem hc
  cases v with
  | nil =>
    rw [List.getLast?_append, List.getLast?_singleton, Option.some_or] at hlast
    exact absurd hlast (by decide)
  | cons d v =>
    have hupper : Text.upper (u ++ '$' :: d :: v) = Text.upper u ++ '$' :: Text.upper (d :: v) := by
      rw [Text.upper_append, Text.upper_cons]
      rfl
    have hmem : '$' ∈ (Text.upper (u ++ '$' :: d :: v)).dropLast := by
      rw [hupper, List.dropLast_append_of_ne_nil (List.cons_ne_nil _ _),
        List.dropLast_cons_of_ne_nil (Text.upper_ne_nil (List.cons_ne_nil d v))]
      simp
    exact absurd ((functionShape h).letters _ hmem) (by decide)

theorem shade_of_mem_stringParts : ∀ {s : List Char} {skip column : Nat}, p ∈ stringParts skip column s → p.shade = .string
  | [], _, _, h => by simp [stringParts] at h
  | c :: s, skip + 1, column, h => by
    rw [stringParts] at h
    exact shade_of_mem_stringParts h
  | c :: s, 0, column, h => by
    simp only [stringParts] at h
    split at h
    · rcases List.mem_cons.1 h with rfl | h
      · rfl
      · exact shade_of_mem_stringParts h
    · exact shade_of_mem_stringParts h

theorem shade_of_mem_numberParts {except : Option Nat} : ∀ {s : List Char} {skip column : Nat} {before : Option Char},
    p ∈ numberParts except skip column before s → p.shade = .number
  | [], _, _, _, h => by simp [numberParts] at h
  | c :: s, skip + 1, column, before, h => by
    rw [numberParts] at h
    exact shade_of_mem_numberParts h
  | c :: s, 0, column, before, h => by
    simp only [numberParts] at h
    split at h
    · rcases List.mem_append.1 h with h | h
      · split at h
        · cases h
        · rw [List.mem_singleton.1 h]
      · exact shade_of_mem_numberParts h
    · exact shade_of_mem_numberParts h

/-- Only the search for words finds functions. -/
theorem mem_shadedParts_iff {line : List Char} (hp : p.shade = .function) :
    p ∈ shadedParts line ↔ p ∈ wordParts 0 0 none line := by
  have hnumber : p ∉ (lineNumberPart? line).toList := by
    intro h
    rw [Option.mem_toList, lineNumberPart?, Option.map_eq_some_iff] at h
    obtain ⟨span, -, rfl⟩ := h
    cases hp
  have hremark : p ∉ (remarkPart? line).toList := by
    intro h
    rw [Option.mem_toList, remarkPart?] at h
    obtain ⟨-, hsome⟩ := Option.ite_none_right_eq_some.1 h
    obtain rfl := Option.some.inj hsome
    cases hp
  have hstring : p ∉ stringParts 0 0 line := by
    intro h
    rw [shade_of_mem_stringParts h] at hp
    cases hp
  have hother : ∀ except, p ∉ numberParts except 0 0 none line := by
    intro except h
    rw [shade_of_mem_numberParts h] at hp
    cases hp
  simp only [shadedParts, List.mem_append, hnumber, hremark, hstring, hother, false_or, or_false]

/-- A text ends with a run of letters and dollars, which may be empty. -/
theorem exists_run (s : List Char) : ∃ front run, s = front ++ run ∧ (∀ c ∈ run, isWordPart c = true) ∧
    ∀ c ∈ front.getLast?, isWordPart c = false := by
  induction s using List.reverseRecOn with
  | nil => exact ⟨[], [], rfl, by simp, by simp⟩
  | append_singleton s c ih =>
    cases hc : isWordPart c with
    | false => exact ⟨s ++ [c], [], by simp, by simp, by simpa using hc⟩
    | true =>
      obtain ⟨front, run, rfl, hrun, hfront⟩ := ih
      refine ⟨front, run ++ [c], by simp, ?_, hfront⟩
      rw [List.forall_mem_append]
      exact ⟨hrun, by simpa using hc⟩

/-- What is found behind a text that ends outside of words does not depend on more than its last character. -/
theorem mem_wordParts_append {front : List Char} (hfront : ∀ c ∈ front.getLast?, isWordPart c = false)
    (hp : front.length ≤ p.first) (s : List Char) :
    p ∈ wordParts 0 0 none (front ++ s) ↔ p ∈ wordParts 0 front.length front.getLast? s := by
  rcases List.eq_nil_or_concat' front with rfl | ⟨init, c, rfl⟩
  · rfl
  · rw [List.getLast?_append, List.getLast?_singleton, Option.some_or] at hfront ⊢
    have hbefore : p ∉ wordParts 0 0 none (init ++ [c]) := by
      intro h
      have hlt := (first_of_mem_wordParts h).2
      omega
    rw [List.append_assoc, List.singleton_append, wordParts_append_cons (hfront c rfl) s init 0 0 none (Nat.zero_le _),
      List.mem_append, or_iff_right hbefore, List.length_append, List.length_singleton, Nat.zero_add]

/-- The run has dollars only, and no word character comes before it, if the last character that is no dollar is none. -/
theorem dollars_iff {front run : List Char} (hrun : ∀ c ∈ run, isWordPart c = true)
    (hfront : ∀ c ∈ front.getLast?, isWordPart c = false) :
    ((∀ c ∈ run, c = '$') ∧ isWordAt front.getLast? = false) ↔
      ∀ c ∈ ((front ++ run).filter (· != '$')).getLast?, isWord c = false := by
  rw [List.filter_append, List.getLast?_append]
  by_cases hdollars : ∀ c ∈ run, c = '$'
  · have hnil : run.filter (· != '$') = [] := by
      rw [List.filter_eq_nil_iff]
      intro c hc
      simp [hdollars c hc]
    have hkept : (front.filter (· != '$')).getLast? = front.getLast? := by
      rcases List.eq_nil_or_concat' front with rfl | ⟨init, c, rfl⟩
      · rfl
      · have hc : c ≠ '$' := by
          rintro rfl
          exact absurd (hfront '$' (by simp)) (by decide)
        simp [hc]
    rw [hnil, List.getLast?_nil, Option.none_or, hkept, ← isWordAt_eq_false_iff, and_iff_right hdollars]
  · refine iff_of_false (fun h => hdollars h.1) fun h => ?_
    have hne : run.filter (· != '$') ≠ [] := by
      rw [ne_eq, List.filter_eq_nil_iff]
      simpa using hdollars
    have hlast := List.getLast?_eq_some_getLast hne
    obtain ⟨hmem, hletter⟩ := List.mem_filter.1 (List.getLast_mem hne)
    rw [hlast, Option.some_or] at h
    have hword := h _ rfl
    rw [isWord_of_isWordPart (hrun _ hmem), hletter] at hword
    cases hword

/-- A function that is called is shown as one exactly if its name has letters only and the last character before it that
is no dollar is no word character. -/
theorem mem_shadedParts_called {before word : List Char} (h : isFunctionWord (Text.upper word) = true)
    (hstart : ∀ c ∈ before.getLast?, isWord c = false) (after : List Char) :
    ⟨.function, before.length, before.length + word.length⟩ ∈ shadedParts (before ++ word ++ '(' :: after) ↔
      (∀ c ∈ word, isLatin c = true) ∧ ∀ c ∈ (before.filter (· != '$')).getLast?, isWord c = false := by
  obtain ⟨front, run, rfl, hrun, hfront⟩ := exists_run before
  have hne : word ≠ [] := by
    rintro rfl
    exact (functionShape h).ne_nil rfl
  have hlast : isWordAt (run.getLast?.or front.getLast?) = false := by
    rw [← List.getLast?_append]
    exact isWordAt_eq_false_iff.2 hstart
  rw [mem_shadedParts_iff rfl, List.append_assoc, List.append_assoc,
    mem_wordParts_append hfront (by simp), ← List.append_assoc, ← dollars_iff hrun hfront, List.length_append]
  constructor
  · intro hmem
    have hletters : ∀ c ∈ word, isLatin c = true := by
      obtain ⟨u, w, v, heq, -, hcovers⟩ := of_mem_wordParts hmem
      have hfirst := hcovers.first
      have hend := hcovers.last
      dsimp only at hfirst hend
      rw [List.append_assoc] at heq
      obtain ⟨-, hbehind⟩ := List.append_inj heq (by omega)
      obtain ⟨rfl, rfl⟩ := List.append_inj hbehind (by omega)
      refine isLatin_of_function h hcovers.chars ?_
      have hboundary := isBoundary_eq_true_iff.1 hcovers.boundary
      have hparen : isWordAt (some '(') = false := by decide
      rw [List.head?_cons, hparen] at hboundary
      exact Bool.ne_false_iff.1 hboundary
    exact ⟨hletters, (mem_wordParts_iff hne hletters (wordShade?_eq_function_iff.2 h) after run _ _ hrun hlast).1 hmem⟩
  · rintro ⟨hletters, hdollars⟩
    exact (mem_wordParts_iff hne hletters (wordShade?_eq_function_iff.2 h) after run _ _ hrun hlast).2 hdollars

/-- In plain letters the name has letters only if it does not end with a dollar. -/
theorem forall_isLatin_iff {word : List Char} (h : isFunctionWord (Text.upper word) = true) (hascii : Text.IsAscii word) :
    (∀ c ∈ word, isLatin c = true) ↔ '$' ∉ Text.upper word := by
  rw [Text.upper_eq_map hascii] at h ⊢
  constructor
  · intro hletters hmem
    obtain ⟨c, hc, heq⟩ := List.mem_map.1 hmem
    have hupper : (Text.capital c).isUpper = true :=
      Text.forall_latin (p := fun c => (Text.capital c).isUpper = true) (by decide) (hletters c hc)
    rw [heq] at hupper
    exact absurd hupper (by decide)
  · intro hno c hc
    have hmem := List.mem_map_of_mem (f := Text.capital) hc
    have hupper := ((functionShape h).mem hmem).resolve_left fun heq => hno (heq ▸ hmem)
    exact Text.isLatin_of_isUpper_capital hupper

end

end MsxWorkbench.Program

namespace MsxWorkbench.Editor

open Program (ShadedPart shadedParts functionWords)

/-! ## The marks of the editor -/

theorem mem_highlightMarks {text : List Char} {m : TextMark} :
    m ∈ highlightMarks text ↔ ∃ i line p, (Text.rows text)[i]? = some line ∧ p ∈ shadedParts line ∧
      m = ⟨p.shade.name, ⟨i + 1, p.first⟩, ⟨i + 1, p.last⟩⟩ := by
  rw [highlightMarks, List.mem_flatMap]
  constructor
  · rintro ⟨⟨line, i⟩, hmem, hmark⟩
    obtain ⟨p, hp, rfl⟩ := List.mem_map.1 hmark
    exact ⟨i, line, p, List.mem_zipIdx_iff_getElem?.1 hmem, hp, rfl⟩
  · rintro ⟨i, line, p, hline, hp, rfl⟩
    exact ⟨(line, i), List.mem_zipIdx_iff_getElem?.2 hline, List.mem_map_of_mem hp⟩

/-- After highlighting the marks on functions are those of the parts that are functions. -/
theorem mem_marks_highlight {s : State} (hs : s.failing = []) {i first last : Nat} {line : List Char}
    (hline : (Text.rows s.buffer.text)[i]? = some line) :
    (highlight.runOn s).1 = .ok () ∧
      (⟨"function", ⟨i + 1, first⟩, ⟨i + 1, last⟩⟩ ∈ (highlight.runOn s).2.marks ↔
        (⟨.function, first, last⟩ : ShadedPart) ∈ shadedParts line) := by
  obtain ⟨_, t, hrun, -⟩ := draws_redrawGutter.works s hs
  have hbuffer : t.buffer = s.buffer := by
    have hcontent := draws_redrawGutter.content s
    rw [hrun] at hcontent
    exact congrArg Prod.fst hcontent
  rw [highlight, runOn_bind, hrun]
  refine ⟨rfl, ?_⟩
  change _ ∈ t.marks.filter (fun m => !shadeNames.contains m.name) ++ highlightMarks t.buffer.text ↔ _
  have hold : (⟨"function", ⟨i + 1, first⟩, ⟨i + 1, last⟩⟩ : TextMark) ∉
      t.marks.filter fun m => !shadeNames.contains m.name := by
    have hname : "function" ∈ shadeNames := by decide
    simp [hname]
  rw [List.mem_append, or_iff_right hold, hbuffer, mem_highlightMarks]
  constructor
  · rintro ⟨j, other, ⟨shade, f, l⟩, hother, hp, heq⟩
    simp only [TextMark.mk.injEq, Spot.mk.injEq, Nat.add_right_cancel_iff] at heq
    obtain ⟨hshade, ⟨rfl, rfl⟩, -, rfl⟩ := heq
    obtain rfl : line = other := Option.some.inj (hline.symm.trans hother)
    cases shade with
    | function => exact hp
    | _ => exact absurd hshade (by decide)
  · intro hp
    exact ⟨i, line, _, hline, hp, rfl⟩

/-- **Functions are marked where they are called, unless a dollar is in the way.** In every line of every text, let the
name of a function, in any letters, stand at the start or behind a character that is no word character, and let a
parenthesis follow it. Highlighting does not fail, and it sets a mark on exactly this name if and only if the name has
letters only and the last character before it that is no dollar is no word character either. In plain letters, the first
condition says that the function's name does not end with a dollar. -/
theorem highlight_function_iff {s : State} (hs : s.failing = []) {i : Nat} {function : String}
    (hfunction : function ∈ functionWords) {before word after : List Char}
    (hword : Text.upper word = function.toList) (hstart : ∀ c ∈ before.getLast?, Text.isWord c = false)
    (hline : (Text.rows s.buffer.text)[i]? = some (before ++ word ++ '(' :: after)) :
    let run := highlight.runOn s
    let mark : TextMark := ⟨"function", ⟨i + 1, before.length⟩, ⟨i + 1, before.length + word.length⟩⟩
    run.1 = .ok () ∧
      (mark ∈ run.2.marks ↔ (∀ c ∈ word, Text.isLatin c = true) ∧
        ∀ c ∈ (before.filter (· != '$')).getLast?, Text.isWord c = false) ∧
      (Text.IsAscii word → ((∀ c ∈ word, Text.isLatin c = true) ↔ '$' ∉ function.toList)) := by
  intro run mark
  have hname : Program.isFunctionWord (Text.upper word) = true := by
    rw [hword]
    exact List.any_eq_true.2 ⟨function, hfunction, beq_self_eq_true _⟩
  obtain ⟨hok, hmarks⟩ := mem_marks_highlight hs hline
  refine ⟨hok, hmarks.trans (Program.mem_shadedParts_called hname hstart after), fun hascii => ?_⟩
  rw [← hword]
  exact Program.forall_isLatin_iff hname hascii

/-- A function in mixed letters behind a dollar that belongs to no word. -/
theorem highlight_function_sine :
    let text := "10 CLS\n20 ?A+$sIn(2)".toList
    let before := "20 ?A+$".toList
    let word := "sIn".toList
    (editorOn text true).failing = [] ∧ "SIN" ∈ functionWords ∧ Text.upper word = "SIN".toList ∧
      before.getLast? = some '$' ∧ (Text.rows text)[1]? = some (before ++ word ++ "(2)".toList) ∧
      ⟨"function", ⟨2, 7⟩, ⟨2, 10⟩⟩ ∈ (highlight.runOn (editorOn text true)).2.marks := by
  intro text before word
  have hfunction : "SIN" ∈ functionWords := by decide
  have hline : (Text.rows text)[1]? = some (before ++ word ++ "(2)".toList) := by decide
  have hmark := (@highlight_function_iff (editorOn text true) rfl 1 "SIN" hfunction before word "2)".toList
    (by decide) (Program.isWordAt_eq_false_iff.1 (by decide)) hline).2.1
  refine ⟨rfl, hfunction, by decide, by decide, hline, hmark.2 ⟨?_, Program.isWordAt_eq_false_iff.1 (by decide)⟩⟩
  exact List.all_eq_true.1 (by decide : word.all Text.isLatin = true)

/-- The name of a function that ends with a dollar is not marked where it is called. -/
theorem highlight_left_unmarked :
    let text := "PRINT LEFT$(A$,1)".toList
    "LEFT$" ∈ functionWords ∧ (Text.rows text)[0]? = some ("PRINT ".toList ++ "LEFT$".toList ++ "(A$,1)".toList) ∧
      ⟨"function", ⟨1, 6⟩, ⟨1, 11⟩⟩ ∉ (highlight.runOn (editorOn text true)).2.marks := by
  intro text
  have hline : (Text.rows text)[0]? = some ("PRINT ".toList ++ "LEFT$".toList ++ "(A$,1)".toList) := by decide
  refine ⟨by decide, hline, fun hmark => ?_⟩
  have hpart := (mem_marks_highlight (s := editorOn text true) rfl hline).2.1 hmark
  have hletters := (@Program.mem_shadedParts_called "PRINT ".toList "LEFT$".toList (by decide)
    (Program.isWordAt_eq_false_iff.1 (by decide)) "A$,1)".toList).1 hpart
  exact absurd (hletters.1 '$' (by decide)) (by decide)

end MsxWorkbench.Editor
