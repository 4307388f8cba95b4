import MsxWorkbench.Text.Blank
import MsxWorkbench.Text.Digit
import MsxWorkbench.Text.Word
/-
# Classes of characters

Blanks, digits of any script and letters in any form exclude each other; digits and letters stand in
words and blanks do not. Every letter in some form has one capital (`capital`), so that a word matched
without regard to case is a prefix of the capitals of a text (`startsFolded_iff`).

The three classes are finite. A fact about all their members is checked code point by code point
(`forall_digit`, `forall_blank`, `forall_latin`).
-/
namespace MsxWorkbench.Text

/-! ## The members of a class -/

theorem eq_ofNat_of_toNat {c : Char} {n : Nat} (h : c.toNat = n) : c = Char.ofNat n := by
  rw [← h, Char.ofNat_toNat]

theorem digitIn_isSome : ∀ {zeros : List Nat} {n : Nat}, (digitIn zeros n).isSome →
    ∃ z ∈ zeros, ∃ k < 10, n = z + k
  | [], n, h => by simp [digitIn] at h
  | z :: zeros, n, h => by
    unfold digitIn at h
    split at h
    · simp at h
    · split at h
      · exact ⟨z, List.mem_cons_self, n - z, by omega, by omega⟩
      · obtain ⟨y, hy, k, hk, hn⟩ := digitIn_isSome h
        exact ⟨y, List.mem_cons_of_mem _ hy, k, hk, hn⟩

theorem forall_digit {p : Char → Prop} (h : ∀ z ∈ digitZeros, ∀ k < 10, p (Char.ofNat (z + k))) {c : Char}
    (hc : isDigit c) : p c := by
  obtain ⟨z, hz, k, hk, hn⟩ := digitIn_isSome hc
  rw [eq_ofNat_of_toNat hn]
  exact h z hz k hk

/-- The code points of blanks. -/
def blankCodes : List Nat :=
  [9, 10, 11, 12, 13, 0x1C, 0x1D, 0x1E, 0x1F, 0x20, 0x85, 0xA0, 0x1680, 0x2000, 0x2001, 0x2002, 0x2003,
    0x2004, 0x2005, 0x2006, 0x2007, 0x2008, 0x2009, 0x200A, 0x2028, 0x2029, 0x202F, 0x205F, 0x3000]

theorem forall_blank {p : Char → Prop} (h : ∀ n ∈ blankCodes, p (Char.ofNat n)) {c : Char}
    (hc : isBlank c) : p c := by
  have hmem : c.toNat ∈ blankCodes := by
    simp only [isBlank, Bool.or_eq_true, Bool.and_eq_true, decide_eq_true_eq, beq_iff_eq] at hc
    simp only [blankCodes, List.mem_cons, List.not_mem_nil, or_false]
    omega
  have := h _ hmem
  rwa [Char.ofNat_toNat] at this

theorem isUpper_iff {c : Char} : c.isUpper = true ↔ 65 ≤ c.toNat ∧ c.toNat ≤ 90 := decide_eq_true_iff

theorem isLower_iff {c : Char} : c.isLower = true ↔ 97 ≤ c.toNat ∧ c.toNat ≤ 122 := by
  have hlower : c.isLower = (decide (97 ≤ c.toNat) && decide (c.toNat ≤ 122)) := rfl
  rw [hlower, Bool.and_eq_true, decide_eq_true_eq, decide_eq_true_eq]

theorem isLatin_iff {c : Char} : isLatin c = true ↔ (65 ≤ c.toNat ∧ c.toNat ≤ 90) ∨ (97 ≤ c.toNat ∧ c.toNat ≤ 122) ∨
    c.toNat = 0x130 ∨ c.toNat = 0x131 ∨ c.toNat = 0x17F ∨ c.toNat = 0x212A := by
  have halpha : c.isAlpha = (c.isUpper || c.isLower) := rfl
  simp only [isLatin, halpha, Bool.or_eq_true, beq_iff_eq, isUpper_iff, isLower_iff, or_assoc]

/-- The code points of letters in some form. -/
def latinCodes : List Nat := List.range' 65 26 ++ List.range' 97 26 ++ [0x130, 0x131, 0x17F, 0x212A]

theorem forall_latin {p : Char → Prop} (h : ∀ n ∈ latinCodes, p (Char.ofNat n)) {c : Char}
    (hc : isLatin c) : p c := by
  have hmem : c.toNat ∈ latinCodes := by
    have hcodes := isLatin_iff.1 hc
    simp only [latinCodes, List.mem_append, List.mem_range'_1, List.mem_cons, List.not_mem_nil, or_false]
    omega
  have := h _ hmem
  rwa [Char.ofNat_toNat] at this

/-! ## How the classes lie -/

/-- Whether each set of ten digits, given by its zero, lies inside one of the ranges. Both lists are in
increasing order, so each is walked once. -/
def coversDigits : List (Nat × Nat) → List Nat → Bool
  | [], zeros => zeros.isEmpty
  | (lo, hi) :: ranges, zeros =>
    (zeros.takeWhile (· ≤ hi)).all (fun z => lo ≤ z && z + 9 ≤ hi) &&
      coversDigits ranges (zeros.dropWhile (· ≤ hi))

theorem inRanges_of_coversDigits : ∀ {ranges : List (Nat × Nat)} {zeros : List Nat},
    (∀ r ∈ ranges, r.1 ≤ r.2) → zeros.Pairwise (· < ·) → coversDigits ranges zeros = true →
    ∀ z ∈ zeros, ∀ k < 10, inRanges ranges (z + k) = true
  | [], zeros, _, _, h, z, hz, _, _ => by
    rw [List.isEmpty_iff.1 h] at hz
    simp at hz
  | (lo, hi) :: ranges, zeros, hr, hs, h, z, hz, k, hk => by
    simp only [coversDigits, Bool.and_eq_true, List.all_eq_true, decide_eq_true_eq] at h
    rw [← List.takeWhile_append_dropWhile (p := (· ≤ hi)) (l := zeros)] at hz hs
    rcases List.mem_append.1 hz with hz | hz
    · have := h.1 z hz
      simp only [inRanges]
      rw [if_neg (by omega), Bool.or_eq_true, decide_eq_true_eq]
      exact Or.inl (by omega)
    · have ih := inRanges_of_coversDigits (fun r hr' => hr r (List.mem_cons_of_mem _ hr'))
        (List.pairwise_append.1 hs).2.1 h.2 z hz k hk
      -- the zeros that are left lie above this range, because the first of them does
      have hz' : hi < z := by
        cases hd : zeros.dropWhile (· ≤ hi) with
        | nil => rw [hd] at hz; simp at hz
        | cons y ys =>
          have hy : hi < y := by
            have := List.head?_dropWhile_not (fun x => decide (x ≤ hi)) zeros
            simpa [hd] using this
          rw [hd] at hz hs
          rcases List.mem_cons.1 hz with rfl | hz
          · exact hy
          · have := (List.pairwise_cons.1 (List.pairwise_append.1 hs).2.1).1 z hz
            omega
      have hlo := hr (lo, hi) List.mem_cons_self
      simp only [inRanges]
      rw [if_neg (by simp only at hlo; omega), ih, Bool.or_true]

theorem isWord_of_isDigit {c : Char} (h : isDigit c) : isWord c = true := by
  obtain ⟨z, hz, k, hk, hn⟩ := digitIn_isSome h
  have hin : inRanges alnumRanges (z + k) = true :=
    inRanges_of_coversDigits (by decide +kernel) (by decide +kernel) (by decide +kernel) z hz k hk
  rw [isWord, isAlnum, hn, hin, Bool.true_or]

theorem digit_classes {c : Char} (h : isDigit c) : isBlank c = false ∧ isLatin c = false :=
  forall_digit (p := fun c => isBlank c = false ∧ isLatin c = false) (by decide +kernel) h

theorem isBlank_of_isDigit {c : Char} (h : isDigit c) : isBlank c = false := (digit_classes h).1

theorem isLatin_of_isDigit {c : Char} (h : isDigit c) : isLatin c = false := (digit_classes h).2

theorem blank_classes {c : Char} (h : isBlank c) : isWord c = false ∧ isLatin c = false :=
  forall_blank (p := fun c => isWord c = false ∧ isLatin c = false) (by decide +kernel) h

theorem isWord_of_isBlank {c : Char} (h : isBlank c) : isWord c = false := (blank_classes h).1

theorem isLatin_of_isBlank {c : Char} (h : isBlank c) : isLatin c = false := (blank_classes h).2

theorem isWord_of_isLatin {c : Char} (h : isLatin c) : isWord c = true :=
  forall_latin (p := fun c => isWord c = true) (by decide +kernel) h

/-! ## Capitals -/

/-- The capital that a letter in some form stands for; any other character stands for itself. -/
def capital (c : Char) : Char :=
  if 97 ≤ c.toNat ∧ c.toNat ≤ 122 then Char.ofNat (c.toNat - 32)
  else if c.toNat = 0x130 ∨ c.toNat = 0x131 then 'I'
  else if c.toNat = 0x17F then 'S'
  else if c.toNat = 0x212A then 'K'
  else c

theorem toNat_inj {c d : Char} : c.toNat = d.toNat ↔ c = d :=
  ⟨fun h => by rw [eq_ofNat_of_toNat h, Char.ofNat_toNat], fun h => by rw [h]⟩

theorem toNat_ofNat_of_lt {n : Nat} (h : n < 0xd800) : (Char.ofNat n).toNat = n := by
  have hv : n.isValidChar := Or.inl h
  rw [Char.ofNat, dif_pos hv]
  rfl

theorem sameLetter_iff {p c : Char} (hp : p.isUpper) : sameLetter p c = true ↔ capital c = p := by
  have hu := isUpper_iff.1 hp
  have hI : p = 'I' ↔ p.toNat = 73 := toNat_inj.symm
  have hS : p = 'S' ↔ p.toNat = 83 := toNat_inj.symm
  have hK : p = 'K' ↔ p.toNat = 75 := toNat_inj.symm
  have hc : c = p ↔ c.toNat = p.toNat := toNat_inj.symm
  simp only [sameLetter, hp, hI, hS, hK, hc, Bool.or_eq_true, Bool.and_eq_true, beq_iff_eq, and_true]
  unfold capital
  split
  · rw [← toNat_inj, toNat_ofNat_of_lt (by omega)]
    omega
  · split
    · rw [← toNat_inj, show 'I'.toNat = 73 from rfl]
      omega
    · split
      · rw [← toNat_inj, show 'S'.toNat = 83 from rfl]
        omega
      · split
        · rw [← toNat_inj, show 'K'.toNat = 75 from rfl]
          omega
        · rw [← toNat_inj]
          omega

theorem isLatin_of_isUpper_capital {c : Char} (h : (capital c).isUpper) : isLatin c = true := by
  have hs := (sameLetter_iff h).2 rfl
  have hu := isUpper_iff.1 h
  rw [isLatin_iff]
  have hc : c = capital c ↔ c.toNat = (capital c).toNat := toNat_inj.symm
  simp only [sameLetter, h, hc, Bool.or_eq_true, Bool.and_eq_true, beq_iff_eq, and_true] at hs
  omega

/-- A word in capitals is matched exactly where the capitals of the text start with it. -/
theorem startsFolded_iff : ∀ {word s : List Char}, (∀ p ∈ word, p.isUpper) →
    (startsFolded word s = true ↔ word <+: s.map capital)
  | [], s, _ => by simp [startsFolded]
  | p :: word, [], _ => by simp [startsFolded]
  | p :: word, c :: s, h => by
    have hp := h p List.mem_cons_self
    have hw : ∀ q ∈ word, q.isUpper := fun q hq => h q (List.mem_cons_of_mem _ hq)
    rw [startsFolded, Bool.and_eq_true, sameLetter_iff hp, startsFolded_iff hw, List.map_cons,
      List.cons_prefix_cons, eq_comm]

end MsxWorkbench.Text
