import Mathlib.Algebra.Group.Int.Defs
import Mathlib.Algebra.Group.Nat.Defs
import MsxWorkbench.Text.Integer
import MsxWorkbench.Text.Lines
import MsxWorkbench.Proofs.Text.Classes
/-
# Decimal numerals

The numeral of a number consists of ASCII digits, after a minus sign if it is negative. It is read back
as the number that was written (`readDigits_toString`).
-/
namespace MsxWorkbench.Text

/-! ## ASCII digits -/

theorem isDigit_iff_toNat {c : Char} : c.isDigit = true ↔ 48 ≤ c.toNat ∧ c.toNat ≤ 57 := by
  simp only [Char.isDigit, Bool.and_eq_true, decide_eq_true_eq, ge_iff_le, UInt32.le_iff_toNat_le]
  exact Iff.rfl

theorem digitValue?_of_ascii {c : Char} (h : c.isDigit = true) : digitValue? c = some (c.toNat - 48) := by
  rw [isDigit_iff_toNat] at h
  rw [digitValue?, digitZeros, digitIn, if_neg (by omega), if_pos (by omega)]

theorem isDigit_of_ascii {c : Char} (h : c.isDigit = true) : isDigit c = true := by
  rw [isDigit, digitValue?_of_ascii h, Option.isSome_some]

theorem digitsValue_eq {s : List Char} (h : ∀ c ∈ s, c.isDigit = true) :
    digitsValue s = Nat.ofDigitChars 10 s 0 := by
  have hfrom : ∀ n, s.foldl (fun n c => 10 * n + (digitValue? c).getD 0) n = Nat.ofDigitChars 10 s n := by
    induction s with
    | nil => exact fun n => rfl
    | cons c s ih =>
      intro n
      rw [List.foldl_cons, digitValue?_of_ascii (h c List.mem_cons_self),
        ih fun d hd => h d (List.mem_cons_of_mem _ hd)]
      rfl
  exact hfrom 0

/-! ## Written numbers -/

theorem toList_toString {n : Int} (h : 0 ≤ n) : (toString n).toList = Nat.toDigits 10 n.toNat := by
  rw [Int.toString_eq_repr, Int.repr_eq_if, if_pos h, Nat.toList_repr]

theorem toString_ne_nil {n : Int} (h : 0 ≤ n) : (toString n).toList ≠ [] := by
  rw [toList_toString h]
  exact Nat.toDigits_ne_nil

theorem isDigit_of_mem_toString {n : Int} (h : 0 ≤ n) {c : Char} (hc : c ∈ (toString n).toList) :
    c.isDigit = true := by
  rw [toList_toString h] at hc
  exact Nat.isDigit_of_mem_toDigits (by decide) (by decide) hc

theorem mem_toString {n : Int} {c : Char} (hc : c ∈ (toString n).toList) : c.isDigit = true ∨ c = '-' := by
  by_cases h : 0 ≤ n
  · exact Or.inl (isDigit_of_mem_toString h hc)
  · rw [Int.toString_eq_repr, Int.repr_eq_if, if_neg h, String.toList_append, Nat.toList_repr] at hc
    rcases List.mem_append.1 hc with hc | hc
    · exact Or.inr (by simpa using hc)
    · exact Or.inl (Nat.isDigit_of_mem_toDigits (by decide) (by decide) hc)

theorem isLatin_of_mem_toString {n : Int} {c : Char} (hc : c ∈ (toString n).toList) : isLatin c = false := by
  rcases mem_toString hc with hc | rfl
  · exact isLatin_of_isDigit (isDigit_of_ascii hc)
  · decide

theorem writeInteger_eq {n : Int} (h : n.natAbs < 10 ^ mostDigits) :
    writeInteger n = .ok (toString n).toList := by
  rw [writeInteger, Nat.pow_eq, if_neg (Nat.not_le_of_lt h)]

theorem of_writeInteger_eq_ok {n : Int} {t : List Char} (h : writeInteger n = .ok t) :
    n.natAbs < 10 ^ mostDigits ∧ t = (toString n).toList := by
  rw [writeInteger, Nat.pow_eq] at h
  -- the bound is not to be computed
  generalize 10 ^ mostDigits = bound at h ⊢
  split at h
  · cases h
  · rename_i hlt
    exact ⟨Nat.lt_of_not_le hlt, (Except.ok.inj h).symm⟩

theorem digitsValue_toString {n : Int} (h : 0 ≤ n) : digitsValue (toString n).toList = n.toNat := by
  rw [digitsValue_eq fun c hc => isDigit_of_mem_toString h hc, toList_toString h, Nat.ofDigitChars_ten_toDigits]

theorem length_toString_le {n : Int} (h0 : 0 ≤ n) (h : n.natAbs < 10 ^ mostDigits) :
    (toString n).toList.length ≤ mostDigits := by
  rw [toList_toString h0, Nat.length_toDigits_le_iff (by decide) (by decide)]
  omega

/-- A number that can be written is read back. -/
theorem readDigits_toString {n : Int} (h0 : 0 ≤ n) (h : n.natAbs < 10 ^ mostDigits) :
    readDigits (toString n).toList = .ok n.toNat := by
  rw [readDigits, if_neg (Nat.not_lt_of_le (length_toString_le h0 h)), digitsValue_toString h0]

/-- Numbers of 64 bits can be written. -/
theorem natAbs_lt_of_le {n : Int} (h : n.natAbs ≤ 2 ^ 63) : n.natAbs < 10 ^ mostDigits := by
  have hle : (10 : Nat) ^ 19 ≤ 10 ^ mostDigits := Nat.pow_le_pow_right (by decide) (by decide)
  omega

theorem natAbs_lt_of_lt {n : Int} (h0 : 0 ≤ n) (h : n < 2 ^ 63) : n.natAbs < 10 ^ mostDigits :=
  natAbs_lt_of_le (by omega)

/-! ## Line breaks -/

theorem isBlank_of_isLineBreak {c : Char} (h : isLineBreak c = true) : isBlank c = true := by
  simp only [isLineBreak, isBlank, Bool.or_eq_true, Bool.and_eq_true, decide_eq_true_eq, beq_iff_eq] at h ⊢
  omega

theorem isLineBreak_of_isDigit {c : Char} (h : isDigit c = true) : isLineBreak c = false := by
  cases hb : isLineBreak c with
  | false => rfl
  | true =>
    have := isBlank_of_isLineBreak hb
    rw [isBlank_of_isDigit h] at this
    cases this

theorem isLineBreak_of_mem_toString {n : Int} {c : Char} (hc : c ∈ (toString n).toList) :
    isLineBreak c = false := by
  rcases mem_toString hc with hc | rfl
  · exact isLineBreak_of_isDigit (isDigit_of_ascii hc)
  · decide

end MsxWorkbench.Text
