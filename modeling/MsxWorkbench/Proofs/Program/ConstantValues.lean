import Mathlib.Algebra.Order.Field.Power
import Mathlib.Data.List.DropRight
import Mathlib.Data.Nat.Bitwise
import Mathlib.Data.Nat.Digits.Lemmas
import Mathlib.Data.Rat.Cast.Order
import Mathlib.Tactic.Linarith
import Mathlib.Tactic.NormNum
import Mathlib.Tactic.Positivity
import Mathlib.Tactic.Ring
import MsxWorkbench.Proofs.Program.ItemForms
/-
# The values of constants

A decimal numeral is read as a rational number (`numeralValue?`). The text of a constant with decimal digits, of which the
first is not zero, is read as the number that the constant stands for (`Constant.numeralValue?_render`). No two of these
constants stand for the same number (`Constant.eq_of_value_eq`), so no two are written alike.

Whatever the digits are, moving their point and trimming zeros keeps their value, except that zeros with the point in
front of them are trimmed to nothing (`mantissa?_shifted_iff`).
-/
namespace MsxWorkbench.Program

open Text (dropRightWhile)

/-! ## Reading numerals -/

/-- The number that digits stand for. There is at least one, and nothing else. -/
def wholeNumber? (s : List Char) : Option Nat :=
  if s ≠ [] ∧ s.all Char.isDigit = true then some (Nat.ofDigitChars 10 s 0) else none

/-- Digits with at most one point among them. -/
def mantissa? (s : List Char) : Option ℚ :=
  let whole := s.takeWhile (· != '.')
  let fraction := (s.dropWhile (· != '.')).drop 1
  (wholeNumber? (whole ++ fraction)).map fun m : Nat => (m : ℚ) / 10 ^ fraction.length

/-- The exponent with the letter in front of it, or nothing. It may have a sign. -/
def exponent? : List Char → Option ℤ
  | [] => some 0
  | _ :: '-' :: s => (wholeNumber? s).map fun n : Nat => -(n : ℤ)
  | _ :: '+' :: s => (wholeNumber? s).map fun n : Nat => (n : ℤ)
  | _ :: s => (wholeNumber? s).map fun n : Nat => (n : ℤ)

/-- A mantissa, and behind a letter E the exponent. -/
def unsigned? (s : List Char) : Option ℚ :=
  (mantissa? (s.takeWhile (· != 'E'))).bind fun m =>
    (exponent? (s.dropWhile (· != 'E'))).map fun e => m * 10 ^ e

/-- A numeral with a minus sign or without one. -/
def signed? (s : List Char) : Option ℚ :=
  if s.head? = some '-' then (unsigned? s.tail).map fun q => -q else unsigned? s

/-- The value of a decimal numeral. It may start with a minus sign, have a point among its digits and an exponent behind
them, and end with an exclamation mark. -/
def numeralValue? (s : List Char) : Option ℚ := signed? (if s.getLast? = some '!' then s.dropLast else s)

/-- The text without an exclamation mark at its end. -/
def unmarked (s : List Char) : List Char := if s.getLast? = some '!' then s.dropLast else s

/-! ## Digits -/

/-- All characters are decimal digits. -/
def AllDigits (s : List Char) : Prop := ∀ c ∈ s, c.isDigit = true

section
variable {s t whole fraction : List Char}

theorem AllDigits.append (hs : AllDigits s) (ht : AllDigits t) : AllDigits (s ++ t) :=
  fun c hc => (List.mem_append.1 hc).elim (hs c) (ht c)

theorem AllDigits.take (hs : AllDigits s) (n : Nat) : AllDigits (s.take n) := fun c hc => hs c (List.mem_of_mem_take hc)

theorem AllDigits.drop (hs : AllDigits s) (n : Nat) : AllDigits (s.drop n) := fun c hc => hs c (List.mem_of_mem_drop hc)

theorem allDigits_replicate (n : Nat) : AllDigits (List.replicate n '0') := by
  intro c hc
  rw [List.eq_of_mem_replicate hc]
  rfl

theorem AllDigits.notMem (hs : AllDigits s) {c : Char} (hc : c.isDigit = false) : c ∉ s := by
  intro hmem
  rw [hs c hmem] at hc
  cases hc

theorem wholeNumber?_eq (hs : AllDigits s) (hne : s ≠ []) : wholeNumber? s = some (Nat.ofDigitChars 10 s 0) :=
  if_pos ⟨hne, List.all_eq_true.2 hs⟩

theorem ofDigitChars_replicate (n init : Nat) : Nat.ofDigitChars 10 (List.replicate n '0') init = init * 10 ^ n := by
  induction n generalizing init with
  | zero => rw [List.replicate_zero, Nat.ofDigitChars_nil, pow_zero, mul_one]
  | succ n ih =>
    rw [List.replicate_succ, Nat.ofDigitChars_cons, ih, Nat.sub_self, Nat.add_zero, pow_succ]
    ring

theorem bne_of_notMem {c : Char} (hs : c ∉ s) : ∀ d ∈ s, (d != c) = true :=
  fun _ hd => bne_iff_ne.2 (ne_of_mem_of_not_mem hd hs)

theorem takeWhile_bne_append {c : Char} (hs : c ∉ s) (t : List Char) : (s ++ c :: t).takeWhile (· != c) = s := by
  rw [List.takeWhile_append_of_pos (bne_of_notMem hs), List.takeWhile_cons_of_neg (by simp), List.append_nil]

theorem dropWhile_bne_append {c : Char} (hs : c ∉ s) (t : List Char) : (s ++ c :: t).dropWhile (· != c) = c :: t := by
  rw [List.dropWhile_append_of_pos (bne_of_notMem hs), List.dropWhile_cons_of_neg (by simp)]

theorem takeWhile_bne_self {c : Char} (hs : c ∉ s) : s.takeWhile (· != c) = s :=
  List.takeWhile_eq_self_iff.2 (bne_of_notMem hs)

theorem dropWhile_bne_self {c : Char} (hs : c ∉ s) : s.dropWhile (· != c) = [] :=
  List.dropWhile_eq_nil_iff.2 (bne_of_notMem hs)

/-- The value of digits with a point among them. -/
def pointedValue (whole fraction : List Char) : ℚ := Nat.ofDigitChars 10 (whole ++ fraction) 0 / 10 ^ fraction.length

theorem pointedValue_append_zeros (whole fraction : List Char) (n : Nat) :
    pointedValue whole (fraction ++ List.replicate n '0') = pointedValue whole fraction := by
  rw [pointedValue, pointedValue, ← List.append_assoc, Nat.ofDigitChars_append, ofDigitChars_replicate,
    List.length_append, List.length_replicate, pow_add, Nat.cast_mul, Nat.cast_pow, Nat.cast_ofNat]
  exact mul_div_mul_right _ _ (pow_ne_zero n (by norm_num))

theorem mantissa?_pointed (hwhole : AllDigits whole) (hfraction : AllDigits fraction) (hne : whole ++ fraction ≠ []) :
    mantissa? (whole ++ '.' :: fraction) = some (pointedValue whole fraction) := by
  have hpoint := hwhole.notMem (c := '.') rfl
  rw [mantissa?, takeWhile_bne_append hpoint, dropWhile_bne_append hpoint, List.drop_one, List.tail_cons,
    wholeNumber?_eq (hwhole.append hfraction) hne]
  rfl

theorem mantissa?_whole (hwhole : AllDigits whole) (hne : whole ≠ []) :
    mantissa? whole = some (pointedValue whole []) := by
  have hpoint := hwhole.notMem (c := '.') rfl
  rw [mantissa?, takeWhile_bne_self hpoint, dropWhile_bne_self hpoint, List.drop_nil, List.append_nil,
    wholeNumber?_eq hwhole hne, pointedValue, List.append_nil]
  rfl

theorem insertPoint_natCast {n : Nat} (hn : n ≤ s.length) : insertPoint s n = s.take n ++ '.' :: s.drop n := by
  rw [insertPoint, placeOf, if_neg (by omega), Int.toNat_natCast, min_eq_left hn]

theorem shiftPointRight_of_lt {n : Nat} (hn : n < s.length) : shiftPointRight s n = s.take n ++ '.' :: s.drop n := by
  rw [shiftPointRight, if_neg (by omega), insertPoint_natCast hn.le]

theorem shiftPointRight_of_le {n : Nat} (hn : s.length ≤ n) :
    shiftPointRight s n = s ++ List.replicate (n - s.length) '0' ++ ['!'] := by
  rw [shiftPointRight, if_pos (by omega), Int.toNat_sub]

/-! ## Without zeros at the end -/

theorem dropRightWhile_concat {α : Type} {p : α → Bool} {x : α} (hx : p x = false) (l : List α) :
    dropRightWhile p (l ++ [x]) = l ++ [x] :=
  List.rdropWhile_concat_neg p l x (by simp [hx])

theorem dropRightWhile_zeros (s : List Char) (n : Nat) :
    dropRightWhile (· == '0') (s ++ List.replicate n '0') = dropRightWhile (· == '0') s := by
  induction n with
  | zero => rw [List.replicate_zero, List.append_nil]
  | succ n ih =>
    rw [List.replicate_succ', ← List.append_assoc]
    exact (List.rdropWhile_concat_pos _ _ _ rfl).trans ih

/-- Digits are some that do not end with zero, and zeros. -/
theorem exists_append_zeros (s : List Char) :
    ∃ front n, s = front ++ List.replicate n '0' ∧ (front = [] ∨ ∃ more c, front = more ++ [c] ∧ c ≠ '0') := by
  induction s using List.reverseRecOn with
  | nil => exact ⟨[], 0, rfl, .inl rfl⟩
  | append_singleton s c ih =>
    by_cases hc : c = '0'
    · obtain ⟨front, n, rfl, hfront⟩ := ih
      refine ⟨front, n + 1, ?_, hfront⟩
      rw [hc, List.append_assoc, List.replicate_succ']
    · exact ⟨s ++ [c], 0, by simp, .inr ⟨s, c, rfl, hc⟩⟩

/-- Trimming takes the zeros at the end of a fraction, and the point if nothing else is behind it. -/
theorem trimZeros_pointed (hwhole : AllDigits whole) (hfraction : AllDigits fraction) :
    ∃ front n, fraction = front ++ List.replicate n '0' ∧
      trimZeros (whole ++ '.' :: fraction) = if front = [] then whole else whole ++ '.' :: front := by
  obtain ⟨front, n, rfl, hend⟩ := exists_append_zeros fraction
  refine ⟨front, n, rfl, ?_⟩
  rw [trimZeros, ← List.cons_append, ← List.append_assoc, dropRightWhile_zeros]
  rcases hend with rfl | ⟨more, c, rfl, hc⟩
  · -- Nothing is left behind the point, which goes too. The digits in front of it stay, zeros or not.
    rw [dropRightWhile_concat (by decide), if_pos rfl]
    refine (List.rdropWhile_concat_pos _ _ _ rfl).trans ?_
    rw [List.rdropWhile_eq_self_iff]
    intro hne
    have hpoint := hwhole.notMem (c := '.') rfl
    simpa using ne_of_mem_of_not_mem (List.getLast_mem hne) hpoint
  · have hpoint : c ≠ '.' := by
      rintro rfl
      exact absurd (hfraction '.' (by simp)) (by decide)
    rw [if_neg (by simp), ← List.cons_append, ← List.append_assoc, dropRightWhile_concat (by simpa using hc),
      dropRightWhile_concat (by simpa using hpoint)]

theorem mem_trimZeros {c : Char} (hc : c ∈ trimZeros s) : c ∈ s :=
  mem_of_mem_dropRightWhile (mem_of_mem_dropRightWhile hc)

theorem trimZeros_marked (s : List Char) : trimZeros (s ++ ['!']) = s ++ ['!'] := by
  rw [trimZeros, dropRightWhile_concat (by decide), dropRightWhile_concat (by decide)]

theorem notMem_trimZeros (hwhole : AllDigits whole) (hfraction : AllDigits fraction) {c : Char}
    (hdigit : c.isDigit = false) (hpoint : c ≠ '.') : c ∉ trimZeros (whole ++ '.' :: fraction) := by
  intro hc
  rcases List.mem_append.1 (mem_trimZeros hc) with hmem | hmem
  · exact hwhole.notMem hdigit hmem
  · exact hfraction.notMem hdigit ((List.mem_cons.1 hmem).resolve_left hpoint)

theorem mantissa?_trimZeros (hwhole : AllDigits whole) (hfraction : AllDigits fraction)
    (hne : whole ≠ [] ∨ ∃ c ∈ fraction, c ≠ '0') :
    mantissa? (trimZeros (whole ++ '.' :: fraction)) = some (pointedValue whole fraction) := by
  obtain ⟨front, n, rfl, htrim⟩ := trimZeros_pointed hwhole hfraction
  have hfront : AllDigits front := fun c hc => hfraction c (List.mem_append_left _ hc)
  rw [htrim, pointedValue_append_zeros]
  split
  · rename_i hnil
    subst hnil
    -- A fraction of zeros only leaves the whole part to be read, which has a digit then.
    refine mantissa?_whole hwhole (hne.resolve_right ?_)
    rintro ⟨c, hc, hzero⟩
    exact hzero (List.eq_of_mem_replicate (by simpa using hc))
  · rename_i hsome
    exact mantissa?_pointed hwhole hfront (by simp [hsome])

/-! ## Moving the point -/

theorem unmarked_concat (s : List Char) : unmarked (s ++ ['!']) = s := by
  rw [unmarked, if_pos List.getLast?_concat, List.dropLast_concat]

theorem unmarked_of_notMem (hs : '!' ∉ s) : unmarked s = s := if_neg fun hlast => hs (List.mem_of_getLast? hlast)

/-- The text of digits after their point was moved, without zeros at the end and without a mark. -/
def shifted (s : List Char) (n : Nat) : List Char := unmarked (trimZeros (shiftPointRight s n))

theorem shifted_of_lt {n : Nat} (hs : AllDigits s) (hn : n < s.length) :
    shifted s n = trimZeros (s.take n ++ '.' :: s.drop n) := by
  rw [shifted, shiftPointRight_of_lt hn, unmarked_of_notMem]
  exact notMem_trimZeros (hs.take n) (hs.drop n) rfl (by decide)

theorem shifted_of_le {n : Nat} (hn : s.length ≤ n) : shifted s n = s ++ List.replicate (n - s.length) '0' := by
  rw [shifted, shiftPointRight_of_le hn, trimZeros_marked, unmarked_concat]

theorem mem_shifted (hs : AllDigits s) {n : Nat} {c : Char} (hc : c ∈ shifted s n) : c.isDigit = true ∨ c = '.' := by
  rcases Nat.lt_or_ge n s.length with hn | hn
  · rw [shifted_of_lt hs hn] at hc
    by_contra! hother
    exact notMem_trimZeros (hs.take n) (hs.drop n) (Bool.eq_false_iff.2 hother.1) hother.2 hc
  · rw [shifted_of_le hn] at hc
    exact .inl (hs.append (allDigits_replicate _) c hc)

/-- If a digit is left, the digits are read as their number times the power of ten that the point has moved by. -/
theorem mantissa?_shifted (hs : AllDigits s) (hne : s ≠ []) {n : Nat} (hleft : n ≠ 0 ∨ ∃ c ∈ s, c ≠ '0') :
    mantissa? (shifted s n) = some (Nat.ofDigitChars 10 s 0 * (10 : ℚ) ^ ((n : ℤ) - s.length)) := by
  have hten : (10 : ℚ) ≠ 0 := by norm_num
  rcases Nat.lt_or_ge n s.length with hn | hn
  · have hdigit : s.take n ≠ [] ∨ ∃ c ∈ s.drop n, c ≠ '0' := by
      rcases Nat.eq_zero_or_pos n with rfl | hpos
      · exact .inr (hleft.resolve_left (by simp))
      · exact .inl (List.ne_nil_of_length_pos (by rw [List.length_take]; omega))
    have hpower : (n : ℤ) - s.length = -((s.length - n : ℕ) : ℤ) := by omega
    rw [shifted_of_lt hs hn, mantissa?_trimZeros (hs.take n) (hs.drop n) hdigit, pointedValue, List.take_append_drop,
      List.length_drop, hpower, zpow_neg, zpow_natCast, div_eq_mul_inv]
  · have hpower : (n : ℤ) - s.length = ((n - s.length : ℕ) : ℤ) := by omega
    rw [shifted_of_le hn, mantissa?_whole (hs.append (allDigits_replicate _)) (by simp [hne]), pointedValue,
      List.append_nil, Nat.ofDigitChars_append, ofDigitChars_replicate, hpower, zpow_natCast]
    simp

/-- Zeros with the point moved nowhere leave nothing. -/
theorem trimZeros_shiftPointRight_zeros (hne : s ≠ []) (hs : ∀ c ∈ s, c = '0') : trimZeros (shiftPointRight s 0) = [] := by
  obtain ⟨n, rfl⟩ : ∃ n, s = List.replicate n '0' := ⟨s.length, List.eq_replicate_iff.2 ⟨rfl, hs⟩⟩
  have hshift := shiftPointRight_of_lt (n := 0) (List.length_pos_iff.2 hne)
  rw [Nat.cast_zero] at hshift
  rw [hshift, List.take_zero, List.drop_zero, trimZeros, List.nil_append, ← List.singleton_append, dropRightWhile_zeros]
  decide

end

/-! ## Exponents, signs and marks -/

theorem allDigits_toDigits (n : Nat) : AllDigits (Nat.toDigits 10 n) :=
  fun _ hc => Nat.isDigit_of_mem_toDigits (by decide) (by decide) hc

theorem allDigits_twoDigits (n : Nat) : AllDigits (twoDigits n) := by
  rw [twoDigits]
  split
  · exact AllDigits.append (allDigits_replicate 1) (allDigits_toDigits n)
  · exact allDigits_toDigits n

theorem wholeNumber?_twoDigits (n : Nat) : wholeNumber? (twoDigits n) = some n := by
  rw [wholeNumber?_eq (allDigits_twoDigits n)]
  · rw [twoDigits]
    split
    · rw [Nat.ofDigitChars_cons, Nat.sub_self, Nat.mul_zero, Nat.add_zero, Nat.ofDigitChars_ten_toDigits]
    · rw [Nat.ofDigitChars_ten_toDigits]
  · rw [twoDigits]
    split
    · exact List.cons_ne_nil _ _
    · exact Nat.toDigits_ne_nil

theorem exponent?_minus (c : Char) (n : Nat) : exponent? (c :: '-' :: twoDigits n) = some (-(n : ℤ)) := by
  rw [exponent?, wholeNumber?_twoDigits, Option.map_some]

theorem exponent?_plus (c : Char) (n : Nat) : exponent? (c :: '+' :: twoDigits n) = some (n : ℤ) := by
  rw [exponent?, wholeNumber?_twoDigits, Option.map_some]

theorem unsigned?_of_mantissa {s : List Char} (hs : 'E' ∉ s) : unsigned? s = mantissa? s := by
  rw [unsigned?, takeWhile_bne_self hs, dropWhile_bne_self hs]
  cases mantissa? s with
  | none => rfl
  | some m => exact congrArg some (mul_one m)

theorem unsigned?_exponent {s t : List Char} {m : ℚ} {e : ℤ} (hs : 'E' ∉ s) (hm : mantissa? s = some m)
    (he : exponent? ('E' :: t) = some e) : unsigned? (s ++ 'E' :: t) = some (m * 10 ^ e) := by
  rw [unsigned?, takeWhile_bne_append hs, dropWhile_bne_append hs, hm, he]
  rfl

/-- The minus sign of a number that is below zero. -/
theorem signed?_append {s : List Char} {q : ℚ} (hs : '-' ∉ s.head?) (hq : unsigned? s = some q) (negative : Bool) :
    signed? ((if negative then ['-'] else []) ++ s) = some ((-1) ^ negative.toNat * q) := by
  cases negative with
  | false =>
    rw [signed?, if_neg (by simpa using hs)]
    simp [hq]
  | true => simp [signed?, hq]

theorem numeralValue?_eq (s : List Char) : numeralValue? s = signed? (unmarked s) := rfl

theorem unmarked_append {s : List Char} (hs : '!' ∉ s) (t : List Char) : unmarked (s ++ t) = s ++ unmarked t := by
  rcases List.eq_nil_or_concat' t with rfl | ⟨init, c, rfl⟩
  · rw [List.append_nil, unmarked_of_notMem hs]
    exact (List.append_nil s).symm
  · by_cases hc : c = '!'
    · rw [hc, ← List.append_assoc, unmarked_concat, unmarked_concat]
    · rw [unmarked, unmarked, if_neg (by simp [hc]), if_neg (by simp [hc])]

namespace Constant

/-! ## Constants that are not zero -/

/-- The six digits as they are packed, two to a byte. -/
def packed (k : Constant) : List Nat := [k.high, k.mid, k.low].flatMap fun b => [b.toNat / 16, b.toNat % 16]

/-- The exponent bits are not all zero, the digits are decimal and the first is not zero. -/
structure Normal (k : Constant) : Prop where
  exponent : k.head &&& 0x7F ≠ 0
  decimal : ∀ d ∈ k.packed, d < 10
  first : 0 < k.high.toNat / 16

/-- The digits as a whole number. -/
def significand (k : Constant) : Nat := Nat.ofDigits 10 k.packed.reverse

/-- The number that a constant stands for: a sign, the digits behind a point, and a power of ten. -/
def value (k : Constant) : ℚ :=
  (-1) ^ (k.head.toNat.testBit 7).toNat * ((k.significand : ℚ) / 10 ^ 6) * 10 ^ (((k.head &&& 0x7F).toNat : ℤ) - 64)

section
variable {k l : Constant}

theorem negative_eq (k : Constant) : k.negative = k.head.toNat.testBit 7 := by
  have htop : (k.head &&& 0x80).toNat = (k.head.toNat.testBit 7).toNat * 2 ^ 7 := by
    rw [UInt8.toNat_and]
    exact Nat.and_two_pow _ 7
  rw [negative, Bool.eq_iff_iff, bne_iff_ne, Ne, ← UInt8.toNat_inj, htop]
  cases k.head.toNat.testBit 7 <;> decide

theorem toNat_lowBits (b : UInt8) : (b &&& 0x7F).toNat = b.toNat % 128 := by
  rw [UInt8.toNat_and]
  exact Nat.and_two_pow_sub_one_eq_mod _ 7

theorem upperDigits_of_lt {d : Nat} (hd : d < 10) : upperDigits 16 d = [Nat.digitChar d] := by
  have hupper : ∀ d < 10, (Nat.digitChar d).toUpper = Nat.digitChar d := by decide
  rw [upperDigits, Nat.toDigits_of_lt_base (by omega), List.map_singleton, hupper d hd]

theorem digits_eq (h : k.Normal) : k.digits = k.packed.map Nat.digitChar := by
  have hd := h.decimal
  simp only [packed, List.flatMap_cons, List.flatMap_nil, List.append_nil, List.cons_append, List.nil_append,
    List.forall_mem_cons] at hd
  obtain ⟨h1, h2, h3, h4, h5, h6, -⟩ := hd
  rw [digits, hexByte, hexByte, hexByte, upperDigits_of_lt h1, upperDigits_of_lt h2, upperDigits_of_lt h3,
    upperDigits_of_lt h4, upperDigits_of_lt h5, upperDigits_of_lt h6]
  rfl

theorem isDigit_digitChar {d : Nat} (hd : d < 10) : (Nat.digitChar d).isDigit = true := by
  revert d
  decide

theorem allDigits_digits (h : k.Normal) : AllDigits k.digits := by
  intro c hc
  rw [digits_eq h] at hc
  obtain ⟨d, hd, rfl⟩ := List.mem_map.1 hc
  exact isDigit_digitChar (h.decimal d hd)

theorem length_digits (h : k.Normal) : k.digits.length = 6 := by
  rw [digits_eq h]
  rfl

theorem exists_digit_ne_zero (h : k.Normal) : ∃ c ∈ k.digits, c ≠ '0' := by
  have hmem : k.high.toNat / 16 ∈ k.packed := List.mem_cons_self
  have hne : ∀ d < 10, 0 < d → Nat.digitChar d ≠ '0' := by decide
  rw [digits_eq h]
  exact ⟨_, List.mem_map_of_mem hmem, hne _ (h.decimal _ hmem) h.first⟩

theorem ofDigitChars_map {ds : List Nat} (hds : ∀ d ∈ ds, d < 10) (init : Nat) :
    Nat.ofDigitChars 10 (ds.map Nat.digitChar) init = init * 10 ^ ds.length + Nat.ofDigits 10 ds.reverse := by
  have hchar : ∀ d < 10, (Nat.digitChar d).toNat - '0'.toNat = d := by decide
  induction ds generalizing init with
  | nil => simp
  | cons d ds ih =>
    rw [List.map_cons, Nat.ofDigitChars_cons, hchar d (hds d List.mem_cons_self),
      ih fun e he => hds e (List.mem_cons_of_mem d he), List.reverse_cons, Nat.ofDigits_append, Nat.ofDigits_singleton,
      List.length_reverse, List.length_cons, pow_succ]
    ring

theorem ofDigitChars_digits (h : k.Normal) : Nat.ofDigitChars 10 k.digits 0 = k.significand := by
  rw [digits_eq h, ofDigitChars_map h.decimal, Nat.zero_mul, Nat.zero_add, significand]

/-! ## The text of a constant -/

/-- The value without its sign. -/
def magnitude (k : Constant) : ℚ := (k.significand : ℚ) / 10 ^ 6 * 10 ^ k.exponent

theorem value_eq (k : Constant) : k.value = (-1) ^ k.negative.toNat * k.magnitude := by
  rw [negative_eq]
  exact mul_assoc _ _ _

/-- The same number with the point at another place and the exponent changed by as much. -/
theorem eq_magnitude {n : Nat} {e : Int} (he : e - n = k.exponent - 6) :
    (k.significand : ℚ) / 10 ^ n * 10 ^ e = k.magnitude := by
  have hten : (10 : ℚ) ≠ 0 := by norm_num
  calc (k.significand : ℚ) / 10 ^ n * 10 ^ e = k.significand * 10 ^ (e - n) := by
        rw [zpow_sub₀ hten, zpow_natCast]
        ring
    _ = k.magnitude := by
        rw [he, zpow_sub₀ hten, magnitude]
        ring

theorem numeralValue?_signed {s : List Char} (hminus : '-' ∉ (unmarked s).head?)
    (hs : unsigned? (unmarked s) = some k.magnitude) :
    numeralValue? ((if k.negative then ['-'] else []) ++ s) = some k.value := by
  rw [numeralValue?_eq, unmarked_append (by cases k.negative <;> simp), signed?_append hminus hs, value_eq]

/-- Digits with a point among them: as many stand behind it as the exponent leaves of six. -/
theorem numeralValue?_point {whole fraction : List Char} (hwhole : AllDigits whole) (hfraction : AllDigits fraction)
    (hne : whole ≠ [] ∨ ∃ c ∈ fraction, c ≠ '0')
    (hdigits : Nat.ofDigitChars 10 (whole ++ fraction) 0 = k.significand) (hlength : fraction.length = 6 - k.exponent) :
    numeralValue? ((if k.negative then ['-'] else []) ++ trimZeros (whole ++ '.' :: fraction)) = some k.value := by
  have hnot : ∀ c : Char, c.isDigit = false → c ≠ '.' → c ∉ trimZeros (whole ++ '.' :: fraction) :=
    fun _ => notMem_trimZeros hwhole hfraction
  apply numeralValue?_signed
  all_goals rw [unmarked_of_notMem (hnot '!' rfl (by decide))]
  · exact fun hhead => hnot '-' rfl (by decide) (List.mem_of_head? hhead)
  · rw [unsigned?_of_mantissa (hnot 'E' rfl (by decide)), mantissa?_trimZeros hwhole hfraction hne, pointedValue, hdigits,
      ← eq_magnitude (n := fraction.length) (e := 0) (by omega), zpow_zero, mul_one]

/-- One digit in front of the point, and the exponent. -/
theorem numeralValue?_scientific (h : k.Normal) (sign : Char) (hsign : sign ≠ '!') {n : Nat}
    (he : exponent? ('E' :: sign :: twoDigits n) = some (k.exponent - 1)) :
    numeralValue? ((if k.negative then ['-'] else []) ++ (k.scientific ++ 'E' :: sign :: twoDigits n)) =
      some k.value := by
  have htext : k.scientific = trimZeros (k.digits.take 1 ++ '.' :: k.digits.drop 1) :=
    congrArg trimZeros (insertPoint_natCast (n := 1) (by rw [length_digits h]; decide))
  have hwhole := (allDigits_digits h).take 1
  have hfraction := (allDigits_digits h).drop 1
  have hsome : k.digits.take 1 ≠ [] := List.ne_nil_of_length_pos (by rw [List.length_take, length_digits h]; decide)
  have hnot : ∀ c : Char, c.isDigit = false → c ≠ '.' → c ∉ k.scientific := by
    rw [htext]
    exact fun _ => notMem_trimZeros hwhole hfraction
  have hmark : '!' ∉ k.scientific ++ 'E' :: sign :: twoDigits n := by
    rw [List.mem_append, List.mem_cons, List.mem_cons]
    rintro (hc | hc | hc | hc)
    · exact hnot '!' rfl (by decide) hc
    · cases hc
    · exact hsign hc.symm
    · exact (allDigits_twoDigits n).notMem rfl hc
  apply numeralValue?_signed
  all_goals rw [unmarked_of_notMem hmark]
  · -- The exponent may have a minus sign, but it does not stand in front.
    intro hhead
    rw [List.head?_append] at hhead
    rcases Option.or_eq_some_iff.1 hhead with hhead | ⟨-, hhead⟩
    · exact hnot '-' rfl (by decide) (List.mem_of_head? hhead)
    · cases hhead
  · have hmantissa := mantissa?_trimZeros hwhole hfraction (.inl hsome)
    rw [← htext] at hmantissa
    rw [unsigned?_exponent (hnot 'E' rfl (by decide)) hmantissa he, pointedValue, List.take_append_drop,
      ofDigitChars_digits h, List.length_drop, length_digits h, eq_magnitude (by omega)]

/-- The point moved as the exponent says. -/
theorem numeralValue?_shifted (h : k.Normal) (hlow : 0 ≤ k.exponent) :
    numeralValue? ((if k.negative then ['-'] else []) ++ trimZeros (shiftPointRight k.digits k.exponent)) =
      some k.value := by
  obtain ⟨e, he⟩ := Int.eq_ofNat_of_zero_le hlow
  have hdigits := allDigits_digits h
  obtain ⟨c, hc, hne⟩ := exists_digit_ne_zero h
  have hread := mantissa?_shifted (n := e) hdigits (List.ne_nil_of_mem hc) (.inr ⟨c, hc, hne⟩)
  have hnot : ∀ c : Char, c.isDigit = false → c ≠ '.' → c ∉ shifted k.digits e := by
    intro c hdigit hpoint hmem
    rcases mem_shifted hdigits hmem with hc | hc
    · rw [hdigit] at hc
      cases hc
    · exact hpoint hc
  rw [he]
  apply numeralValue?_signed
  · exact fun hhead => hnot '-' rfl (by decide) (List.mem_of_head? hhead)
  · refine (unsigned?_of_mantissa (hnot 'E' rfl (by decide))).trans (hread.trans (congrArg some ?_))
    rw [ofDigitChars_digits h, length_digits h, ← eq_magnitude (n := 0) (e := (e : ℤ) - 6) (by omega)]
    simp

theorem numeralValue?_tenth (h : k.Normal) (he : k.exponent = -1) :
    numeralValue? ((if k.negative then ['-'] else []) ++ trimZeros ('.' :: '0' :: k.digits)) = some k.value := by
  have hnil : AllDigits [] := List.forall_mem_nil _
  apply numeralValue?_point hnil ((allDigits_replicate 1).append (allDigits_digits h))
  · obtain ⟨c, hc, hne⟩ := exists_digit_ne_zero h
    exact .inr ⟨c, List.mem_append_right _ hc, hne⟩
  · exact ofDigitChars_digits h
  · rw [List.length_append, length_digits h, he]
    rfl

/-- Whatever form the exponent asks for, the text reads as the value. -/
theorem numeralValue?_render (h : k.Normal) : numeralValue? k.render = some k.value := by
  have hexponent : k.exponent ≠ -64 := by
    have hzero : (k.head &&& 0x7F).toNat ≠ 0 := fun hz => h.exponent (UInt8.toNat_inj.1 hz)
    rw [exponent]
    omega
  rw [render, if_neg hexponent]
  by_cases hsmall : k.exponent < -1
  · have he : -((k.exponent - 1).natAbs : Int) = k.exponent - 1 := by omega
    rw [if_pos hsmall, List.append_assoc, List.append_assoc]
    exact numeralValue?_scientific h '-' (by decide) ((exponent?_minus 'E' _).trans (congrArg some he))
  rw [if_neg hsmall]
  by_cases htenth : k.exponent = -1
  · rw [if_pos htenth]
    exact numeralValue?_tenth h htenth
  rw [if_neg htenth]
  by_cases hbelow : k.exponent < 15
  · rw [if_pos hbelow]
    exact numeralValue?_shifted h (by omega)
  · have he : ((k.exponent - 1).natAbs : Int) = k.exponent - 1 := by omega
    rw [if_neg hbelow, List.append_assoc, List.append_assoc]
    exact numeralValue?_scientific h '+' (by decide) ((exponent?_plus 'E' _).trans (congrArg some he))

/-! ## Constants with one value -/

theorem significand_lt (h : k.Normal) : k.significand < 10 ^ 6 :=
  Nat.ofDigits_lt_base_pow_length (by decide) fun d hd => h.decimal d (List.mem_reverse.1 hd)

theorem le_significand (h : k.Normal) : 10 ^ 5 ≤ k.significand := by
  have hfirst := h.first
  simp only [significand, packed, List.flatMap_cons, List.flatMap_nil, List.append_nil, List.cons_append,
    List.nil_append, List.reverse_cons, List.reverse_nil, Nat.ofDigits_cons, Nat.ofDigits_nil]
  omega

/-- The first digit is not zero, so the magnitude lies between two powers of ten that the exponent gives. -/
theorem magnitude_mem (h : k.Normal) : k.magnitude ∈ Set.Ico ((10 : ℚ) ^ (k.exponent - 1)) (10 ^ k.exponent) := by
  have hten : (0 : ℚ) < 10 ^ k.exponent := by positivity
  have hlow : ((10 : ℚ) ^ 5) ≤ k.significand := by exact_mod_cast le_significand h
  have hhigh : (k.significand : ℚ) < 10 ^ 6 := by exact_mod_cast significand_lt h
  constructor
  · calc (10 : ℚ) ^ (k.exponent - 1) = 10 ^ 5 / 10 ^ 6 * 10 ^ k.exponent := by
          rw [zpow_sub_one₀ (by norm_num)]
          ring
      _ ≤ k.magnitude := by
          rw [magnitude]
          gcongr
  · calc k.magnitude < 10 ^ 6 / 10 ^ 6 * 10 ^ k.exponent := by
          rw [magnitude]
          gcongr
      _ = 10 ^ k.exponent := by norm_num

theorem magnitude_pos (h : k.Normal) : 0 < k.magnitude := by
  have hpower : (0 : ℚ) < 10 ^ (k.exponent - 1) := by positivity
  exact hpower.trans_le (magnitude_mem h).1

theorem exponent_le_of_magnitude_eq (hk : k.Normal) (hl : l.Normal) (heq : k.magnitude = l.magnitude) :
    k.exponent ≤ l.exponent := by
  have hlt : (10 : ℚ) ^ (k.exponent - 1) < 10 ^ l.exponent :=
    ((magnitude_mem hk).1.trans_eq heq).trans_lt (magnitude_mem hl).2
  have hlt := (zpow_lt_zpow_iff_right₀ (by norm_num)).1 hlt
  omega

theorem exponent_significand_of_magnitude_eq (hk : k.Normal) (hl : l.Normal) (heq : k.magnitude = l.magnitude) :
    k.exponent = l.exponent ∧ k.significand = l.significand := by
  have hexponent : k.exponent = l.exponent :=
    le_antisymm (exponent_le_of_magnitude_eq hk hl heq) (exponent_le_of_magnitude_eq hl hk heq.symm)
  have hten : (10 : ℚ) ^ l.exponent ≠ 0 := by positivity
  rw [magnitude, magnitude, hexponent, mul_left_inj' hten, div_left_inj' (by norm_num)] at heq
  exact ⟨hexponent, by exact_mod_cast heq⟩

theorem negative_magnitude_of_value_eq (hk : k.Normal) (hl : l.Normal) (heq : k.value = l.value) :
    k.negative = l.negative ∧ k.magnitude = l.magnitude := by
  have hkpos := magnitude_pos hk
  have hlpos := magnitude_pos hl
  rw [value_eq, value_eq] at heq
  cases hkn : k.negative <;> cases hln : l.negative <;> simp [hkn, hln] at heq ⊢ <;> linarith

theorem packed_of_significand_eq (hk : k.Normal) (hl : l.Normal) (heq : k.significand = l.significand) :
    k.packed = l.packed :=
  List.reverse_injective (Nat.ofDigits_inj_of_len_eq (by decide) rfl
    (fun d hd => hk.decimal d (List.mem_reverse.1 hd)) (fun d hd => hl.decimal d (List.mem_reverse.1 hd)) heq)

theorem eq_of_packed_eq (hpacked : k.packed = l.packed) (hnegative : k.negative = l.negative)
    (hexponent : k.exponent = l.exponent) : k = l := by
  have hbyte : ∀ {a b : UInt8}, a.toNat / 16 = b.toNat / 16 → a.toNat % 16 = b.toNat % 16 → a = b :=
    fun hdiv hmod => UInt8.toNat_inj.1 (by omega)
  simp only [packed, List.flatMap_cons, List.flatMap_nil, List.append_nil, List.cons_append, List.nil_append,
    List.cons.injEq, and_true] at hpacked
  obtain ⟨h1, h2, h3, h4, h5, h6⟩ := hpacked
  have hhead : k.head = l.head := by
    rw [negative_eq, negative_eq, Nat.testBit_eq_decide_div_mod_eq, Nat.testBit_eq_decide_div_mod_eq,
      decide_eq_decide] at hnegative
    rw [exponent, exponent, toNat_lowBits, toNat_lowBits] at hexponent
    have hklt := k.head.toNat_lt
    have hllt := l.head.toNat_lt
    refine UInt8.toNat_inj.1 ?_
    omega
  cases k
  cases l
  exact congr (congr (congr (congrArg mk hhead) (hbyte h1 h2)) (hbyte h3 h4)) (hbyte h5 h6)

theorem eq_of_value_eq (hk : k.Normal) (hl : l.Normal) (heq : k.value = l.value) : k = l := by
  obtain ⟨hnegative, hmagnitude⟩ := negative_magnitude_of_value_eq hk hl heq
  obtain ⟨hexponent, hsignificand⟩ := exponent_significand_of_magnitude_eq hk hl hmagnitude
  exact eq_of_packed_eq (packed_of_significand_eq hk hl hsignificand) hnegative hexponent

end

end Constant

/-- The text of a constant reads as the number that the constant stands for, so it is the text of no other. -/
theorem numeralValue?_renderConstant {k : Constant} (h : k.Normal) :
    numeralValue? (renderConstant [k.head, k.high, k.mid, k.low]) = some k.value ∧
      ∀ l : Constant, l.Normal →
        renderConstant [l.head, l.high, l.mid, l.low] = renderConstant [k.head, k.high, k.mid, k.low] → l = k := by
  refine ⟨Constant.numeralValue?_render h, fun l hl heq => Constant.eq_of_value_eq hl h ?_⟩
  have hread : numeralValue? l.render = numeralValue? k.render := congrArg numeralValue? heq
  rw [Constant.numeralValue?_render hl, Constant.numeralValue?_render h] at hread
  exact Option.some.inj hread

/-- A number below zero, whose last digit is not written, and another one that differs there. -/
theorem numeralValue?_renderConstant_hundredth :
    renderConstant [0xBF, 0x12, 0x34, 0x50] = "-.012345".toList ∧
      numeralValue? (renderConstant [0xBF, 0x12, 0x34, 0x50]) = some (-0.012345) ∧
      renderConstant [0xBF, 0x12, 0x34, 0x56] ≠ renderConstant [0xBF, 0x12, 0x34, 0x50] := by
  have hread := numeralValue?_renderConstant (k := ⟨0xBF, 0x12, 0x34, 0x50⟩) ⟨by decide, by decide, by decide⟩
  have hvalue : (Constant.mk 0xBF 0x12 0x34 0x50).value = -0.012345 := by
    have hsign : (0xBF : UInt8).toNat.testBit 7 = true := by decide
    have hpower : ((0xBF &&& 0x7F : UInt8).toNat : ℤ) - 64 = -1 := by decide
    have hdigits : (Constant.mk 0xBF 0x12 0x34 0x50).significand = 123450 := by decide
    rw [Constant.value, hsign, hpower, hdigits]
    norm_num
  refine ⟨by decide, hread.1.trans (congrArg some hvalue), fun heq => ?_⟩
  have hsame := hread.2 ⟨0xBF, 0x12, 0x34, 0x56⟩ ⟨by decide, by decide, by decide⟩ heq
  exact absurd hsame (by decide)

/-- **Moving the point keeps the value, unless nothing is left.** The point of any digits is moved to the right by `n`
places, and zeros are trimmed. But for a mark at the end, the text is a numeral with at least one digit, whose value is the
number of the digits times the power of ten, exactly if `n` is not zero or one of the digits is not. Otherwise the text is
empty. The text can be made as long as fewer than 2³² zeros have to be filled in. -/
theorem mantissa?_shifted_iff {digits : List Char} (hdigits : AllDigits digits) (hne : digits ≠ []) (n : Nat) :
    let text := trimZeros (shiftPointRight digits n)
    (mantissa? (unmarked text) = some (Nat.ofDigitChars 10 digits 0 * (10 : ℚ) ^ ((n : ℤ) - digits.length)) ↔
      n ≠ 0 ∨ ∃ c ∈ digits, c ≠ '0') ∧
    (n = 0 → (∀ c ∈ digits, c = '0') → text = []) ∧
    (n < digits.length + 0x100000000 → tryShiftPointRight digits n = .ok (shiftPointRight digits n)) := by
  intro text
  have hnothing : n = 0 → (∀ c ∈ digits, c = '0') → text = [] := by
    rintro rfl hzeros
    exact trimZeros_shiftPointRight_zeros hne hzeros
  refine ⟨⟨fun hread => ?_, mantissa?_shifted hdigits hne⟩, hnothing, fun hn => ?_⟩
  · by_contra! hzeros
    rw [hnothing hzeros.1 hzeros.2] at hread
    exact absurd hread (by simp [unmarked, mantissa?, wholeNumber?])
  · rw [tryShiftPointRight, if_neg (by omega), if_neg (by omega)]

/-- Zeros in front of the point stay, those behind it go, and the point with them. -/
theorem mantissa?_shifted_iff_hundred :
    AllDigits "01000".toList ∧ "01000".toList ≠ [] ∧
      trimZeros (shiftPointRight "01000".toList (4 : Nat)) = "0100".toList ∧
      mantissa? (unmarked (trimZeros (shiftPointRight "01000".toList (4 : Nat)))) = some 100 := by
  have hdigits : AllDigits "01000".toList := List.all_eq_true.1 (by decide)
  have hread := ((mantissa?_shifted_iff hdigits (by decide) 4).1.2 (.inl (by decide)))
  refine ⟨hdigits, by decide, by decide, hread.trans (congrArg some ?_)⟩
  have hvalue : Nat.ofDigitChars 10 "01000".toList 0 = 1000 := by decide
  have hlength : "01000".toList.length = 5 := by decide
  rw [hvalue, hlength]
  norm_num

/-- A zero in front of which the point is put leaves no digit. -/
theorem shifted_zero_empty :
    trimZeros (shiftPointRight ['0'] (0 : Nat)) = [] ∧ mantissa? (unmarked (trimZeros (shiftPointRight ['0'] (0 : Nat)))) = none ∧
      renderConstant [0x40, 0, 0, 0] = [] := by
  have hzero : trimZeros (shiftPointRight ['0'] (0 : Nat)) = [] := by decide
  refine ⟨hzero, ?_, by decide⟩
  rw [hzero]
  simp [unmarked, mantissa?, wholeNumber?]

end MsxWorkbench.Program
