import Mathlib.Data.List.TakeWhile
import MsxWorkbench.Settings.Store
import MsxWorkbench.Proofs.Text.Numerals
/-
# The table of the last renumbering

What the store keeps of a renumbering, and what it finds for a reference. A table is kept just if its old
numbers differ and all its numbers fit (`setRenumbering_eq_ok_iff`). A run of ASCII digits finds the row of
its value. One whose value does not fit finds nothing, though it is then taken for a floating-point number,
and neither does one with digits of another script (`newNumber?_eq`).
-/
namespace MsxWorkbench.Settings

/-! ## Numbers too large for a cell -/

theorem roundHalfEven_ge (num den : Nat) : num / den ≤ Binary64.roundHalfEven num den := by
  simp only [Binary64.roundHalfEven]
  split
  · exact Nat.le_refl _
  · split <;> omega

/-- A whole number from `2 ^ 63` on is rounded to one from `2 ^ 63` on. -/
theorem ofRatio_large {n : Nat} (h : 2 ^ 63 ≤ n) :
    Binary64.ofRatio false n 1 = .infinite false ∨
      ∃ m e : Nat, Binary64.ofRatio false n 1 = .finite false m e ∧ 2 ^ 63 ≤ m * 2 ^ e := by
  have hn : n ≠ 0 := by omega
  have hlog : 63 ≤ n.log2 := (Nat.le_log2 hn).2 h
  obtain ⟨k, hk⟩ : ∃ k, n.log2 = k + 52 := ⟨n.log2 - 52, by omega⟩
  have hself : 2 ^ (k + 52) ≤ n := hk ▸ Nat.log2_self_le hn
  have hlow : 0x20000000000000 ≤ n / 2 ^ (k - 1) := by
    rw [Nat.le_div_iff_mul_le (Nat.two_pow_pos _), show 0x20000000000000 = 2 ^ 53 by decide, ← Nat.pow_add,
      show 53 + (k - 1) = k + 52 by omega]
    exact hself
  have hm : 2 ^ 52 ≤ Binary64.roundHalfEven n (2 ^ k) := by
    refine Nat.le_trans ?_ (roundHalfEven_ge n (2 ^ k))
    rw [Nat.le_div_iff_mul_le (Nat.two_pow_pos _), ← Nat.pow_add, Nat.add_comm 52 k]
    exact hself
  have hsize : 2 ^ 63 ≤ 2 ^ 52 * 2 ^ k := by
    rw [← Nat.pow_add]
    exact Nat.pow_le_pow_right (by decide) (by omega)
  have hguess : max ((n.log2 : Int) - ((1 : Nat).log2 : Int) - 53) (-1074) = ((k - 1 : Nat) : Int) := by
    rw [hk, show (1 : Nat).log2 = 0 by decide]
    omega
  have hnext : max ((n.log2 : Int) - ((1 : Nat).log2 : Int) - 53 + 1) (-1074) = (k : Int) := by
    rw [hk, show (1 : Nat).log2 = 0 by decide]
    omega
  have hscaled : ∀ j : Nat, Binary64.scaled n 1 (j : Int) = (n, 2 ^ j) := by
    intro j
    rw [Binary64.scaled, if_pos (by omega), Int.toNat_natCast]
    exact congrArg (Prod.mk n) (Nat.one_mul _)
  -- the first guess does not fit, so the exponent is `k` and the mantissa has its highest bit
  have hround : ∀ (m : Nat) (e : Int), (if Binary64.roundHalfEven n (2 ^ k) = 0x20000000000000 then
      (0x10000000000000, (k : Int) + 1) else (Binary64.roundHalfEven n (2 ^ k), (k : Int))) = (m, e) →
      Binary64.ofRatio false n 1 = if e > 971 then .infinite false else .finite false m e := by
    intro m e hpair
    rw [Binary64.ofRatio, if_neg hn]
    simp only [hguess, hscaled, if_neg (Nat.not_lt_of_le hlow), hnext, hpair]
  by_cases hcarry : Binary64.roundHalfEven n (2 ^ k) = 0x20000000000000
  · rw [hround _ _ (if_pos hcarry)]
    split
    · exact Or.inl rfl
    · refine Or.inr ⟨0x10000000000000, k + 1, rfl, ?_⟩
      rw [Nat.pow_succ]
      omega
  · rw [hround _ _ (if_neg hcarry)]
    split
    · exact Or.inl rfl
    · exact Or.inr ⟨_, k, rfl, Nat.le_trans hsize (Nat.mul_le_mul_right _ hm)⟩

theorem wholeCell_large {n : Nat} (h : 2 ^ 63 ≤ n) : ∃ x, wholeCell (.ofDecimal false n 0) = .real x := by
  have hdecimal : Binary64.ofDecimal false n 0 = .infinite false ∨
      Binary64.ofDecimal false n 0 = .ofRatio false n 1 := by
    simp only [Binary64.ofDecimal]
    rw [if_neg (by omega)]
    split
    · exact Or.inl rfl
    · rw [if_neg (by omega), if_pos (Int.le_refl 0), Int.toNat_zero, show Nat.pow 10 0 = 1 from rfl,
        Nat.mul_one]
      exact Or.inr rfl
  have hlarge : Binary64.ofDecimal false n 0 = .infinite false ∨
      ∃ m e : Nat, Binary64.ofDecimal false n 0 = .finite false m e ∧ 2 ^ 63 ≤ m * 2 ^ e := by
    rcases hdecimal with heq | heq
    · exact Or.inl heq
    · rw [heq]
      exact ofRatio_large h
  rcases hlarge with heq | ⟨m, e, heq, hsize⟩
  · exact ⟨_, by rw [heq]; rfl⟩
  · have hint : Binary64.toInt? (.finite false m e) = some ((m * 2 ^ e : Nat) : Int) := by
      simp [Binary64.toInt?, Binary64.ratio, Nat.mod_one]
    refine ⟨.finite false m e, ?_⟩
    rw [heq, wholeCell, hint]
    exact if_neg (by omega)

/-! ## Looking up a reference -/

theorem decimalValue_eq {d : List Char} (hd : ∀ c ∈ d, c.isDigit = true) :
    Json.decimalValue d = Text.digitsValue d := by
  rw [Text.digitsValue_eq hd]
  rfl

/-- No digit of any script has another part in a numeral. -/
theorem not_sign_of_isDigit {c : Char} (h : Text.isDigit c = true) :
    isCellBlank c = false ∧ c ≠ '-' ∧ c ≠ '+' ∧ c ≠ '.' ∧ c ≠ 'e' ∧ c ≠ 'E' :=
  Text.forall_digit (p := fun c => isCellBlank c = false ∧ c ≠ '-' ∧ c ≠ '+' ∧ c ≠ '.' ∧ c ≠ 'e' ∧ c ≠ 'E')
    (by decide +kernel) h

/-- A run of ASCII digits is a numeral without sign, point and exponent. A run with other digits is none. -/
theorem numeral?_digits {d : List Char} (hne : d ≠ []) (hd : ∀ c ∈ d, Text.isDigit c = true) :
    numeral? d = if d.all Char.isDigit then some (false, false, Text.digitsValue d, 0) else none := by
  obtain ⟨e, tail, rfl⟩ := List.exists_cons_of_ne_nil hne
  obtain ⟨hfirst, hminus, hplus, -⟩ := not_sign_of_isDigit (hd e List.mem_cons_self)
  rw [numeral?, List.dropWhile_cons_of_neg (by simp [hfirst])]
  split
  rename_i neg s hsign
  split at hsign
  · rename_i r hr
    cases hr
    exact absurd rfl hminus
  · rename_i r hr
    cases hr
    exact absurd rfl hplus
  · cases hsign
    by_cases hall : ∀ c ∈ e :: tail, c.isDigit = true
    · have htake : (e :: tail).takeWhile Char.isDigit = e :: tail := List.takeWhile_eq_self_iff.2 hall
      have hdrop : (e :: tail).dropWhile Char.isDigit = [] := List.dropWhile_eq_nil_iff.2 hall
      rw [if_pos (List.all_eq_true.2 hall)]
      simp [Json.spanDigits, htake, hdrop, decimalValue_eq hall]
    · -- the first other digit stands where the numeral would end
      obtain ⟨c, rest, hrest⟩ := List.exists_cons_of_ne_nil (mt List.dropWhile_eq_nil_iff.1 hall)
      have hc : c ∈ e :: tail := List.dropWhile_subset _ (hrest ▸ List.mem_cons_self)
      obtain ⟨hblank, -, -, hpoint, hsmall, hcapital⟩ := not_sign_of_isDigit (hd c hc)
      rw [if_neg (mt List.all_eq_true.1 hall)]
      simp [Json.spanDigits, hrest, hpoint, hsmall, hcapital, hblank]

theorem fitsCell_natCast (n : Nat) : fitsCell (n : Int) = decide (n < 2 ^ 63) := by
  rw [fitsCell, Bool.eq_iff_iff, Bool.and_eq_true, decide_eq_true_eq, decide_eq_true_eq, decide_eq_true_eq]
  omega

theorem fitsCell_of_lt {n : Int} (h0 : 0 ≤ n) (h : n < 2 ^ 63) : fitsCell n = true := by
  rw [fitsCell, Bool.and_eq_true, decide_eq_true_eq, decide_eq_true_eq]
  omega

theorem natAbs_lt_of_fitsCell {n : Int} (h : fitsCell n = true) : n.natAbs < 10 ^ Text.mostDigits := by
  rw [fitsCell, Bool.and_eq_true, decide_eq_true_eq, decide_eq_true_eq] at h
  exact Text.natAbs_lt_of_le (by omega)

theorem toWhole_digits {d : List Char} (hne : d ≠ []) (hd : ∀ c ∈ d, Text.isDigit c = true)
    (hall : d.all Char.isDigit = true) :
    (Cell.text (String.ofList d)).toWhole =
      if Text.digitsValue d < 2 ^ 63 then .int (Text.digitsValue d)
      else wholeCell (.ofDecimal false (Text.digitsValue d) 0) := by
  rw [Cell.toWhole, String.toList_ofList, numeral?_digits hne hd, if_pos hall]
  simp only [Bool.not_false, Bool.true_and, Bool.false_eq_true, if_false, fitsCell_natCast, decide_eq_true_eq]

theorem newNumber?_eq (s : Store) {d : List Char} (hne : d ≠ []) (hd : ∀ c ∈ d, Text.isDigit c = true) :
    s.newNumber? (String.ofList d) =
      if d.all Char.isDigit ∧ Text.digitsValue d < 2 ^ 63 then s.renumbering.lookup (Text.digitsValue d : Int)
      else none := by
  rw [Store.newNumber?]
  by_cases hall : d.all Char.isDigit = true
  · rw [toWhole_digits hne hd hall]
    by_cases hfits : Text.digitsValue d < 2 ^ 63
    · rw [if_pos hfits, if_pos ⟨hall, hfits⟩]
    · obtain ⟨x, hx⟩ := wholeCell_large (Nat.le_of_not_lt hfits)
      rw [if_neg hfits, hx, if_neg fun h => hfits h.2]
  · rw [Cell.toWhole, String.toList_ofList, numeral?_digits hne hd, if_neg hall, if_neg fun h => hall h.1]

/-! ## Keeping a renumbering -/

theorem add_eq_ok : ∀ {pairs rows : List (Int × Int)},
    (∀ p ∈ pairs, fitsCell p.1 = true ∧ fitsCell p.2 = true) → ((rows ++ pairs).map Prod.fst).Nodup →
    Store.setRenumbering.add rows pairs = .ok (rows ++ pairs)
  | [], rows, _, _ => by rw [Store.setRenumbering.add, List.append_nil]
  | (old, new) :: pairs, rows, hfits, hnodup => by
    have hp := hfits (old, new) List.mem_cons_self
    have hnew : rows.any (·.1 == old) = false := by
      rw [List.map_append, List.nodup_append] at hnodup
      rw [List.any_eq_false]
      intro row hrow heq
      exact hnodup.2.2 row.1 (List.mem_map_of_mem hrow) old (by simp) (beq_iff_eq.1 heq)
    rw [Store.setRenumbering.add, hp.1, hp.2, hnew]
    simp only [Bool.not_true, Bool.or_self, if_neg Bool.false_ne_true]
    rw [add_eq_ok (fun p hmem => hfits p (List.mem_cons_of_mem _ hmem)) (by simpa using hnodup),
      List.append_assoc, List.singleton_append]

/-- Distinct numbers that fit are kept. -/
theorem setRenumbering_eq_ok (s : Store) {pairs : List (Int × Int)}
    (hfits : ∀ p ∈ pairs, fitsCell p.1 = true ∧ fitsCell p.2 = true) (hnodup : (pairs.map Prod.fst).Nodup) :
    s.setRenumbering pairs = .ok { s with renumbering := pairs } := by
  have hadd : Store.setRenumbering.add [] pairs = .ok ([] ++ pairs) := add_eq_ok hfits hnodup
  rw [Store.setRenumbering, hadd]
  rfl

/-- What the store asks of a table: old numbers that differ, and numbers that fit. -/
structure TableFits (pairs : List (Int × Int)) : Prop where
  nodup : (pairs.map Prod.fst).Nodup
  fits : ∀ p ∈ pairs, fitsCell p.1 = true ∧ fitsCell p.2 = true

theorem of_add_eq_ok : ∀ {pairs rows result : List (Int × Int)}, Store.setRenumbering.add rows pairs = .ok result →
    TableFits rows → result = rows ++ pairs ∧ TableFits (rows ++ pairs)
  | [], rows, result, h, hrows => by
    rw [Store.setRenumbering.add] at h
    cases h
    rw [List.append_nil]
    exact ⟨rfl, hrows⟩
  | (old, new) :: pairs, rows, result, h, hrows => by
    rw [Store.setRenumbering.add] at h
    split at h
    · cases h
    · rename_i hfits
      split at h
      · cases h
      · rename_i hnew
        simp only [Bool.or_eq_true, Bool.not_eq_true', not_or, Bool.not_eq_false] at hfits
        have hrow : TableFits (rows ++ [(old, new)]) := by
          constructor
          · rw [List.map_append, List.map_singleton, List.nodup_append]
            refine ⟨hrows.nodup, by simp, fun a ha b hb heq => hnew ?_⟩
            obtain ⟨row, hrow, rfl⟩ := List.mem_map.1 ha
            exact List.any_eq_true.2 ⟨row, hrow, beq_iff_eq.2 (heq.trans (List.mem_singleton.1 hb))⟩
          · intro p hp
            rcases List.mem_append.1 hp with hp | hp
            · exact hrows.fits p hp
            · rw [List.mem_singleton.1 hp]
              exact hfits
        have hmore := of_add_eq_ok h hrow
        rwa [List.append_assoc, List.singleton_append] at hmore

/-- A store keeps the whole of a table that fits, and nothing of any other. -/
theorem setRenumbering_eq_ok_iff {s s' : Store} {pairs : List (Int × Int)} :
    s.setRenumbering pairs = .ok s' ↔ TableFits pairs ∧ s' = { s with renumbering := pairs } := by
  constructor
  · intro h
    unfold Store.setRenumbering at h
    cases hadd : Store.setRenumbering.add [] pairs with
    | error e =>
      rw [hadd] at h
      cases h
    | ok rows =>
      rw [hadd] at h
      cases h
      obtain ⟨rfl, hfits⟩ := of_add_eq_ok hadd ⟨List.nodup_nil, by simp⟩
      exact ⟨hfits, rfl⟩
  · rintro ⟨hfits, rfl⟩
    exact setRenumbering_eq_ok s hfits.fits hfits.nodup

theorem exists_setRenumbering_eq_error_iff (s : Store) {pairs : List (Int × Int)} :
    (∃ e, s.setRenumbering pairs = .error e) ↔ ¬ TableFits pairs := by
  cases h : s.setRenumbering pairs with
  | ok s' =>
    refine iff_of_false ?_ fun hno => hno (setRenumbering_eq_ok_iff.1 h).1
    rintro ⟨e, he⟩
    cases he
  | error e =>
    refine iff_of_true ⟨e, rfl⟩ fun hfits => ?_
    rw [setRenumbering_eq_ok_iff.2 ⟨hfits, rfl⟩] at h
    cases h

end MsxWorkbench.Settings
