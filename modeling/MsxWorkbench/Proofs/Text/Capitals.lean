import MsxWorkbench.Proofs.Text.Ascii
/-
# Capitals of any script

A capital is its own capital and no blank (`IsCapital`), and a blank is its own capital. This is checked on the tables run by
run and not character by character: the images of a run are apart from the code points of each run (`CaseRun.apart`). So
capitals made twice are capitals made once (`upper_upper`), and it does not matter whether blanks are taken out before or
after (`unspaced_upper`).
-/
namespace MsxWorkbench.Text

/-! ## Runs of code points -/

namespace CaseRun

/-- Is the code point one of the run? -/
def Has (r : CaseRun) (n : Nat) : Prop := r.lo ≤ n ∧ n ≤ r.hi ∧ (n - r.lo) % r.stride = 0

/-- A run of one code point, which maps to itself. -/
def point (n : Nat) : CaseRun := ⟨n, n, 1, n⟩

/-- The images of the first run are apart from the code points of the second: all below, all above, or between them where
both go in steps of two. -/
def apart (r q : CaseRun) : Bool :=
  Nat.blt (r.target + (r.hi - r.lo)) q.lo || (Nat.blt q.hi r.target ||
    ((r.stride == 2 || r.hi == r.lo) && (q.stride == 2 && (r.target + q.lo) % 2 == 1)))

theorem not_has_of_apart {r q : CaseRun} {n : Nat} (h : r.apart q = true) (hn : r.Has n) :
    ¬ q.Has (n + r.target - r.lo) := by
  obtain ⟨hlo, hhi, hstep⟩ := hn
  rintro ⟨hqlo, hqhi, hqstep⟩
  simp only [apart, Bool.or_eq_true, Bool.and_eq_true, Nat.blt_eq, beq_iff_eq] at h
  rcases h with h | h | ⟨hr, hq, hodd⟩
  · omega
  · omega
  · rw [hq] at hqstep
    rcases hr with hr | hr
    · rw [hr] at hstep
      omega
    · omega

theorem not_has_of_apart_point {q : CaseRun} {n : Nat} (h : (point n).apart q = true) : ¬ q.Has n := by
  have hno := not_has_of_apart h ⟨Nat.le_refl n, Nat.le_refl n, Nat.mod_one _⟩
  rwa [show n + (point n).target - (point n).lo = n from Nat.add_sub_cancel n n] at hno

end CaseRun

theorem mapCase_eq_self {n : Nat} : ∀ {runs : List CaseRun}, (∀ r ∈ runs, ¬ r.Has n) → mapCase runs n = n
  | [], _ => rfl
  | r :: runs, h => by
    rw [List.forall_mem_cons] at h
    rw [mapCase]
    split
    · rfl
    · rename_i hlo
      have hno : ¬ (n ≤ r.hi && (n - r.lo) % r.stride == 0) = true := by
        simp only [Bool.and_eq_true, decide_eq_true_eq, beq_iff_eq]
        exact fun hn => h.1 ⟨Nat.not_lt.1 hlo, hn⟩
      rw [if_neg hno, mapCase_eq_self h.2]

theorem mapCase_cases (n : Nat) : ∀ runs : List CaseRun,
    mapCase runs n = n ∨ ∃ r ∈ runs, r.Has n ∧ mapCase runs n = n + r.target - r.lo
  | [] => .inl rfl
  | r :: runs => by
    rw [mapCase]
    split
    · exact .inl rfl
    · rename_i hlo
      split
      · rename_i hn
        simp only [Bool.and_eq_true, decide_eq_true_eq, beq_iff_eq] at hn
        exact .inr ⟨r, List.mem_cons_self, ⟨Nat.not_lt.1 hlo, hn⟩, rfl⟩
      · refine (mapCase_cases n runs).imp_right ?_
        rintro ⟨q, hq, hhas⟩
        exact ⟨q, List.mem_cons_of_mem _ hq, hhas⟩

/-! ## The tables -/

/-- The code points that have other capitals. -/
def casedRuns : List CaseRun := upperRuns ++ upperExpansions.map fun e => .point e.1

/-- The blanks. -/
def blankRuns : List CaseRun := [⟨9, 13, 1, 9⟩, ⟨0x1C, 0x20, 1, 0x1C⟩, .point 0x85, .point 0xA0, .point 0x1680,
  ⟨0x2000, 0x200A, 1, 0x2000⟩, .point 0x2028, .point 0x2029, .point 0x202F, .point 0x205F, .point 0x3000]

/-- The tables lead to no code point with other capitals and to no blank, and blanks have no other capitals. -/
theorem tables_apart :
    (upperRuns.all fun r => casedRuns.all r.apart && blankRuns.all r.apart) = true ∧
    (upperExpansions.all fun e => e.2.all fun n =>
      casedRuns.all (CaseRun.point n).apart && blankRuns.all (CaseRun.point n).apart) = true ∧
    (blankRuns.all fun r => casedRuns.all r.apart) = true := by
  decide +kernel

theorem exists_blankRun {c : Char} (h : isBlank c = true) : ∃ q ∈ blankRuns, q.Has c.toNat ∧ q.target = q.lo := by
  simp only [isBlank, Bool.or_eq_true, Bool.and_eq_true, decide_eq_true_eq, beq_iff_eq] at h
  simp only [blankRuns, List.mem_cons, List.not_mem_nil, or_false, exists_eq_or_imp, exists_eq_left, CaseRun.Has,
    CaseRun.point, Nat.mod_one, and_true]
  omega

theorem letters_mem_upperRuns : ⟨0x61, 0x7a, 1, 0x41⟩ ∈ upperRuns := List.mem_append_left _ List.mem_cons_self

theorem upperChar_eq_self {c : Char} (h : ∀ r ∈ casedRuns, ¬ r.Has c.toNat) : upperChar c = [c] := by
  rw [casedRuns, List.forall_mem_append] at h
  rw [upperChar]
  split
  · rename_i hletter
    exact absurd ⟨hletter.1, hletter.2, Nat.mod_one _⟩ (h.1 _ letters_mem_upperRuns)
  · split
    · rfl
    · have hlookup : upperExpansions.lookup c.toNat = none := by
        refine List.lookup_eq_none_iff.2 fun e he => bne_iff_ne.2 fun heq => ?_
        exact h.2 _ (List.mem_map_of_mem he) ⟨Nat.le_of_eq heq.symm, Nat.le_of_eq heq, Nat.mod_one _⟩
      rw [hlookup, mapCase_eq_self h.1, Char.ofNat_toNat]

/-! ## Capitals -/

/-- The character is its own capital and no blank. -/
def IsCapital (c : Char) : Prop := upperChar c = [c] ∧ isBlank c = false

theorem isCapital_ofNat {n : Nat} (hcased : ∀ r ∈ casedRuns, ¬ r.Has n) (hblank : ∀ r ∈ blankRuns, ¬ r.Has n) :
    IsCapital (Char.ofNat n) := by
  by_cases hvalid : n.isValidChar
  · have hn : (Char.ofNat n).toNat = n := congrArg Char.toNat (dif_pos hvalid)
    rw [← hn] at hcased hblank
    refine ⟨upperChar_eq_self hcased, Bool.eq_false_iff.2 fun h => ?_⟩
    obtain ⟨q, hq, hhas, -⟩ := exists_blankRun h
    exact hblank q hq hhas
  · -- a number that is no code point stands for the character 0
    have hzero : Char.ofNat n = Char.ofNat 0 := dif_neg hvalid
    rw [hzero]
    exact ⟨by decide, by decide⟩

/-- The capitals of a character are capitals, unless it is its own. -/
theorem upperChar_cases (c : Char) : upperChar c = [c] ∨ ∀ d ∈ upperChar c, IsCapital d := by
  obtain ⟨hruns, hexpansions, -⟩ := tables_apart
  simp only [List.all_eq_true, Bool.and_eq_true] at hruns hexpansions
  have himage : ∀ r ∈ upperRuns, r.Has c.toNat → IsCapital (Char.ofNat (c.toNat + r.target - r.lo)) := by
    intro r hr hhas
    obtain ⟨hcased, hblank⟩ := hruns r hr
    exact isCapital_ofNat (fun q hq => CaseRun.not_has_of_apart (hcased q hq) hhas)
      fun q hq => CaseRun.not_has_of_apart (hblank q hq) hhas
  rw [upperChar]
  split
  · rename_i hletter
    have hcapital := himage _ letters_mem_upperRuns ⟨hletter.1, hletter.2, Nat.mod_one _⟩
    exact .inr (List.forall_mem_singleton.2 hcapital)
  · split
    · exact .inl rfl
    · split
      · rename_i image hlookup
        obtain ⟨before, after, htable, -⟩ := List.lookup_eq_some_iff.1 hlookup
        have hmem : (c.toNat, image) ∈ upperExpansions := htable ▸ List.mem_append_right before List.mem_cons_self
        refine .inr fun d hd => ?_
        obtain ⟨n, hn, rfl⟩ := List.mem_map.1 hd
        obtain ⟨hcased, hblank⟩ := hexpansions _ hmem n hn
        exact isCapital_ofNat (fun q hq => CaseRun.not_has_of_apart_point (hcased q hq))
          fun q hq => CaseRun.not_has_of_apart_point (hblank q hq)
      · rcases mapCase_cases c.toNat upperRuns with heq | ⟨r, hr, hhas, heq⟩
        · exact .inl (by rw [heq, Char.ofNat_toNat])
        · exact .inr (List.forall_mem_singleton.2 (by rw [heq]; exact himage r hr hhas))

theorem upperChar_of_isBlank {c : Char} (h : isBlank c = true) : upperChar c = [c] := by
  obtain ⟨q, hq, hhas, htarget⟩ := exists_blankRun h
  have hapart := tables_apart.2.2
  simp only [List.all_eq_true] at hapart
  refine upperChar_eq_self fun r hr => ?_
  have hno := CaseRun.not_has_of_apart (hapart q hq r hr) hhas
  rwa [htarget, Nat.add_sub_cancel] at hno

theorem upper_cons (c : Char) (s : List Char) : upper (c :: s) = upperChar c ++ upper s := List.flatMap_cons

theorem upperChar_ne_nil (c : Char) : upperChar c ≠ [] := by
  have hall : (upperExpansions.all fun e => !e.2.isEmpty) = true := by decide
  unfold upperChar
  split
  · exact List.cons_ne_nil _ _
  · split
    · exact List.cons_ne_nil _ _
    · split
      · rename_i image hlookup
        obtain ⟨before, after, htable, -⟩ := List.lookup_eq_some_iff.1 hlookup
        have himage := List.all_eq_true.1 hall (c.toNat, image) (htable ▸ List.mem_append_right before List.mem_cons_self)
        simpa using himage
      · exact List.cons_ne_nil _ _

theorem upper_ne_nil {s : List Char} (h : s ≠ []) : upper s ≠ [] := by
  obtain ⟨c, s, rfl⟩ := List.exists_cons_of_ne_nil h
  rw [upper_cons]
  exact List.append_ne_nil_of_left_ne_nil (upperChar_ne_nil c) _

theorem upper_upperChar (c : Char) : upper (upperChar c) = upperChar c := by
  rcases upperChar_cases c with hself | hcapitals
  · rw [hself, upper_cons, hself]
    rfl
  · generalize upperChar c = capitals at hcapitals
    induction capitals with
    | nil => rfl
    | cons d capitals ih =>
      rw [List.forall_mem_cons] at hcapitals
      rw [upper_cons, hcapitals.1.1, ih hcapitals.2, List.singleton_append]

/-- Capitals have no other capitals. -/
theorem upper_upper (s : List Char) : upper (upper s) = upper s := by
  induction s with
  | nil => rfl
  | cons c s ih => rw [upper_cons, upper_append, upper_upperChar, ih]

theorem unspaced_upperChar {c : Char} (h : isBlank c = false) : unspaced (upperChar c) = upperChar c := by
  refine List.filter_eq_self.2 fun d hd => ?_
  rcases upperChar_cases c with hself | hcapitals
  · rw [hself, List.mem_singleton] at hd
    rw [hd, h]
    rfl
  · rw [(hcapitals d hd).2]
    rfl

/-- Capitals of blanks are blanks, and others are not. -/
theorem unspaced_upper (s : List Char) : unspaced (upper s) = upper (unspaced s) := by
  induction s with
  | nil => rfl
  | cons c s ih =>
    rw [upper_cons, unspaced_append, ih]
    cases hc : isBlank c with
    | true =>
      rw [upperChar_of_isBlank hc, blind_unspaced.cons c s hc, unspaced_of_allBlank (List.forall_mem_singleton.2 hc),
        List.nil_append]
    | false => rw [unspaced_upperChar hc, unspaced, unspaced, List.filter_cons_of_pos (by simp [hc]), upper_cons]

theorem upper_subset {s t : List Char} (h : s ⊆ t) : upper s ⊆ upper t := by
  intro c hc
  obtain ⟨d, hd, hcd⟩ := List.mem_flatMap.1 hc
  exact List.mem_flatMap.2 ⟨d, h hd, hcd⟩

theorem mem_of_mem_upper {c : Char} {s : List Char} (hc : c ∈ upper s) (hblank : isBlank c = true) : c ∈ s := by
  obtain ⟨d, hd, hcd⟩ := List.mem_flatMap.1 hc
  rcases upperChar_cases d with hself | hcapitals
  · rw [hself, List.mem_singleton] at hcd
    exact hcd ▸ hd
  · rw [(hcapitals c hcd).2] at hblank
    cases hblank

end MsxWorkbench.Text
