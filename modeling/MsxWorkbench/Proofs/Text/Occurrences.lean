import Mathlib.Data.List.Infix
/-
# Occurrences of a pattern

A pattern that occurs in a text has a first occurrence (`exists_first`): before it, and even with all but its last character,
the pattern is not there, so no search finds it earlier (`not_prefix_of_first`). A pattern that ends with a pair of
characters does not arise where two texts meet, if the pair cannot (`not_infix_append`).
-/
namespace MsxWorkbench.Text

section
variable {pattern before rest s : List Char}

/-- A pattern that does not occur before its own last character occurs first where it stands. -/
theorem not_prefix_of_first (hbefore : before ≠ []) (h : ¬ pattern <:+: before ++ pattern.dropLast) :
    ¬ pattern <+: before ++ (pattern ++ rest) := by
  intro hpattern
  have hlength : pattern.length ≤ (before ++ pattern.dropLast).length := by
    have hpos := List.length_pos_of_ne_nil hbefore
    rw [List.length_append, List.length_dropLast]
    omega
  have hother : before ++ pattern.dropLast <+: before ++ (pattern ++ rest) :=
    (List.prefix_append_right_inj before).2 ((List.dropLast_prefix pattern).trans (List.prefix_append pattern rest))
  exact h (List.prefix_of_prefix_length_le hpattern hother hlength).isInfix

theorem ne_nil_of_first (h : ¬ pattern <:+: before ++ pattern.dropLast) : pattern ≠ [] := by
  rintro rfl
  exact h (List.nil_infix)

theorem exists_first (hpattern : pattern ≠ []) (h : pattern <:+: s) :
    ∃ before rest, s = before ++ (pattern ++ rest) ∧ ¬ pattern <:+: before ++ pattern.dropLast := by
  induction s with
  | nil => exact absurd (List.infix_nil.1 h) hpattern
  | cons c s ih =>
    by_cases hstart : pattern <+: c :: s
    · obtain ⟨rest, hrest⟩ := hstart
      refine ⟨[], rest, hrest.symm, fun hinside => ?_⟩
      have hlength := hinside.length_le
      have hpos := List.length_pos_of_ne_nil hpattern
      rw [List.nil_append, List.length_dropLast] at hlength
      omega
    · obtain ⟨before, rest, rfl, hfirst⟩ := ih ((List.infix_cons_iff.1 h).resolve_left hstart)
      refine ⟨c :: before, rest, rfl, fun hinside => ?_⟩
      rcases List.infix_cons_iff.1 hinside with hfront | hinside
      · refine hstart (hfront.trans ((List.prefix_append_right_inj (c :: before)).2 ?_))
        exact (List.dropLast_prefix pattern).trans (List.prefix_append pattern rest)
      · exact hfirst hinside

end

section
variable {w before tail : List Char} {a b : Char}

/-- A pattern that ends with a pair of characters occurs in two texts put together only if it occurs in the first one, if
the pair occurs in the second, or if the second starts with the end of the pair. -/
theorem not_infix_append (h : ¬ w ++ [a, b] <:+: before) (hpair : ¬ [a, b] <:+: tail) (hhead : tail.head? ≠ some b) :
    ¬ w ++ [a, b] <:+: before ++ tail := by
  rintro ⟨u, v, huv⟩
  have hsplit : (u ++ w) ++ ([a, b] ++ v) = before ++ tail := by
    rw [← huv]
    simp
  obtain ⟨y, hbefore, htail⟩ | ⟨y, -, htail⟩ := List.append_eq_append_iff.1 hsplit
  · rcases y with _ | ⟨c, _ | ⟨d, y⟩⟩
    · exact hpair ⟨[], v, htail⟩
    · have hb : b :: v = tail := (List.cons.inj htail).2
      exact hhead (by rw [← hb]; rfl)
    · cases htail
      exact h ⟨u, y, by rw [hbefore]; simp⟩
  · exact hpair ⟨y, v, by rw [htail, List.append_assoc]⟩

theorem not_infix_of_notMem_left (h : a ∉ tail) : ¬ [a, b] <:+: tail :=
  fun hinside => h (hinside.subset List.mem_cons_self)

theorem not_infix_of_notMem_right (h : b ∉ tail) : ¬ [a, b] <:+: tail :=
  fun hinside => h (hinside.subset (List.mem_cons_of_mem a List.mem_cons_self))

end

end MsxWorkbench.Text
