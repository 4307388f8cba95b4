import Mathlib.Data.Nat.Bitwise
import MsxWorkbench.Picture.Image
/-
# Drawn images

Images are drawn stroke by stroke, and a later stroke covers an earlier one. Where all strokes on a pixel have the same
colour their order does not matter: the pixel has that colour (`pixel_drawn`). The renderers of this project differ in how
they come to their strokes and which bits they test (`columnBit_eq_one_iff`, `isLit_eq`); that every pixel gets the colour
that it should is shown for each of them from this one fact.
-/
namespace MsxWorkbench.Picture

section
variable {width x y : Nat} {sheet : Array Color} {c : Color}

/-- Inside a sheet a place belongs to one pixel. -/
theorem place_eq_iff {s : Stroke} (hs : s.x < width) (hx : x < width) :
    s.y * width + s.x = y * width + x ↔ s.x = x ∧ s.y = y := by
  have hrow : ∀ {a b : Nat}, b < width → (a * width + b) / width = a ∧ (a * width + b) % width = b := by
    intro a b hb
    have hpos : 0 < width := by omega
    constructor
    · rw [Nat.mul_comm, Nat.mul_add_div hpos, Nat.div_eq_of_lt hb, Nat.add_zero]
    · rw [Nat.mul_comm, Nat.mul_add_mod, Nat.mod_eq_of_lt hb]
  constructor
  · intro h
    have hplace := hrow (a := s.y) hs
    rw [h] at hplace
    exact ⟨hplace.2.symm.trans (hrow hx).2, hplace.1.symm.trans (hrow hx).1⟩
  · rintro ⟨rfl, rfl⟩
    rfl

theorem getD_paintOn {s : Stroke} (hs : s.x < width) (hx : x < width) (hin : y * width + x < sheet.size) :
    (paintOn width sheet s).getD (y * width + x) .black =
      if s.x = x ∧ s.y = y then s.color else sheet.getD (y * width + x) .black := by
  unfold paintOn
  rw [Array.getD_eq_getD_getElem?, Array.getElem?_setIfInBounds, Array.getD_eq_getD_getElem?]
  by_cases hat : s.x = x ∧ s.y = y
  · have hplace := (place_eq_iff hs hx).2 hat
    rw [if_pos hplace, if_pos (by rwa [hplace]), if_pos hat, Option.getD_some]
  · rw [if_neg fun hplace => hat ((place_eq_iff hs hx).1 hplace), if_neg hat]

/-- After strokes that agree on a pixel it has their colour, and if there are none the one it had. -/
theorem getD_foldl_paintOn (hx : x < width) : ∀ {strokes : List Stroke} {sheet : Array Color},
    y * width + x < sheet.size → (∀ s ∈ strokes, s.x < width) →
    (∀ s ∈ strokes, s.x = x → s.y = y → s.color = c) →
    ((∀ s ∈ strokes, ¬ (s.x = x ∧ s.y = y)) → sheet.getD (y * width + x) .black = c) →
      (strokes.foldl (paintOn width) sheet).getD (y * width + x) .black = c
  | [], _, _, _, _, hbefore => hbefore (by simp)
  | s :: strokes, sheet, hin, hfit, hcolor, hbefore => by
    have hpainted := getD_paintOn (hfit s List.mem_cons_self) hx hin
    rw [List.foldl_cons]
    refine getD_foldl_paintOn hx (by simpa [paintOn] using hin) (fun t ht => hfit t (List.mem_cons_of_mem s ht))
      (fun t ht => hcolor t (List.mem_cons_of_mem s ht)) fun hnone => ?_
    rw [hpainted]
    by_cases hat : s.x = x ∧ s.y = y
    · rw [if_pos hat]
      exact hcolor s List.mem_cons_self hat.1 hat.2
    · rw [if_neg hat]
      exact hbefore (List.forall_mem_cons.2 ⟨hat, hnone⟩)

/-- A pixel of a drawn image has the colour on which the strokes for it agree, and is black if there are none. -/
theorem pixel_drawn {height : Nat} {strokes : List Stroke} (hx : x < width) (hy : y < height)
    (hfit : ∀ s ∈ strokes, s.x < width) (hcolor : ∀ s ∈ strokes, s.x = x → s.y = y → s.color = c)
    (hblack : (∀ s ∈ strokes, ¬ (s.x = x ∧ s.y = y)) → c = .black) : (drawn width height strokes).pixel x y = c := by
  have hin : y * width + x < (Array.replicate (width * height) Color.black).size := by
    have hle : (y + 1) * width ≤ height * width := Nat.mul_le_mul_right _ hy
    rw [Array.size_replicate, Nat.mul_comm width]
    rw [Nat.add_mul] at hle
    omega
  refine getD_foldl_paintOn hx hin hfit hcolor fun hnone => ?_
  rw [hblack hnone, Array.getD_eq_getD_getElem?, Array.getElem?_replicate]
  split <;> rfl

end

/-! ## The bits of a byte -/

theorem columnBit_eq_one_iff (b : UInt8) (column : Nat) : columnBit b column = 1 ↔ bitAt b column = true := by
  unfold columnBit bitAt
  rw [Nat.testBit_eq_decide_div_mod_eq, Nat.shiftRight_eq_div_pow, Nat.and_one_is_mod, decide_eq_true_iff]

theorem isLit_eq (b : UInt8) {column : Nat} (h : column < 8) : isLit b column = bitAt b column := by
  have hmask : 0x80 >>> column = 2 ^ (7 - column) := by
    rw [Nat.shiftRight_eq_div_pow, show 0x80 = 2 ^ 7 from rfl, Nat.pow_div (by omega) (by decide)]
  unfold isLit bitAt
  rw [hmask, Nat.and_two_pow]
  cases b.toNat.testBit (7 - column)
  · simp
  · simp

end MsxWorkbench.Picture
