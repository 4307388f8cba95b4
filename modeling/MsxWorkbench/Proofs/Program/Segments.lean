import MsxWorkbench.Program.Segment
import Mathlib.Data.List.Chain
/-
# Joined pieces

A list of pieces is a text in which every character has the kind of its piece (`Segment.coloured`). Joining keeps
this text and leaves no piece empty and no two neighbours of one kind (`joined_join`). There is only one such list
for a coloured text, so two lists of pieces are joined to the same one exactly if they are the same coloured text
(`join_eq_join_iff`).
-/
namespace MsxWorkbench.Program.Segment

/-! ## Coloured text -/

/-- The characters of the pieces, each with the kind of its piece. -/
def coloured (pieces : List Segment) : List (Kind × Char) := pieces.flatMap fun s => s.text.map (s.kind, ·)

@[simp] theorem coloured_nil : coloured [] = [] := rfl

@[simp] theorem coloured_cons (s : Segment) (pieces : List Segment) :
    coloured (s :: pieces) = s.text.map (s.kind, ·) ++ coloured pieces := rfl

@[simp] theorem coloured_append (a b : List Segment) : coloured (a ++ b) = coloured a ++ coloured b :=
  List.flatMap_append

theorem map_snd_coloured (pieces : List Segment) : (coloured pieces).map Prod.snd = textOf pieces := by
  induction pieces with
  | nil => rfl
  | cons s pieces ih =>
    rw [coloured_cons, List.map_append, ih, List.map_map]
    exact congrArg (· ++ textOf pieces) (List.map_id s.text)

theorem coloured_push (s : Segment) (pieces : List Segment) : coloured (s.push pieces) = coloured (s :: pieces) := by
  obtain ⟨kind, text⟩ := s
  cases pieces with
  | nil => cases text <;> rfl
  | cons t pieces =>
    cases text with
    | nil => rfl
    | cons c text =>
      simp only [push, List.isEmpty_cons, Bool.false_eq_true, if_false]
      split
      · rename_i hkind
        simp [hkind]
      · rfl

/-- Joining keeps the characters and their kinds. -/
theorem coloured_join (pieces : List Segment) : coloured (join pieces) = coloured pieces := by
  induction pieces with
  | nil => rfl
  | cons s pieces ih => rw [join, List.foldr_cons, coloured_push, coloured_cons, coloured_cons, ← ih, join]

/-- Joining pieces does not change their text. -/
theorem textOf_join (pieces : List Segment) : textOf (join pieces) = textOf pieces := by
  rw [← map_snd_coloured, coloured_join, map_snd_coloured]

/-- The text of the pieces of one kind. -/
def textIn (kind : Kind) (pieces : List Segment) : List Char :=
  ((coloured pieces).filter fun p => p.1 = kind).map Prod.snd

@[simp] theorem textIn_nil (kind : Kind) : textIn kind [] = [] := rfl

@[simp] theorem textIn_cons (kind : Kind) (s : Segment) (pieces : List Segment) :
    textIn kind (s :: pieces) = (if s.kind = kind then s.text else []) ++ textIn kind pieces := by
  by_cases hkind : s.kind = kind
  · simp [textIn, hkind, List.filter_map, Function.comp_def]
  · simp [textIn, hkind, List.filter_map, Function.comp_def]

@[simp] theorem textIn_append (kind : Kind) (a b : List Segment) :
    textIn kind (a ++ b) = textIn kind a ++ textIn kind b := by
  simp [textIn]

theorem textIn_eq_nil {kind : Kind} {pieces : List Segment} (h : ∀ s ∈ pieces, s.kind ≠ kind) :
    textIn kind pieces = [] := by
  induction pieces with
  | nil => rfl
  | cons s pieces ih =>
    rw [textIn_cons, if_neg (h s List.mem_cons_self), ih fun t ht => h t (List.mem_cons_of_mem _ ht)]
    rfl

theorem textIn_of_join {a b : List Segment} (h : join a = join b) (kind : Kind) : textIn kind a = textIn kind b := by
  rw [textIn, ← coloured_join, h, coloured_join, textIn]

/-! ## The normal form -/

/-- No piece is empty, and no two neighbours are of one kind. -/
structure Joined (pieces : List Segment) : Prop where
  text_ne : ∀ s ∈ pieces, s.text ≠ []
  kind_ne : pieces.IsChain fun s t => s.kind ≠ t.kind

theorem Joined.push {pieces : List Segment} (h : Joined pieces) (s : Segment) : Joined (s.push pieces) := by
  by_cases hs : s.text = []
  · have hpush : s.push pieces = pieces := by cases pieces <;> simp [Segment.push, hs]
    rwa [hpush]
  · cases pieces with
    | nil =>
      have hpush : s.push [] = [s] := by simp [Segment.push, hs]
      rw [hpush]
      exact ⟨by simpa using hs, .singleton _⟩
    | cons t pieces =>
      by_cases hkind : s.kind = t.kind
      · have hpush : s.push (t :: pieces) = ⟨s.kind, s.text ++ t.text⟩ :: pieces := by
          simp [Segment.push, hs, hkind]
        rw [hpush]
        refine ⟨?_, ?_⟩
        · intro u hu
          rcases List.mem_cons.1 hu with rfl | hu
          · simp [hs]
          · exact h.text_ne u (List.mem_cons_of_mem _ hu)
        · have := h.kind_ne
          cases pieces with
          | nil => exact .singleton _
          | cons u pieces =>
            simp only [List.isChain_cons_cons] at this ⊢
            rwa [hkind]
      · have hpush : s.push (t :: pieces) = s :: t :: pieces := by simp [Segment.push, hs, hkind]
        rw [hpush]
        refine ⟨?_, .cons_cons hkind h.kind_ne⟩
        intro u hu
        rcases List.mem_cons.1 hu with rfl | hu
        · exact hs
        · exact h.text_ne u hu

theorem joined_join (pieces : List Segment) : Joined (join pieces) := by
  induction pieces with
  | nil => exact ⟨by simp [join], .nil⟩
  | cons s pieces ih => exact ih.push s

theorem Joined.tail {s : Segment} {pieces : List Segment} (h : Joined (s :: pieces)) : Joined pieces :=
  ⟨fun t ht => h.text_ne t (List.mem_cons_of_mem _ ht), h.kind_ne.tail⟩

/-- The first piece takes the characters of its kind at the start. -/
theorem Joined.takeWhile {s : Segment} {pieces : List Segment} (h : Joined (s :: pieces)) :
    (coloured (s :: pieces)).takeWhile (fun p => p.1 = s.kind) = s.text.map (s.kind, ·) := by
  rw [coloured_cons, List.takeWhile_append_of_pos (by simp)]
  cases pieces with
  | nil => simp
  | cons t pieces =>
    obtain ⟨c, text, htext⟩ := List.exists_cons_of_ne_nil (h.text_ne t (by simp))
    have hne := (List.isChain_cons_cons.1 h.kind_ne).1
    simp [coloured, htext, Ne.symm hne]

/-- A coloured text has only one normal form. -/
theorem Joined.eq_of_coloured : ∀ {a b : List Segment}, Joined a → Joined b → coloured a = coloured b → a = b
  | [], [], _, _, _ => rfl
  | [], t :: b, _, hb, h => by
    have := hb.text_ne t (by simp)
    simp_all [coloured]
  | s :: a, [], ha, _, h => by
    have := ha.text_ne s (by simp)
    simp_all [coloured]
  | ⟨kind, text⟩ :: a, ⟨kind', text'⟩ :: b, ha, hb, h => by
    obtain ⟨c, rest, rfl⟩ := List.exists_cons_of_ne_nil (ha.text_ne _ List.mem_cons_self)
    obtain ⟨c', rest', rfl⟩ := List.exists_cons_of_ne_nil (hb.text_ne _ List.mem_cons_self)
    have hkind : kind = kind' := by
      simp only [coloured_cons, List.map_cons, List.cons_append, List.cons.injEq, Prod.mk.injEq] at h
      exact h.1.1
    subst hkind
    have htext : c :: rest = c' :: rest' := by
      have hmap := ha.takeWhile.symm.trans ((congrArg _ h).trans hb.takeWhile)
      exact (List.map_inj_right fun x y hxy => (Prod.mk.inj hxy).2).1 hmap
    rw [htext] at h ⊢
    rw [ha.tail.eq_of_coloured hb.tail (List.append_cancel_left h)]

/-- Lists of pieces are joined to the same list exactly if they are the same coloured text. -/
theorem join_eq_join_iff {a b : List Segment} : join a = join b ↔ coloured a = coloured b := by
  constructor
  · intro h
    rw [← coloured_join a, h, coloured_join]
  · intro h
    refine (joined_join a).eq_of_coloured (joined_join b) ?_
    rw [coloured_join, coloured_join, h]

end MsxWorkbench.Program.Segment
