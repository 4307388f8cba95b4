import Mathlib.Logic.Function.Iterate
import MsxWorkbench.Editor.Find
import MsxWorkbench.Proofs.Editor.Renumber
import MsxWorkbench.Proofs.Editor.Runs
import MsxWorkbench.Proofs.Text.Occurrences
/-
# Replacing in the editor

A text is cut at the occurrences of a part (`Cut`), and replacing puts the pieces together with the new text between them
(`Cut.replaceAll`). The editor replaces in its text with the line break behind it, and takes what it gets for the new text.
So the line break becomes part of the text, each time the button is pressed. Only if the last occurrence ends with that
line break can the text come out as it should, and then it does exactly if the new text is the part without its line break
(`replaceAll_exact_iff`).
-/
namespace MsxWorkbench.Text

/-! ## Occurrences -/

/-- A text cut at the occurrences of a part, from the left: each one is the first behind the one before. -/
inductive Cut (part : List Char) : List Char → List (List Char) → Prop
  | last {s : List Char} : ¬ part <:+: s → Cut part s [s]
  | more {before rest : List Char} {pieces : List (List Char)} : ¬ part <:+: before ++ part.dropLast →
    Cut part rest pieces → Cut part (before ++ (part ++ rest)) (before :: pieces)

section
variable {part new s : List Char} {pieces : List (List Char)}

/-- Every text can be cut. -/
theorem exists_cut (hpart : part ≠ []) (s : List Char) : ∃ pieces, Cut part s pieces := by
  induction hn : s.length using Nat.strongRecOn generalizing s with
  | ind n ih =>
    by_cases h : part <:+: s
    · obtain ⟨before, rest, rfl, hfirst⟩ := exists_first hpart h
      have hpos := List.length_pos_of_ne_nil hpart
      rw [List.length_append, List.length_append] at hn
      obtain ⟨pieces, hpieces⟩ := ih rest.length (by omega) rest rfl
      exact ⟨before :: pieces, .more hfirst hpieces⟩
    · exact ⟨[s], .last h⟩

theorem Cut.ne_nil (h : Cut part s pieces) : pieces ≠ [] := by
  cases h <;> exact List.cons_ne_nil _ _

theorem Cut.eq_singleton (h : Cut part s pieces) (hno : ¬ part <:+: s) : pieces = [s] := by
  cases h with
  | last => rfl
  | more => exact absurd ⟨_, _, List.append_assoc _ _ _⟩ hno

/-! ## Replacing -/

theorem replaceFrom_skip (t s : List Char) : replaceFrom part new t.length (t ++ s) = replaceFrom part new 0 s := by
  induction t with
  | nil => rfl
  | cons c t ih => exact ih

theorem replaceFrom_eq_self (h : ¬ part <:+: s) : replaceFrom part new 0 s = s := by
  induction s with
  | nil => rfl
  | cons c s ih =>
    rw [List.infix_cons_iff, not_or] at h
    rw [replaceFrom, if_neg (by simpa using h.1), ih h.2]

theorem replaceFrom_of_first {before : List Char} (h : ¬ part <:+: before ++ part.dropLast) (rest : List Char) :
    replaceFrom part new 0 (before ++ (part ++ rest)) = before ++ new ++ replaceFrom part new 0 rest := by
  induction before with
  | nil =>
    obtain ⟨c, t, rfl⟩ := List.exists_cons_of_ne_nil (ne_nil_of_first h)
    rw [List.nil_append, List.cons_append, replaceFrom, if_pos (by simp), List.length_cons, Nat.add_sub_cancel,
      replaceFrom_skip, List.nil_append]
  | cons c before ih =>
    have hnot : ¬ part <+: c :: (before ++ (part ++ rest)) := not_prefix_of_first (List.cons_ne_nil c before) h
    rw [List.cons_append, replaceFrom, if_neg (by simpa using hnot), ih fun hinside => h (List.infix_cons hinside)]
    rfl

/-- Replacing puts the new text between the pieces. -/
theorem Cut.replaceAll (h : Cut part s pieces) (hpart : part ≠ []) (new : List Char) :
    replaceAll part new s = new.intercalate pieces := by
  rw [Text.replaceAll, if_neg (by simpa using hpart)]
  induction h with
  | last hno => rw [replaceFrom_eq_self hno, List.intercalate_singleton]
  | more hfirst hrest ih => rw [replaceFrom_of_first hfirst, ih, List.intercalate_cons_of_ne_nil hrest.ne_nil]

/-- A character behind the text belongs to the last piece, unless it completes one more occurrence there. -/
theorem Cut.concat (h : Cut part s pieces) (c : Char) : ∃ front last, pieces = front ++ [last] ∧
    ((¬ part <:+ last ++ [c] ∧ Cut part (s ++ [c]) (front ++ [last ++ [c]])) ∨
      ∃ u, last ++ [c] = u ++ part ∧ Cut part (s ++ [c]) (front ++ [u, []])) := by
  induction h with
  | @last s hno =>
    refine ⟨[], s, rfl, ?_⟩
    by_cases hend : part <:+ s ++ [c]
    · obtain ⟨u, hu⟩ := hend
      have hpart : part ≠ [] := by
        rintro rfl
        exact hno (List.nil_infix)
      have hfirst : u ++ part.dropLast = s := by
        rw [← List.dropLast_append_of_ne_nil hpart, hu, List.dropLast_concat]
      have hcut : Cut part (u ++ (part ++ [])) [u, []] :=
        .more (by rwa [hfirst]) (.last fun hinside => hpart (List.infix_nil.1 hinside))
      rw [List.append_nil, hu] at hcut
      exact Or.inr ⟨u, hu.symm, hcut⟩
    · exact Or.inl ⟨hend, .last fun hinside => (List.infix_concat_iff.1 hinside).elim hend hno⟩
  | @more before rest pieces hfirst hrest ih =>
    obtain ⟨front, last, rfl, hcases⟩ := ih
    refine ⟨before :: front, last, rfl, ?_⟩
    rw [List.append_assoc, List.append_assoc]
    obtain ⟨hend, hcut⟩ | ⟨u, hu, hcut⟩ := hcases
    · exact Or.inl ⟨hend, .more hfirst hcut⟩
    · exact Or.inr ⟨u, hu, .more hfirst hcut⟩

end

theorem intercalate_concat (sep last : List Char) (front : List (List Char)) :
    sep.intercalate (front ++ [last]) = front.flatMap (· ++ sep) ++ last := by
  induction front with
  | nil => exact List.intercalate_singleton
  | cons l front ih =>
    rw [List.cons_append, List.intercalate_cons_of_ne_nil (by simp), ih, List.flatMap_cons]
    simp only [List.append_assoc]

end MsxWorkbench.Text

namespace MsxWorkbench.Editor

open Text (Cut)

/-! ## Pressing the button -/

/-- The editor after the button was pressed, whether a part of the window failed or not. -/
def press (part new : List Char) (s : State) : State := ((replaceAll part new).runOn s).2

section
variable {part new : List Char} (hpart : part ≠ [])
include hpart

/-- The text that is replaced has the line break behind it. -/
theorem text_press (new : List Char) (s : State) :
    (press part new s).buffer.text = Text.replaceAll part new (s.buffer.text ++ ['\n']) := by
  have hreplaced : (press part new s).buffer = s.buffer.replace (Text.replaceAll part new s.buffer.content) := by
    rw [press, replaceAll, if_neg (by simpa using hpart), runOn_bind, edit, runOn_modify]
    exact keepsBuffer_highlight _
  rw [hreplaced, replace_text]
  rfl

/-- The text after the button was pressed is as wanted exactly if the last occurrence ends with the line break behind the
text, and the new text is the part without it. Else the line break is added. -/
theorem press_cut {s : State} {pieces : List (List Char)} (h : Cut part s.buffer.text pieces) (new : List Char) :
    ∃ front last, pieces = front ++ [last] ∧
      ((press part new s).buffer.text = new.intercalate pieces ↔ part = new ++ ['\n'] ∧ new <:+ last) ∧
      (¬ part <:+ last ++ ['\n'] → (press part new s).buffer.text = new.intercalate pieces ++ ['\n']) := by
  obtain ⟨front, last, rfl, ⟨hend, hcut⟩ | ⟨u, hu, hcut⟩⟩ := h.concat '\n'
  · refine ⟨front, last, rfl, ?_⟩
    have htext : (press part new s).buffer.text = new.intercalate (front ++ [last]) ++ ['\n'] := by
      rw [text_press hpart, hcut.replaceAll hpart, Text.intercalate_concat, Text.intercalate_concat, List.append_assoc]
    refine ⟨?_, fun _ => htext⟩
    rw [htext]
    refine iff_of_false (by simp) ?_
    rintro ⟨rfl, v, rfl⟩
    exact hend ⟨v, by rw [List.append_assoc]⟩
  · refine ⟨front, last, rfl, ?_, fun hend => absurd ⟨u, hu.symm⟩ hend⟩
    have htext : (press part new s).buffer.text = front.flatMap (· ++ new) ++ (u ++ new) := by
      rw [text_press hpart, hcut.replaceAll hpart, ← List.singleton_append (x := u), ← List.append_assoc,
        Text.intercalate_concat, List.flatMap_append, List.append_nil]
      simp
    rw [htext, Text.intercalate_concat, List.append_cancel_left_eq]
    constructor
    · rintro rfl
      rw [List.append_assoc, List.append_cancel_left_eq] at hu
      exact ⟨hu.symm, List.suffix_append u new⟩
    · rintro ⟨rfl, -⟩
      rw [← List.append_assoc, List.append_cancel_right_eq] at hu
      exact hu.symm

theorem text_presses_of_fixed {s : State} (h : (press part new s).buffer.text = s.buffer.text) (n : Nat) :
    ((press part new)^[n] s).buffer.text = s.buffer.text := by
  rw [text_press hpart] at h
  induction n with
  | zero => rfl
  | succ n ih => rw [Function.iterate_succ_apply', text_press hpart, ih, h]

theorem absent_concat_feed (hfeed : '\n' ∉ part) {s : List Char} (h : ¬ part <:+: s) : ¬ part <:+: s ++ ['\n'] := by
  intro hinside
  rcases List.infix_concat_iff.1 hinside with hend | hinside
  · obtain rfl | ⟨t, rfl, -⟩ := List.suffix_concat_iff.1 hend
    · exact hpart rfl
    · exact hfeed (by simp)
  · exact h hinside

/-- A part that does not occur is not replaced, and each press adds a line break. -/
theorem text_presses_of_absent (hfeed : '\n' ∉ part) {s : State} (h : ¬ part <:+: s.buffer.text) (n : Nat) :
    ((press part new)^[n] s).buffer.text = s.buffer.text ++ List.replicate n '\n' ∧
      ¬ part <:+: s.buffer.text ++ List.replicate n '\n' := by
  induction n with
  | zero => exact ⟨(List.append_nil _).symm, by rwa [List.replicate_zero, List.append_nil]⟩
  | succ n ih =>
    have hno := absent_concat_feed hpart hfeed ih.2
    rw [List.append_assoc, ← List.replicate_succ'] at hno
    refine ⟨?_, hno⟩
    rw [Function.iterate_succ_apply', text_press hpart, ih.1, List.append_assoc, ← List.replicate_succ',
      (Cut.last hno).replaceAll hpart, List.intercalate_singleton]

/-- **Replacing all is a replacement and a line break.** In every state of the editor the text is cut at the occurrences
of the part. After the button was pressed it consists of the pieces with the new text between them exactly if the part is
the new text with a line break behind it, and the last piece ends with the new text. If the last piece and a line break do
not end with the part, the line break has been added. So where the part does not occur, the text stays the same in exactly
this case, however often the button is pressed; a part without line breaks makes it longer by one with each press. -/
theorem replaceAll_exact_iff (new : List Char) (s : State) :
    let text := s.buffer.text
    let pressed := fun n => ((press part new)^[n] s).buffer.text
    ∃ front last, Cut part text (front ++ [last]) ∧
      (pressed 1 = new.intercalate (front ++ [last]) ↔ part = new ++ ['\n'] ∧ new <:+ last) ∧
      (¬ part <:+ last ++ ['\n'] → pressed 1 = new.intercalate (front ++ [last]) ++ ['\n']) ∧
      (¬ part <:+: text → ((∀ n, pressed n = text) ↔ part = new ++ ['\n'] ∧ new <:+ text)) ∧
      ('\n' ∉ part → ¬ part <:+: text → ∀ n, pressed n = text ++ List.replicate n '\n') := by
  intro text pressed
  obtain ⟨pieces, hcut⟩ := Text.exists_cut hpart text
  obtain ⟨front, last, rfl, hexact, hadded⟩ := press_cut hpart hcut new
  refine ⟨front, last, hcut, hexact, hadded, fun hno => ?_, fun hfeed hno n =>
    (text_presses_of_absent hpart hfeed hno n).1⟩
  -- the whole text is the last piece
  have hpieces : front ++ [last] = [] ++ [text] := hcut.eq_singleton hno
  obtain ⟨rfl, hlast⟩ := List.append_inj' hpieces rfl
  obtain rfl : last = text := List.singleton_inj.1 hlast
  rw [List.nil_append, List.intercalate_singleton] at hexact
  rw [← hexact]
  exact ⟨fun hall => hall 1, fun hfixed => text_presses_of_fixed hpart hfixed⟩

end

/-- A part that ends with a line break, and does not occur in the text itself: the text stays as it is. -/
theorem replaceAll_exact_last :
    ['D', '\n'] ≠ [] ∧ ¬ ['D', '\n'] <:+: "10 END".toList ∧
      ((press ['D', '\n'] ['D'])^[3] (editorOn "10 END".toList true)).buffer.text = "10 END".toList := by
  obtain ⟨-, -, -, -, -, hfixed, -⟩ :=
    @replaceAll_exact_iff ['D', '\n'] (by decide) ['D'] (editorOn "10 END".toList true)
  have hno : ¬ ['D', '\n'] <:+: "10 END".toList := by decide
  exact ⟨by decide, hno, (hfixed hno).2 ⟨rfl, by decide⟩ 3⟩

/-- A text in which the part does not occur gets longer. -/
theorem replaceAll_adds_feed :
    ¬ ['x'] <:+: "abc".toList ∧
      (press ['x'] ['y'] (editorOn "abc".toList true)).buffer.text = "abc\n".toList ∧
      Text.replaceAll ['x'] ['y'] "abc".toList = "abc".toList := by
  refine ⟨by decide, ?_, by decide⟩
  rw [text_press (by decide)]
  decide

end MsxWorkbench.Editor
