import Mathlib.Data.List.Basic
import MsxWorkbench.Proofs.Program.Literals
/-
# Texts with changed references

A change that puts numbers in the place of numbers leaves each reference a reference, with the changed numbers
(`referenceNumbers_changeAll`). A second change therefore acts on what the first has written (`changeAll_changeAll`), and
only the numbers in references decide what a change does (`changeAll_congr`). No blank comes to the ends of a text
(`trim_changeAll`).
-/
namespace MsxWorkbench.Program

open Text (isBlank isDigit)

section
variable {f g : List Char → List Char} {word form gap list rest : List Char} {numbers : List (List Char)}

/-- All passes together make no new reference. -/
theorem reference?_changeAll {c : Char} {s : List Char}
    (h : ∀ word ∈ referenceWords, reference? word (c :: s) = none) :
    ∀ word ∈ referenceWords, reference? word (c :: changeAll f s) = none :=
  changeAll_preserves (P := fun t => ∀ word ∈ referenceWords, reference? word (c :: t) = none)
    (fun _ hw _ ht _ ho => reference?_changeRefs hw ho (ht _ ho)) h

/-- Only the numbers in references decide what a change makes of a text. -/
theorem changeAll_congr {s : List Char} (hf : ∀ d, IsNumber d → ∀ c ∈ f d, Text.isLatin c = false)
    (hg : ∀ d, IsNumber d → ∀ c ∈ g d, Text.isLatin c = false)
    (h : ∀ word ∈ referenceWords, ∀ d ∈ referenceNumbers word s, f d = g d) : changeAll f s = changeAll g s := by
  have hleft : updateReferences (fun d => .ok (f d)) s = .ok (changeAll f s) :=
    updateReferences_eq_ok hf fun _ _ _ _ => rfl
  have hright : updateReferences (fun d => .ok (f d)) s = .ok (changeAll g s) :=
    updateReferences_eq_ok hg fun word hw d hd => by rw [h word hw d hd]
  exact Except.ok.inj (hleft.symm.trans hright)

section
variable (hf : ∀ d, IsNumber d → IsNumber (f d))
include hf

theorem not_latin_of_isNumber : ∀ d, IsNumber d → ∀ c ∈ f d, Text.isLatin c = false :=
  fun d hd c hc => Text.isLatin_of_isDigit ((hf d hd).2 c hc)

/-- A reference is left as one with the changed numbers. -/
theorem Refers.changeAll_numbers (h : Refers word form gap numbers list rest) :
    Refers word form gap (numbers.map f) ([',', ' '].intercalate (numbers.map f)) (changeAll f rest) := by
  refine { h with list := listText_intercalate (by simpa using h.list.ne_nil) fun d hd => ?_,
                  stops := goesOn_changeAll.not.2 h.stops }
  obtain ⟨e, he, rfl⟩ := List.mem_map.1 hd
  exact hf e (h.list.isNumber e he)

/-- The numbers in the references of a changed text are the changed numbers. -/
theorem referenceNumbers_changeAll (hw : word ∈ referenceWords) (s : List Char) :
    referenceNumbers word (changeAll f s) = (referenceNumbers word s).map f := by
  have hlatin := not_latin_of_isNumber hf
  induction s using induction_refers referenceWords (fun _ h => h) with
  | nil => rw [changeAll_nil, referenceNumbers_nil, List.map_nil]
  | refers w hmem form gap numbers list rest href ih =>
    rw [href.changeAll_eq hmem hlatin]
    by_cases hself : w = word
    · subst hself
      rw [(href.changeAll_numbers hf).referenceNumbers_eq hmem, href.referenceNumbers_eq hmem, ih, List.map_append]
    · rw [href.toLeads.referenceNumbers_other hmem hw hself (not_latin_intercalate hlatin href.list.isNumber),
        href.toLeads.referenceNumbers_other hmem hw hself href.list.not_latin, ih]
  | cons c s hnone ih =>
    rw [changeAll_cons hnone, referenceNumbers_cons (reference?_changeAll hnone word hw),
      referenceNumbers_cons (hnone word hw), ih]

/-- A second change acts on the numbers that the first has written. -/
theorem changeAll_changeAll (hg : ∀ d, IsNumber d → ∀ c ∈ g d, Text.isLatin c = false) (s : List Char) :
    changeAll g (changeAll f s) = changeAll (fun d => g (f d)) s := by
  have hlatin := not_latin_of_isNumber hf
  induction s using induction_refers referenceWords (fun _ h => h) with
  | nil => rw [changeAll_nil, changeAll_nil, changeAll_nil]
  | refers w hmem form gap numbers list rest href ih =>
    rw [href.changeAll_eq hmem hlatin, (href.changeAll_numbers hf).changeAll_eq hmem hg, ih, List.map_map,
      href.changeAll_eq hmem fun d hd => hg (f d) (hf d hd)]
    rfl
  | cons c s hnone ih => rw [changeAll_cons hnone, changeAll_cons (reference?_changeAll hnone), changeAll_cons hnone, ih]

/-- A change leaves the first character of a text. -/
theorem head?_changeAll (s : List Char) : (changeAll f s).head? = s.head? := by
  induction s using induction_refers referenceWords (fun _ h => h) with
  | nil => rw [changeAll_nil]
  | refers w hmem form gap numbers list rest href _ =>
    rw [href.changeAll_eq hmem (not_latin_of_isNumber hf)]
    obtain ⟨c, form, rfl⟩ := List.exists_cons_of_ne_nil (form_ne_nil hmem href.word)
    rfl
  | cons c s hnone _ => rw [changeAll_cons hnone, List.head?_cons, List.head?_cons]

theorem changeAll_ne_nil {s : List Char} (hs : s ≠ []) : changeAll f s ≠ [] := by
  intro h
  have hhead := head?_changeAll hf s
  rw [h] at hhead
  exact hs (List.head?_eq_none_iff.1 hhead.symm)

/-- A change puts no blank at the end of a text. -/
theorem getLast?_changeAll {s : List Char} (hs : ∀ c ∈ s.getLast?, isBlank c = false) :
    ∀ c ∈ (changeAll f s).getLast?, isBlank c = false := by
  have hend : ∀ {u t : List Char}, t ≠ [] → (u ++ t).getLast? = t.getLast? := fun ht =>
    List.getLast?_append_of_ne_nil _ ht
  induction s using induction_refers referenceWords (fun _ h => h) with
  | nil => rwa [changeAll_nil]
  | refers w hmem form gap numbers list rest href ih =>
    rw [href.changeAll_eq hmem (not_latin_of_isNumber hf)]
    simp only [← List.append_assoc] at hs ⊢
    by_cases hrest : rest = []
    · -- the text ends with the last digit of the list
      obtain ⟨front, d, hfront, hd⟩ := (href.changeAll_numbers hf).list.exists_last
      rw [hrest, changeAll_nil, List.append_nil, hfront, hend (List.append_ne_nil_of_right_ne_nil _ (List.cons_ne_nil d [])),
        List.getLast?_concat]
      intro c hc
      rw [← Option.some.inj hc]
      exact Text.isBlank_of_isDigit hd
    · rw [hend (changeAll_ne_nil hf hrest)]
      rw [hend hrest] at hs
      exact ih hs
  | cons c s hnone ih =>
    rw [changeAll_cons hnone]
    by_cases hs' : s = []
    · rwa [hs', changeAll_nil, ← hs']
    · rw [← List.singleton_append, hend (changeAll_ne_nil hf hs')]
      rw [← List.singleton_append, hend hs'] at hs
      exact ih hs

/-- A text without blanks around it has none after a change. -/
theorem trim_changeAll {s : List Char} (hs : Text.trim s = s) : Text.trim (changeAll f s) = changeAll f s := by
  rw [Text.trim_eq_self_iff] at hs ⊢
  rw [head?_changeAll hf]
  exact ⟨hs.1, getLast?_changeAll hf hs.2⟩

end

end

end MsxWorkbench.Program
