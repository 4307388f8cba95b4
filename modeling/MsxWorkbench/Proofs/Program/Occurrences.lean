import MsxWorkbench.Proofs.Program.CodePass
import MsxWorkbench.Proofs.Text.Rows
/-
# Where references are changed

A word of references with a list of numbers behind it, anywhere in a text. If a blank comes between them,
the numbers are changed and what stands before and behind is changed on its own (`changeAll_spaced`). If
none does, the list stays as it is (`changeAll_glued`).
-/
namespace MsxWorkbench.Program

open Text (isBlank isDigit capital)

/-- The text after the passes for some words. -/
def passes (f : List Char → List Char) (words : List (List Char)) (s : List Char) : List Char :=
  words.foldl (fun t word => changeRefs f word t) s

theorem passes_cons (f : List Char → List Char) (word : List Char) (words : List (List Char)) (s : List Char) :
    passes f (word :: words) s = passes f words (changeRefs f word s) := rfl

theorem changeAll_eq_passes (f : List Char → List Char) (s : List Char) :
    changeAll f s = passes f referenceWords s := rfl

section
variable {f : List Char → List Char} {word form gap list pre post : List Char} {numbers : List (List Char)}

/-- What every pass leaves between two texts stays between them. -/
theorem passes_fixed {mid : List Char} : ∀ {words : List (List Char)},
    (∀ w ∈ words, ∀ pre post, changeRefs f w (pre ++ (mid ++ post)) =
      changeRefs f w pre ++ (mid ++ changeRefs f w post)) →
    ∀ pre post, passes f words (pre ++ (mid ++ post)) = passes f words pre ++ (mid ++ passes f words post)
  | [], _, _, _ => rfl
  | w :: words, hwords, pre, post => by
    rw [passes_cons, passes_cons, passes_cons, hwords w List.mem_cons_self,
      passes_fixed fun v hv => hwords v (List.mem_cons_of_mem _ hv)]

/-! ## With a blank -/

theorem Leads.divides {other tail : List Char} (hw : word ∈ referenceWords) (ho : other ∈ referenceWords)
    (h : Leads word form gap) : Divides other (form ++ (gap ++ tail)) := by
  obtain ⟨b, gap, rfl⟩ := List.exists_cons_of_ne_nil h.gap_ne
  exact divides_form ho hw h.word (Text.isLatin_of_isBlank (h.blank b List.mem_cons_self))

/-- The passes for other words go by. -/
theorem Leads.passes_other {tail : List Char} (hw : word ∈ referenceWords) (h : Leads word form gap)
    (htail : ∀ c ∈ tail, Text.isLatin c = false) {words : List (List Char)}
    (hwords : ∀ w ∈ words, w ∈ referenceWords ∧ word ≠ w) :
    passes f words (pre ++ (form ++ (gap ++ (tail ++ post)))) =
      passes f words pre ++ (form ++ (gap ++ (tail ++ passes f words post))) := by
  have hstep : ∀ w ∈ words, ∀ pre post, changeRefs f w (pre ++ ((form ++ (gap ++ tail)) ++ post)) =
      changeRefs f w pre ++ ((form ++ (gap ++ tail)) ++ changeRefs f w post) := by
    intro w hmem pre post
    obtain ⟨hself, hne⟩ := hwords w hmem
    simp only [List.append_assoc]
    rw [changeRefs_append hself (h.divides hw hself), h.changeRefs_other hw hself hne htail]
  simpa only [List.append_assoc] using passes_fixed hstep pre post

theorem goesOn_passes {words : List (List Char)} (hwords : ∀ w ∈ words, w ∈ referenceWords) {s : List Char} :
    GoesOn (passes f words s) ↔ GoesOn s := by
  induction words generalizing s with
  | nil => exact Iff.rfl
  | cons w words ih =>
    rw [passes_cons, ih fun v hv => hwords v (List.mem_cons_of_mem _ hv),
      goesOn_changeRefs (hwords w List.mem_cons_self)]

/-- The numbers of a reference are changed, and the texts on both sides on their own. -/
theorem changeAll_spaced (hw : word ∈ referenceWords)
    (hf : ∀ d, IsNumber d → ∀ c ∈ f d, Text.isLatin c = false) (h : Refers word form gap numbers list post) :
    changeAll f (pre ++ (form ++ (gap ++ (list ++ post)))) =
      changeAll f pre ++ (form ++ (gap ++ ([',', ' '].intercalate (numbers.map f) ++ changeAll f post))) := by
  -- the passes before the word's own, that pass, and those behind
  obtain ⟨before, behind, hsplit, hbefore⟩ := List.eq_append_cons_of_mem hw
  have hnodup : referenceWords.Nodup := by decide
  have hbehind : word ∉ behind := by
    rw [hsplit] at hnodup
    exact (List.nodup_cons.1 (List.nodup_append.1 hnodup).2.1).1
  have hmem : ∀ {w}, w ∈ before ∨ w ∈ behind → w ∈ referenceWords := by
    rintro w (hw | hw)
    · rw [hsplit]; exact List.mem_append_left _ hw
    · rw [hsplit]; exact List.mem_append_right _ (List.mem_cons_of_mem _ hw)
  have hall : ∀ s, changeAll f s = passes f behind (changeRefs f word (passes f before s)) := by
    intro s
    rw [changeAll_eq_passes, hsplit, passes, List.foldl_append]
    rfl
  have hread : Refers word form gap numbers list (passes f before post) :=
    { h with stops := (goesOn_passes fun w hw => hmem (Or.inl hw)).not.2 h.stops }
  rw [hall, hall, hall, h.toLeads.passes_other hw h.list.not_latin fun w hw =>
      ⟨hmem (Or.inl hw), fun heq => hbefore (heq ▸ hw)⟩,
    changeRefs_append hw (h.toLeads.divides hw hw), hread.changeRefs_eq hw,
    h.toLeads.passes_other hw (not_latin_intercalate hf h.list.isNumber) fun w hw =>
      ⟨hmem (Or.inr hw), fun heq => hbehind (heq ▸ hw)⟩]

/-! ## Without a blank -/

/-- At a word with a digit behind it no reference starts. -/
theorem reference?_glued {other : List Char} {e : Char} {u : List Char} (hw : word ∈ referenceWords)
    (ho : other ∈ referenceWords) (hform : form.map capital = word) (he : isDigit e = true) (i : Nat)
    (hi : i ≤ form.length) : reference? other ((form ++ e :: u).drop i) = none := by
  cases hr : reference? other ((form ++ e :: u).drop i) with
  | none => rfl
  | some r =>
    exfalso
    obtain ⟨form', gap', list', rest', heq, href⟩ := exists_refers (isUpper_referenceWords other ho) hr
    obtain ⟨b, gap', rfl⟩ := List.exists_cons_of_ne_nil href.gap_ne
    have hb := href.blank b List.mem_cons_self
    rw [List.drop_append_of_le_length hi, List.cons_append] at heq
    have hstop : NoHead Text.isLatin (e :: u) := by
      intro c hc
      rw [List.head?_cons, Option.mem_some_iff] at hc
      rw [← hc]; exact Text.isLatin_of_isDigit he
    have hletters : form.drop i = form' := by
      have := congrArg (List.takeWhile Text.isLatin) heq
      rwa [takeWhile_append_noHead (fun c hc => isLatin_of_form hw hform (List.mem_of_mem_drop hc)) hstop,
        takeWhile_latin (fun c hc => isLatin_of_form ho href.word hc) hb] at this
    rw [hletters, List.append_cancel_left_eq, List.cons.injEq] at heq
    rw [heq.1, isDigit_of_isBlank hb] at he
    cases he

theorem changeRefs_glued {other : List Char} (hw : word ∈ referenceWords) (ho : other ∈ referenceWords)
    (hform : form.map capital = word) (hlist : ListText numbers list) (pre post : List Char) :
    changeRefs f other (pre ++ (form ++ (list ++ post))) =
      changeRefs f other pre ++ (form ++ (list ++ changeRefs f other post)) := by
  have hnot := hlist.not_latin
  obtain ⟨e, u, rfl, he⟩ := hlist.exists_digit
  have hdivides : Divides other (form ++ (e :: u ++ post)) :=
    divides_form ho hw hform (Text.isLatin_of_isDigit he)
  have hparts : parts other 0 ((form ++ e :: u) ++ post) = (form ++ e :: u).map .char ++ parts other 0 post := by
    refine parts_append fun i hi => ?_
    by_cases hlt : i ≤ form.length
    · rw [List.append_assoc, List.cons_append]
      exact reference?_glued hw ho hform he i hlt
    · obtain ⟨c, v, hdrop, hc⟩ := exists_mem_drop (u := post) (by omega) hi
      rw [List.append_assoc, hdrop]
      exact reference?_of_not_latin ho (hnot c hc) v
  rw [changeRefs_append ho hdivides, ← List.append_assoc form, changeRefs, changeRefs, hparts,
    List.flatMap_append, flatMap_change_map_char, changeRefs]
  simp only [List.append_assoc]

/-- A list right behind a word is not changed. -/
theorem changeAll_glued (hw : word ∈ referenceWords) (hform : form.map capital = word)
    (hlist : ListText numbers list) :
    changeAll f (pre ++ (form ++ (list ++ post))) = changeAll f pre ++ (form ++ (list ++ changeAll f post)) := by
  have hstep : ∀ w ∈ referenceWords, ∀ pre post, changeRefs f w (pre ++ ((form ++ list) ++ post)) =
      changeRefs f w pre ++ ((form ++ list) ++ changeRefs f w post) := by
    intro w hmem pre post
    simpa only [List.append_assoc] using changeRefs_glued hw hmem hform hlist pre post
  simpa only [List.append_assoc, changeAll_eq_passes] using passes_fixed hstep pre post

end

end MsxWorkbench.Program
