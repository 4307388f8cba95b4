import MsxWorkbench.Proofs.Program.ReferencePass
/-
# The code of a changed line

An analysis reads the code of a line: the text with its strings emptied, up to the first remark. The code
of a changed text is the changed code (`codeOf_changeRefs`), because no reference reaches across a quote
or a remark and no change makes or removes one.
-/
namespace MsxWorkbench.Program

open Text (isBlank isDigit capital)

/-! ## Strings -/

theorem emptyStrings_append {u : List Char} (hu : '"' ∉ u) (s : List Char) :
    emptyStrings (u ++ s) = u ++ emptyStrings s := by
  induction u with
  | nil => rfl
  | cons c u ih =>
    rw [List.mem_cons, not_or] at hu
    rw [List.cons_append, emptyStrings, if_neg (Ne.symm hu.1), ih hu.2, List.cons_append]

theorem emptyStrings_plain {u : List Char} (hu : '"' ∉ u) : emptyStrings u = u := by
  have h := emptyStrings_append hu []
  rwa [List.append_nil, emptyStrings, List.append_nil] at h

theorem dropWhile_ne_quote {v : List Char} (hv : '"' ∉ v) (t : List Char) :
    (v ++ t).dropWhile (· != '"') = t.dropWhile (· != '"') := by
  refine List.dropWhile_append_of_pos fun c hc => ?_
  rw [bne_iff_ne]
  rintro rfl
  exact hv hc

theorem emptyStrings_closed {v : List Char} (hv : '"' ∉ v) (t : List Char) :
    emptyStrings ('"' :: (v ++ '"' :: t)) = '"' :: '"' :: emptyStrings t := by
  rw [emptyStrings, if_pos rfl]
  split
  · rename_i h
    rw [dropWhile_ne_quote hv, List.dropWhile_cons_of_neg (by simp)] at h
    cases h
  · rename_i q after h
    rw [dropWhile_ne_quote hv, List.dropWhile_cons_of_neg (by simp), List.cons.injEq] at h
    rw [h.2]

theorem emptyStrings_unclosed {v : List Char} (hv : '"' ∉ v) : emptyStrings ('"' :: v) = '"' :: v := by
  have hdrop := dropWhile_ne_quote hv []
  rw [List.append_nil, List.dropWhile_nil] at hdrop
  rw [emptyStrings, if_pos rfl]
  split
  · rfl
  · rename_i h
    rw [hdrop] at h
    cases h

/-- Cuts a text at its strings. -/
theorem induction_strings {P : List Char → Prop} (plain : ∀ u, '"' ∉ u → P u)
    (unclosed : ∀ u v, '"' ∉ u → '"' ∉ v → P (u ++ '"' :: v))
    (closed : ∀ u v t, '"' ∉ u → '"' ∉ v → P t → P (u ++ '"' :: (v ++ '"' :: t))) (s : List Char) : P s := by
  by_cases hs : '"' ∈ s
  · obtain ⟨u, more, rfl, hu⟩ := List.eq_append_cons_of_mem hs
    by_cases hmore : '"' ∈ more
    · obtain ⟨v, t, rfl, hv⟩ := List.eq_append_cons_of_mem hmore
      exact closed u v t hu hv (induction_strings plain unclosed closed t)
    · exact unclosed u more hu hmore
  · exact plain s hs
termination_by s.length
decreasing_by
  subst_vars
  simp only [List.length_append, List.length_cons]
  omega

section
variable {f : List Char → List Char} {word : List Char}

theorem reference?_of_not_latin (hw : word ∈ referenceWords) {c : Char} (hc : Text.isLatin c = false)
    (s : List Char) : reference? word (c :: s) = none := by
  cases hr : reference? word (c :: s) with
  | none => rfl
  | some r =>
    obtain ⟨form, gap, list, rest, heq, href⟩ := exists_refers (isUpper_referenceWords word hw) hr
    obtain ⟨d, form, rfl⟩ := List.exists_cons_of_ne_nil (form_ne_nil hw href.word)
    rw [List.cons_append, List.cons.injEq] at heq
    rw [heq.1, isLatin_of_form hw href.word List.mem_cons_self] at hc
    cases hc

theorem changeRefs_cons_of_not_latin (hw : word ∈ referenceWords) {c : Char} (hc : Text.isLatin c = false)
    (s : List Char) : changeRefs f word (c :: s) = c :: changeRefs f word s :=
  changeRefs_cons (reference?_of_not_latin hw hc s)

theorem changeRefs_quote (hw : word ∈ referenceWords) (s t : List Char) :
    changeRefs f word (s ++ '"' :: t) = changeRefs f word s ++ '"' :: changeRefs f word t := by
  rw [changeRefs_append hw (divides_cons t hw (by decide) (by decide)),
    changeRefs_cons_of_not_latin hw (by decide)]

theorem quote_notMem_changeRefs (hw : word ∈ referenceWords) (hf : ∀ d, IsNumber d → IsNumber (f d))
    {s : List Char} (hs : '"' ∉ s) : '"' ∉ changeRefs f word s := by
  intro h
  rcases mem_changeRefs hw h with h | ⟨d, hd, h⟩ | h | h
  · exact hs h
  · have := (hf d hd).2 _ h
    revert this
    decide
  · cases h
  · cases h

theorem emptyStrings_changeRefs (hw : word ∈ referenceWords) (hf : ∀ d, IsNumber d → IsNumber (f d))
    (s : List Char) : emptyStrings (changeRefs f word s) = changeRefs f word (emptyStrings s) := by
  induction s using induction_strings with
  | plain u hu => rw [emptyStrings_plain hu, emptyStrings_plain (quote_notMem_changeRefs hw hf hu)]
  | unclosed u v hu hv =>
    have hu' := quote_notMem_changeRefs hw hf hu
    have hv' := quote_notMem_changeRefs hw hf hv
    rw [emptyStrings_append hu, emptyStrings_unclosed hv, changeRefs_quote hw, emptyStrings_append hu',
      emptyStrings_unclosed hv']
  | closed u v t hu hv ih =>
    have hu' := quote_notMem_changeRefs hw hf hu
    have hv' := quote_notMem_changeRefs hw hf hv
    rw [emptyStrings_append hu, emptyStrings_closed hv, changeRefs_quote hw, changeRefs_quote hw,
      emptyStrings_append hu', emptyStrings_closed hv', ih, changeRefs_quote hw,
      changeRefs_cons_of_not_latin hw (by decide)]

end

/-! ## Remarks -/

theorem sameLetter_of_not_latin {p c : Char} (hp : p.isUpper) (hc : Text.isLatin c = false) :
    Text.sameLetter p c = false := by
  cases h : Text.sameLetter p c with
  | false => rfl
  | true =>
    rw [Text.sameLetter_iff hp] at h
    rw [Text.isLatin_of_isUpper_capital (h ▸ hp)] at hc
    cases hc

theorem atRemark_of_not_latin {c : Char} (hc : Text.isLatin c = false) (hne : c ≠ Text.apostrophe)
    (s : List Char) : atRemark (c :: s) = false := by
  simp [atRemark, hne, Text.startsFolded, sameLetter_of_not_latin (p := 'R') (by decide) hc]

/-- A word is looked for up to the first character that is no letter. -/
theorem startsFolded_append_cons {b : Char} (hb : Text.isLatin b = false) (t : List Char) :
    ∀ {word : List Char}, (∀ p ∈ word, p.isUpper) → ∀ p : List Char,
    Text.startsFolded word (p ++ b :: t) = Text.startsFolded word p
  | [], _, _ => by rw [Text.startsFolded, Text.startsFolded]
  | q :: word, h, [] => by
    have hq := sameLetter_of_not_latin (h q List.mem_cons_self) hb
    rw [List.nil_append, Text.startsFolded, Text.startsFolded, hq, Bool.false_and]
  | q :: word, h, c :: p => by
    have ih := startsFolded_append_cons hb t (fun q hq => h q (List.mem_cons_of_mem _ hq)) p
    rw [List.cons_append, Text.startsFolded, Text.startsFolded, ih]

theorem startsFolded_append_blank {b : Char} (hb : isBlank b = true) (t : List Char) {word : List Char}
    (h : ∀ p ∈ word, p.isUpper) (p : List Char) : Text.startsFolded word (p ++ b :: t) = Text.startsFolded word p :=
  startsFolded_append_cons (Text.isLatin_of_isBlank hb) t h p

theorem atRemark_append_blank {b : Char} (hb : isBlank b = true) (p t : List Char) :
    atRemark (p ++ b :: t) = atRemark p := by
  have hne : b ≠ Text.apostrophe := by rintro rfl; revert hb; decide
  rw [atRemark, atRemark, startsFolded_append_blank hb t (List.all_eq_true.1 (by decide)) p]
  cases p with
  | nil => simp [hne]
  | cons c p => rfl

theorem beforeRemark_append {s t : List Char} (h : ∀ i < s.length, atRemark ((s ++ t).drop i) = false) :
    beforeRemark (s ++ t) = s ++ beforeRemark t := by
  induction s with
  | nil => rfl
  | cons c s ih =>
    obtain ⟨h0, hs⟩ := of_places_cons h
    rw [List.cons_append, beforeRemark, h0, if_neg Bool.false_ne_true, ih hs, List.cons_append]

theorem beforeRemark_prefix : ∀ s : List Char, beforeRemark s <+: s
  | [] => List.prefix_rfl
  | c :: s => by
    rw [beforeRemark]
    split
    · exact List.nil_prefix
    · exact (List.cons_prefix_cons).2 ⟨rfl, beforeRemark_prefix s⟩

theorem takeWhile_beforeRemark : ∀ s : List Char,
    (beforeRemark s).takeWhile isListChar = s.takeWhile isListChar
  | [] => rfl
  | c :: s => by
    rw [beforeRemark]
    cases hc : isListChar c with
    | false =>
      rw [List.takeWhile_cons_of_neg (by simp [hc])]
      split
      · rfl
      · rw [List.takeWhile_cons_of_neg (by simp [hc])]
    | true =>
      have hne : c ≠ Text.apostrophe := by rintro rfl; revert hc; decide
      rw [atRemark_of_not_latin (isLatin_of_isListChar hc) hne, if_neg Bool.false_ne_true,
        List.takeWhile_cons_of_pos hc, List.takeWhile_cons_of_pos hc, takeWhile_beforeRemark s]

/-- No word of references has a remark in it. -/
theorem drop_referenceWords_remark : ∀ word ∈ referenceWords, ∀ i < word.length,
    ¬ ['R', 'E', 'M'] <+: word.drop i := by decide

section
variable {f : List Char → List Char} {word : List Char}

/-- Inside a reference no remark starts. -/
theorem Refers.atRemark_inside {form gap : List Char} {numbers : List (List Char)} {list rest : List Char}
    (hw : word ∈ referenceWords) (h : Refers word form gap numbers list rest) {i : Nat}
    (hi : i < (form ++ (gap ++ list)).length) :
    atRemark (((form ++ (gap ++ list)) ++ rest).drop i) = false := by
  simp only [List.append_assoc]
  by_cases hlt : i < form.length
  · obtain ⟨b, gap, rfl⟩ := List.exists_cons_of_ne_nil h.gap_ne
    have hlatin : ∀ c ∈ form.drop i, Text.isLatin c = true := fun c hc =>
      isLatin_of_form hw h.word (List.mem_of_mem_drop hc)
    -- the letters of a remark cannot reach past the blank, so the word would have them
    have hletters : Text.startsFolded ['R', 'E', 'M'] (form.drop i) = false := by
      cases hs : Text.startsFolded ['R', 'E', 'M'] (form.drop i) with
      | false => rfl
      | true =>
        rw [Text.startsFolded_iff (List.all_eq_true.1 (by decide)), List.map_drop, h.word] at hs
        exact absurd hs (drop_referenceWords_remark word hw i (by rwa [← h.word, List.length_map]))
    rw [List.drop_append_of_le_length (Nat.le_of_lt hlt), List.cons_append,
      atRemark_append_blank (h.blank b List.mem_cons_self), atRemark, hletters, Bool.or_false]
    cases hd : form.drop i with
    | nil => rfl
    | cons c u =>
      have hne : c ≠ Text.apostrophe := by
        rintro rfl
        have := hlatin _ (hd ▸ List.mem_cons_self)
        revert this
        decide
      simp [hne]
  · obtain ⟨c, u, hdrop, hc⟩ := exists_mem_drop (u := rest) (Nat.le_of_not_lt hlt) hi
    have hlist : isListChar c = true := by
      rcases List.mem_append.1 hc with hc | hc
      · simp [isListChar, h.blank c hc]
      · exact h.list.isListChar c hc
    have hne : c ≠ Text.apostrophe := by rintro rfl; revert hlist; decide
    rw [← List.append_assoc gap, hdrop]
    exact atRemark_of_not_latin (isLatin_of_isListChar hlist) hne u

theorem reference?_of_prefix (hw : word ∈ referenceWords) {s t : List Char} (ht : t <+: s)
    (h : reference? word s = none) : reference? word t = none := by
  cases hr : reference? word t with
  | none => rfl
  | some r =>
    obtain ⟨form, gap, list, rest, rfl, href⟩ := exists_refers (isUpper_referenceWords word hw) hr
    obtain ⟨u, rfl⟩ := ht
    obtain ⟨c, digits, rfl, hc⟩ := href.list.exists_digit
    have hsome := reference?_isSome (t := digits ++ rest ++ u) (isUpper_referenceWords word hw) href.word
      href.gap_ne href.blank hc
    simp only [List.append_assoc, List.cons_append] at h hsome
    rw [h] at hsome
    cases hsome

/-- The text before the remark is changed as it stands. -/
theorem beforeRemark_changeRefs (hw : word ∈ referenceWords) (hf : ∀ d, IsNumber d → IsNumber (f d))
    (s : List Char) : beforeRemark (changeRefs f word s) = changeRefs f word (beforeRemark s) := by
  induction s using induction_refers [word] (by simpa using hw) with
  | nil => rw [changeRefs_nil, beforeRemark, changeRefs_nil]
  | refers w hmem form gap numbers list rest href ih =>
    obtain rfl := List.mem_singleton.1 hmem
    have hcut : Refers w form gap numbers list (beforeRemark rest) :=
      { href with stops := fun h => href.stops (h.congr (takeWhile_beforeRemark rest)) }
    have hold := beforeRemark_append fun i hi => href.atRemark_inside hw (i := i) hi
    have hnew := beforeRemark_append fun i hi => (href.changeRefs_numbers hw hf).atRemark_inside hw (i := i) hi
    rw [href.changeRefs_eq hw]
    simp only [List.append_assoc] at hold hnew
    rw [hold, hnew, ih, hcut.changeRefs_eq hw]
  | cons c s hnone ih =>
    have h := hnone word List.mem_cons_self
    have hremark : atRemark (c :: changeRefs f word s) = atRemark (c :: s) := by
      rcases changeRefs_upToBlank (f := f) hw s with heq | ⟨p, b, t, t', hb, hs, heq⟩
      · rw [heq]
      · rw [heq, hs]
        rw [← List.cons_append, ← List.cons_append, atRemark_append_blank hb, atRemark_append_blank hb]
    rw [changeRefs_cons h, beforeRemark, beforeRemark, hremark]
    split
    · rw [changeRefs_nil]
    · have hcut : reference? word (c :: beforeRemark s) = none :=
        reference?_of_prefix hw (List.cons_prefix_cons.2 ⟨rfl, beforeRemark_prefix s⟩) h
      rw [ih, changeRefs_cons hcut]

/-- The code of a changed text is the changed code. -/
theorem codeOf_changeRefs (hw : word ∈ referenceWords) (hf : ∀ d, IsNumber d → IsNumber (f d))
    (s : List Char) : codeOf (changeRefs f word s) = changeRefs f word (codeOf s) := by
  rw [codeOf, codeOf, emptyStrings_changeRefs hw hf, beforeRemark_changeRefs hw hf]

end

end MsxWorkbench.Program
