import MsxWorkbench.Proofs.Program.References
import MsxWorkbench.Proofs.Steps
/-
# Changing the references by one word

A text is cut into the references by a word and the characters between them (`parts`). Changing these
references with a look-up that answers for all their numbers is a function on texts (`changeRefs`,
`updateFrom_eq_ok`). A pass keeps every reference by another word as it is and makes no new one
(`Leads.changeRefs_other`, `reference?_changeRefs`), so the passes for the six words do not disturb each
other and no number is changed twice.
-/
namespace MsxWorkbench.Program

open Text (isBlank isDigit capital)

/-! ## Parts of a text -/

/-- A character of a text, or a reference in it. -/
inductive Part where
  | char (c : Char)
  | reference (r : Reference)

/-- The numbers in a part. -/
def Part.numbers : Part → List (List Char)
  | .char _ => []
  | .reference r => r.numbers

/-- The text of a part with its numbers changed. -/
def Part.change (f : List Char → List Char) : Part → List Char
  | .char c => [c]
  | .reference r => r.lead ++ [',', ' '].intercalate (r.numbers.map f)

/-- The references by a word in a text and the characters between them; the first `skip` characters
belong to a reference before. -/
def parts (word : List Char) : Nat → List Char → List Part
  | _, [] => []
  | skip + 1, _ :: rest => parts word skip rest
  | 0, c :: rest =>
    match reference? word (c :: rest) with
    | some r => .reference r :: parts word (r.size - 1) rest
    | none => .char c :: parts word 0 rest

/-- The numbers in the references by a word. -/
def referenceNumbers (word s : List Char) : List (List Char) := (parts word 0 s).flatMap Part.numbers

/-- The text with the numbers in the references by a word changed. -/
def changeRefs (f : List Char → List Char) (word s : List Char) : List Char :=
  (parts word 0 s).flatMap (Part.change f)

/-- Where every look-up succeeds, an update changes the parts one by one. -/
theorem updateFrom_eq_ok {lookup : List Char → Except Text.IntegerError (List Char)}
    {f : List Char → List Char} {word : List Char} : ∀ {skip : Nat} {s : List Char},
    (∀ d ∈ (parts word skip s).flatMap Part.numbers, lookup d = .ok (f d)) →
    updateFrom lookup word skip s = .ok ((parts word skip s).flatMap (Part.change f))
  | _, [], _ => by simp [updateFrom, parts]
  | skip + 1, _ :: rest, h => by
    rw [updateFrom, parts]
    exact updateFrom_eq_ok (by rwa [parts] at h)
  | 0, c :: rest, h => by
    rw [updateFrom, parts]
    rw [parts] at h
    cases hr : reference? word (c :: rest) with
    | none =>
      simp only [hr, List.flatMap_cons, Part.numbers, List.nil_append] at h
      simp only [List.flatMap_cons, Part.change, updateFrom_eq_ok h]
      rfl
    | some r =>
      simp only [hr, List.flatMap_cons, Part.numbers, List.mem_append] at h
      have hnumbers : r.numbers.mapM lookup = .ok (r.numbers.map f) := mapM_ok fun d hd => h d (Or.inl hd)
      have hrest : updateFrom lookup word (r.size - 1) rest =
          .ok ((parts word (r.size - 1) rest).flatMap (Part.change f)) :=
        updateFrom_eq_ok fun d hd => h d (Or.inr hd)
      simp only [List.flatMap_cons, Part.change, hnumbers, hrest]
      rfl

/-- A look-up that fails makes the update fail. -/
theorem updateFrom_error {lookup : List Char → Except Text.IntegerError (List Char)} {word : List Char} :
    ∀ {skip : Nat} {s : List Char}, (∃ d ∈ (parts word skip s).flatMap Part.numbers, ∃ e, lookup d = .error e) →
    ∃ e, updateFrom lookup word skip s = .error e
  | _, [], ⟨_, hd, _⟩ => by simp [parts] at hd
  | skip + 1, _ :: rest, h => by
    rw [updateFrom]
    exact updateFrom_error (by rwa [parts] at h)
  | 0, c :: rest, h => by
    rw [parts] at h
    rw [updateFrom]
    cases hr : reference? word (c :: rest) with
    | none =>
      simp only [hr, List.flatMap_cons, Part.numbers, List.nil_append] at h
      obtain ⟨e, he⟩ := updateFrom_error h
      exact ⟨e, by simp only [he]; rfl⟩
    | some r =>
      simp only [hr, List.flatMap_cons, Part.numbers, List.mem_append] at h
      obtain ⟨d, hd, e, he⟩ := h
      cases hnumbers : r.numbers.mapM lookup with
      | error e => exact ⟨e, by simp only [hnumbers]; rfl⟩
      | ok new =>
        rcases hd with hd | hd
        · obtain ⟨e', he'⟩ := mapM_error ⟨d, hd, e, he⟩
          rw [he'] at hnumbers
          cases hnumbers
        · obtain ⟨e', he'⟩ := updateFrom_error ⟨d, hd, e, he⟩
          exact ⟨e', by simp only [hnumbers, he']; rfl⟩

theorem parts_eq_parts_drop (word : List Char) : ∀ (skip : Nat) (s : List Char),
    parts word skip s = parts word 0 (s.drop skip)
  | 0, s => by rw [List.drop_zero]
  | skip + 1, [] => by rw [List.drop_nil, parts, parts]
  | skip + 1, c :: rest => by rw [parts, parts_eq_parts_drop word skip rest, List.drop_succ_cons]

section
variable {word : List Char}

theorem parts_cons {c : Char} {s : List Char} (h : reference? word (c :: s) = none) :
    parts word 0 (c :: s) = .char c :: parts word 0 s := by
  rw [parts, h]

/-- A reference is one part. -/
theorem Refers.parts_eq {form gap : List Char} {numbers : List (List Char)} {list rest : List Char}
    (hw : word ∈ referenceWords) (h : Refers word form gap numbers list rest) :
    parts word 0 (form ++ (gap ++ (list ++ rest))) =
      .reference ⟨form ++ gap, numbers, (form ++ (gap ++ list)).length⟩ :: parts word 0 rest := by
  have hread := h.reference?_append (isUpper_referenceWords word hw)
  obtain ⟨c, form, rfl⟩ := List.exists_cons_of_ne_nil (form_ne_nil hw h.word)
  rw [List.cons_append] at hread ⊢
  rw [parts, hread]
  simp only [List.cons_append, List.length_cons, Nat.add_sub_cancel]
  rw [show form ++ (gap ++ (list ++ rest)) = (form ++ (gap ++ list)) ++ rest by simp,
    parts_eq_parts_drop word (form ++ (gap ++ list)).length, List.drop_left]

/-- Characters at which no reference starts are parts of their own. -/
theorem parts_append {s t : List Char}
    (h : ∀ i < s.length, reference? word ((s ++ t).drop i) = none) :
    parts word 0 (s ++ t) = s.map .char ++ parts word 0 t := by
  induction s with
  | nil => rfl
  | cons c s ih =>
    obtain ⟨h0, hs⟩ := of_places_cons h
    rw [List.cons_append, parts_cons h0, ih hs, List.map_cons, List.cons_append]

end

theorem flatMap_change_map_char (f : List Char → List Char) (s : List Char) :
    (s.map Part.char).flatMap (Part.change f) = s := by
  induction s with
  | nil => rfl
  | cons c s ih => rw [List.map_cons, List.flatMap_cons, ih]; rfl

theorem flatMap_numbers_map_char (s : List Char) : (s.map Part.char).flatMap Part.numbers = [] := by
  induction s with
  | nil => rfl
  | cons c s ih => rw [List.map_cons, List.flatMap_cons, ih]; rfl

/-! ## Induction along references -/

/-- Cuts a text at the references by any of the words. -/
theorem induction_refers (words : List (List Char)) (hw : ∀ w ∈ words, w ∈ referenceWords)
    {P : List Char → Prop} (nil : P [])
    (refers : ∀ word ∈ words, ∀ form gap numbers list rest,
      Refers word form gap numbers list rest → P rest → P (form ++ (gap ++ (list ++ rest))))
    (cons : ∀ c s, (∀ word ∈ words, reference? word (c :: s) = none) → P s → P (c :: s)) :
    ∀ s, P s
  | [] => nil
  | c :: s => by
    by_cases h : ∃ word ∈ words, (reference? word (c :: s)).isSome
    · obtain ⟨word, hmem, hsome⟩ := h
      obtain ⟨r, hr⟩ := Option.isSome_iff_exists.1 hsome
      obtain ⟨form, gap, list, rest, heq, href⟩ := exists_refers (isUpper_referenceWords word (hw word hmem)) hr
      have hlen : rest.length < (c :: s).length := by
        have := List.length_pos_iff.2 (form_ne_nil (hw word hmem) href.word)
        rw [heq]
        simp only [List.length_append]
        omega
      have hrest := induction_refers words hw nil refers cons rest
      rw [heq]
      exact refers word hmem form gap _ list rest href hrest
    · refine cons c s (fun word hmem => ?_) (induction_refers words hw nil refers cons s)
      cases hr : reference? word (c :: s) with
      | none => rfl
      | some r => exact absurd ⟨word, hmem, by rw [hr]; rfl⟩ h
termination_by s => s.length
decreasing_by
  · exact hlen
  · exact Nat.lt_succ_self _

/-! ## What a pass does -/

section
variable {f : List Char → List Char} {word other : List Char}

@[simp] theorem changeRefs_nil : changeRefs f word [] = [] := by simp [changeRefs, parts]

@[simp] theorem referenceNumbers_nil : referenceNumbers word [] = [] := by simp [referenceNumbers, parts]

theorem changeRefs_cons {c : Char} {s : List Char} (h : reference? word (c :: s) = none) :
    changeRefs f word (c :: s) = c :: changeRefs f word s := by
  rw [changeRefs, parts_cons h]
  rfl

theorem referenceNumbers_cons {c : Char} {s : List Char} (h : reference? word (c :: s) = none) :
    referenceNumbers word (c :: s) = referenceNumbers word s := by
  rw [referenceNumbers, parts_cons h]
  rfl

variable {form gap : List Char} {numbers : List (List Char)} {list rest : List Char}

theorem Refers.changeRefs_eq (hw : word ∈ referenceWords) (h : Refers word form gap numbers list rest) :
    changeRefs f word (form ++ (gap ++ (list ++ rest))) =
      form ++ (gap ++ ([',', ' '].intercalate (numbers.map f) ++ changeRefs f word rest)) := by
  rw [changeRefs, h.parts_eq hw, List.flatMap_cons, Part.change, changeRefs]
  simp only [List.append_assoc]

theorem Refers.referenceNumbers_eq (hw : word ∈ referenceWords)
    (h : Refers word form gap numbers list rest) :
    referenceNumbers word (form ++ (gap ++ (list ++ rest))) = numbers ++ referenceNumbers word rest := by
  rw [referenceNumbers, h.parts_eq hw, List.flatMap_cons]
  rfl

variable {tail : List Char}

/-- A reference by one word, or what a change has made of it, is characters to the pass for another. -/
theorem Leads.parts_other (hw : word ∈ referenceWords) (ho : other ∈ referenceWords) (hne : word ≠ other)
    (h : Leads word form gap) (htail : ∀ c ∈ tail, Text.isLatin c = false) :
    parts other 0 (form ++ (gap ++ (tail ++ rest))) =
      (form ++ (gap ++ tail)).map .char ++ parts other 0 rest := by
  have hassoc : form ++ (gap ++ (tail ++ rest)) = (form ++ (gap ++ tail)) ++ rest := by simp
  rw [hassoc]
  refine parts_append fun i hi => ?_
  rw [← hassoc]
  exact h.reference?_inside rest hw ho htail (Or.inr hne) hi

theorem Leads.changeRefs_other (hw : word ∈ referenceWords) (ho : other ∈ referenceWords) (hne : word ≠ other)
    (h : Leads word form gap) (htail : ∀ c ∈ tail, Text.isLatin c = false) :
    changeRefs f other (form ++ (gap ++ (tail ++ rest))) =
      form ++ (gap ++ (tail ++ changeRefs f other rest)) := by
  rw [changeRefs, h.parts_other hw ho hne htail, List.flatMap_append, flatMap_change_map_char, changeRefs]
  simp only [List.append_assoc]

theorem Leads.referenceNumbers_other (hw : word ∈ referenceWords) (ho : other ∈ referenceWords)
    (hne : word ≠ other) (h : Leads word form gap) (htail : ∀ c ∈ tail, Text.isLatin c = false) :
    referenceNumbers other (form ++ (gap ++ (tail ++ rest))) = referenceNumbers other rest := by
  rw [referenceNumbers, h.parts_other hw ho hne htail, List.flatMap_append, flatMap_numbers_map_char]
  rfl

/-- A pass keeps the characters of lists at the head of a text. -/
theorem takeWhile_changeRefs (hw : word ∈ referenceWords) (s : List Char) :
    (changeRefs f word s).takeWhile isListChar = s.takeWhile isListChar := by
  induction s using induction_refers [word] (by simpa using hw) with
  | nil => rw [changeRefs_nil]
  | refers w hmem form gap numbers list rest href _ =>
    obtain rfl := List.mem_singleton.1 hmem
    rw [href.changeRefs_eq hw]
    obtain ⟨c, form, rfl⟩ := List.exists_cons_of_ne_nil (form_ne_nil hw href.word)
    have hc : ¬ isListChar c = true := fun hc => by
      have := isLatin_of_isListChar hc
      rw [isLatin_of_form hw href.word List.mem_cons_self] at this
      cases this
    rw [List.cons_append, List.cons_append, List.takeWhile_cons_of_neg hc, List.takeWhile_cons_of_neg hc]
  | cons c s hnone ih =>
    rw [changeRefs_cons (hnone word List.mem_cons_self), List.takeWhile_cons, List.takeWhile_cons, ih]

theorem goesOn_changeRefs (hw : word ∈ referenceWords) {s : List Char} :
    GoesOn (changeRefs f word s) ↔ GoesOn s :=
  ⟨GoesOn.congr (takeWhile_changeRefs hw s), GoesOn.congr (takeWhile_changeRefs hw s).symm⟩

end

/-- Numbers put together with commas are a list again. -/
theorem listText_intercalate : ∀ {numbers : List (List Char)}, numbers ≠ [] → (∀ d ∈ numbers, IsNumber d) →
    ListText numbers ([',', ' '].intercalate numbers)
  | [], h, _ => absurd rfl h
  | [d], _, hd => by
    have := ListText.mk (hd d List.mem_cons_self) MoreText.nil
    rw [List.intercalate_singleton]
    rwa [List.append_nil] at this
  | d :: e :: ds, _, hd => by
    have ih : ListText (e :: ds) ([',', ' '].intercalate (e :: ds)) :=
      listText_intercalate (by simp) fun x hx => hd x (List.mem_cons_of_mem _ hx)
    have hcomma : MoreText (e :: ds) ([] ++ ',' :: ([' '] ++ [',', ' '].intercalate (e :: ds))) := by
      generalize [',', ' '].intercalate (e :: ds) = t at ih
      cases ih with
      | mk he ht => exact MoreText.cons (by simp) (List.forall_mem_singleton.2 (by decide)) he ht
    rw [List.intercalate_cons_cons, List.append_assoc]
    exact ListText.mk (hd d List.mem_cons_self) hcomma

theorem mem_intercalate {c : Char} : ∀ {numbers : List (List Char)}, c ∈ [',', ' '].intercalate numbers →
    (∃ d ∈ numbers, c ∈ d) ∨ c = ',' ∨ c = ' '
  | [], hc => by simp at hc
  | [d], hc => by
    rw [List.intercalate_singleton] at hc
    exact Or.inl ⟨d, List.mem_cons_self, hc⟩
  | d :: e :: ds, hc => by
    rw [List.intercalate_cons_cons] at hc
    simp only [List.mem_append, List.mem_cons, List.not_mem_nil, or_false] at hc
    rcases hc with (hc | hc) | hc
    · exact Or.inl ⟨d, List.mem_cons_self, hc⟩
    · exact Or.inr hc
    · rcases mem_intercalate hc with ⟨x, hx, hc⟩ | hc
      · exact Or.inl ⟨x, List.mem_cons_of_mem _ hx, hc⟩
      · exact Or.inr hc

theorem MoreText.isNumber {ds : List (List Char)} {t : List Char} (h : MoreText ds t) :
    ∀ d ∈ ds, IsNumber d := by
  induction h with
  | nil => simp
  | cons _ _ hd _ ih =>
    intro e he
    rcases List.mem_cons.1 he with rfl | he
    · exact hd
    · exact ih e he

theorem ListText.isNumber {numbers : List (List Char)} {t : List Char} (h : ListText numbers t) :
    ∀ d ∈ numbers, IsNumber d := by
  obtain ⟨hd, ht⟩ := h
  intro e he
  rcases List.mem_cons.1 he with rfl | he
  · exact hd
  · exact ht.isNumber e he

theorem ListText.ne_nil {numbers : List (List Char)} {t : List Char} (h : ListText numbers t) :
    numbers ≠ [] := by
  obtain ⟨-, -⟩ := h
  simp

theorem ListText.exists_digit {numbers : List (List Char)} {t : List Char} (h : ListText numbers t) :
    ∃ c u, t = c :: u ∧ isDigit c = true := by
  obtain ⟨hd, -⟩ := h
  obtain ⟨c, d, rfl⟩ := List.exists_cons_of_ne_nil hd.1
  exact ⟨c, _, rfl, hd.2 c List.mem_cons_self⟩

/-! ## Passes do not disturb each other -/

section
variable {f : List Char → List Char} {word other : List Char}
variable {form gap : List Char} {numbers : List (List Char)} {list rest : List Char}

/-- A pass keeps a reference by another word. -/
theorem Refers.changeRefs_rest (ho : other ∈ referenceWords) (h : Refers word form gap numbers list rest) :
    Refers word form gap numbers list (changeRefs f other rest) :=
  { h with stops := (goesOn_changeRefs ho).not.2 h.stops }

/-- A pass leaves a reference by its own word with the changed numbers. -/
theorem Refers.changeRefs_numbers (hw : word ∈ referenceWords) (hf : ∀ d, IsNumber d → IsNumber (f d))
    (h : Refers word form gap numbers list rest) :
    Refers word form gap (numbers.map f) ([',', ' '].intercalate (numbers.map f)) (changeRefs f word rest) := by
  refine { h.changeRefs_rest hw with list := ?_ }
  refine listText_intercalate (by simpa using h.list.ne_nil) fun d hd => ?_
  obtain ⟨e, he, rfl⟩ := List.mem_map.1 hd
  exact hf e (h.list.isNumber e he)

/-- Letters before a blank come through a pass unchanged unless the word is at their end. -/
theorem changeRefs_letters (hw : word ∈ referenceWords) : ∀ {letters y t : List Char} {b : Char},
    (∀ c ∈ letters, Text.isLatin c = true) → isBlank b = true →
    (∀ i < letters.length, (letters.drop i).map capital ≠ word) →
    changeRefs f word y = letters ++ b :: t → ∃ z, y = letters ++ z ∧ changeRefs f word z = b :: t
  | [], y, _, _, _, _, _, h => ⟨y, rfl, h⟩
  | e :: letters, [], _, _, _, _, _, h => by rw [changeRefs_nil] at h; cases h
  | e :: letters, d :: y, t, b, hl, hb, hno, h => by
    cases hr : reference? word (d :: y) with
    | some r =>
      -- the reference would start with the word and a blank, where the letters and the blank stand
      obtain ⟨form, gap, list, rest, heq, href⟩ := exists_refers (isUpper_referenceWords word hw) hr
      obtain ⟨b', gap, rfl⟩ := List.exists_cons_of_ne_nil href.gap_ne
      rw [heq, href.changeRefs_eq hw] at h
      have hform : form = e :: letters := by
        have hlatin := congrArg (List.takeWhile Text.isLatin) h
        rwa [takeWhile_latin hl hb, List.cons_append,
          takeWhile_latin (fun c hc => isLatin_of_form hw href.word hc) (href.blank b' List.mem_cons_self)]
          at hlatin
      exact absurd (hform ▸ href.word) (hno 0 (by simp))
    | none =>
      rw [changeRefs_cons hr, List.cons_append, List.cons.injEq] at h
      obtain ⟨rfl, h⟩ := h
      obtain ⟨z, rfl, hz⟩ := changeRefs_letters hw (fun c hc => hl c (List.mem_cons_of_mem _ hc)) hb
        (fun i hi => by simpa using hno (i + 1) (by simpa using hi)) h
      exact ⟨z, rfl, hz⟩

/-- A pass makes no new reference at a place where there was none. -/
theorem reference?_changeRefs {c : Char} {s : List Char} (hw : word ∈ referenceWords)
    (ho : other ∈ referenceWords) (h : reference? other (c :: s) = none) :
    reference? other (c :: changeRefs f word s) = none := by
  cases hr : reference? other (c :: changeRefs f word s) with
  | none => rfl
  | some r =>
    exfalso
    obtain ⟨form, gap, list, rest, heq, href⟩ := exists_refers (isUpper_referenceWords other ho) hr
    obtain ⟨e, form, rfl⟩ := List.exists_cons_of_ne_nil (form_ne_nil ho href.word)
    obtain ⟨b, gap, rfl⟩ := List.exists_cons_of_ne_nil href.gap_ne
    have hb := href.blank b List.mem_cons_self
    rw [List.cons_append, List.cons.injEq] at heq
    obtain ⟨rfl, heq⟩ := heq
    have hno : ∀ i < form.length, (form.drop i).map capital ≠ word := by
      intro i hi hword
      have := drop_referenceWords other ho word hw (i + 1)
        (by rw [← href.word]; simpa using hi) (by rw [← href.word, ← hword]; simp)
      omega
    obtain ⟨z, rfl, hz⟩ := changeRefs_letters hw
      (fun d hd => isLatin_of_form ho href.word (List.mem_cons_of_mem _ hd)) hb hno heq
    obtain ⟨x, u, rfl, hx⟩ := href.list.exists_digit
    -- the blanks and the first digit stand in the text before the pass as well
    have hlist : ∀ y ∈ (b :: gap) ++ [x], isListChar y = true := by
      intro y hy
      rcases List.mem_append.1 hy with hy | hy
      · simp [isListChar, href.blank y hy]
      · rw [List.mem_singleton.1 hy]
        simp [isListChar, hx]
    obtain ⟨v, hv⟩ := append_of_takeWhile_eq (takeWhile_changeRefs (f := f) hw z) hlist
      (u := u ++ rest) (by rw [hz]; simp)
    have hsome := reference?_isSome (t := v) (isUpper_referenceWords other ho) href.word (by simp)
      href.blank hx
    rw [List.append_assoc, List.singleton_append] at hv
    rw [List.cons_append, ← hv, h] at hsome
    cases hsome

theorem not_latin_intercalate (hf : ∀ d, IsNumber d → ∀ c ∈ f d, Text.isLatin c = false) :
    ∀ {numbers : List (List Char)}, (∀ d ∈ numbers, IsNumber d) →
    ∀ c ∈ [',', ' '].intercalate (numbers.map f), Text.isLatin c = false := by
  intro numbers hd c hc
  rcases mem_intercalate hc with ⟨d, hmem, hc⟩ | hc | hc
  · obtain ⟨e, he, rfl⟩ := List.mem_map.1 hmem
    exact hf e (hd e he) c hc
  · rw [hc]; decide
  · rw [hc]; decide

/-- A pass leaves the numbers in references by another word. -/
theorem referenceNumbers_changeRefs (hw : word ∈ referenceWords) (ho : other ∈ referenceWords)
    (hne : word ≠ other) (hf : ∀ d, IsNumber d → ∀ c ∈ f d, Text.isLatin c = false) (s : List Char) :
    referenceNumbers other (changeRefs f word s) = referenceNumbers other s := by
  induction s using induction_refers referenceWords (fun _ h => h) with
  | nil => rw [changeRefs_nil]
  | refers w hmem form gap numbers list rest href ih =>
    have hlist := href.list.not_latin
    by_cases hself : w = word
    · subst hself
      have hnew := not_latin_intercalate hf href.list.isNumber
      rw [href.changeRefs_eq hmem, href.toLeads.referenceNumbers_other hmem ho hne hnew,
        href.toLeads.referenceNumbers_other hmem ho hne hlist, ih]
    · rw [href.toLeads.changeRefs_other hmem hw hself hlist]
      by_cases hother : w = other
      · subst hother
        rw [(href.changeRefs_rest hw).referenceNumbers_eq hmem, href.referenceNumbers_eq hmem, ih]
      · rw [href.toLeads.referenceNumbers_other hmem ho hother hlist,
          href.toLeads.referenceNumbers_other hmem ho hother hlist, ih]
  | cons c s hnone ih =>
    rw [changeRefs_cons (hnone word hw), referenceNumbers_cons (reference?_changeRefs hw ho (hnone other ho)),
      referenceNumbers_cons (hnone other ho), ih]

/-- Up to some blank, or wholly, a text comes through a pass unchanged. -/
theorem changeRefs_upToBlank (hw : word ∈ referenceWords) (s : List Char) :
    changeRefs f word s = s ∨ ∃ p b t t', isBlank b = true ∧ s = p ++ b :: t ∧
      changeRefs f word s = p ++ b :: t' := by
  induction s using induction_refers [word] (by simpa using hw) with
  | nil => exact Or.inl changeRefs_nil
  | refers w hmem form gap numbers list rest href _ =>
    obtain rfl := List.mem_singleton.1 hmem
    obtain ⟨b, gap, rfl⟩ := List.exists_cons_of_ne_nil href.gap_ne
    exact Or.inr ⟨form, b, _, _, href.blank b List.mem_cons_self, rfl, href.changeRefs_eq hw⟩
  | cons c s hnone ih =>
    rw [changeRefs_cons (hnone word List.mem_cons_self)]
    rcases ih with ih | ⟨p, b, t, t', hb, hs, ih⟩
    · exact Or.inl (by rw [ih])
    · exact Or.inr ⟨c :: p, b, t, t', hb, by rw [hs]; rfl, by rw [ih]; rfl⟩

/-- The characters of a changed text come from the text, from the changed numbers or from the commas and
blanks between these. -/
theorem mem_changeRefs (hw : word ∈ referenceWords) {c : Char} {s : List Char} (hc : c ∈ changeRefs f word s) :
    c ∈ s ∨ (∃ d, IsNumber d ∧ c ∈ f d) ∨ c = ',' ∨ c = ' ' := by
  induction s using induction_refers [word] (by simpa using hw) with
  | nil => rw [changeRefs_nil] at hc; exact Or.inl hc
  | refers w hmem form gap numbers list rest href ih =>
    obtain rfl := List.mem_singleton.1 hmem
    rw [href.changeRefs_eq hw] at hc
    simp only [List.mem_append] at hc ⊢
    rcases hc with hc | hc | hc | hc
    · exact Or.inl (Or.inl hc)
    · exact Or.inl (Or.inr (Or.inl hc))
    · rcases mem_intercalate hc with ⟨d, hd, hc⟩ | hc
      · obtain ⟨e, he, rfl⟩ := List.mem_map.1 hd
        exact Or.inr (Or.inl ⟨e, href.list.isNumber e he, hc⟩)
      · exact Or.inr (Or.inr hc)
    · rcases ih hc with h | h
      · exact Or.inl (Or.inr (Or.inr (Or.inr h)))
      · exact Or.inr h
  | cons d s hnone ih =>
    rw [changeRefs_cons (hnone word List.mem_cons_self)] at hc
    rcases List.mem_cons.1 hc with rfl | hc
    · exact Or.inl List.mem_cons_self
    · rcases ih hc with h | h
      · exact Or.inl (List.mem_cons_of_mem _ h)
      · exact Or.inr h

end

theorem MoreText.mem {ds : List (List Char)} {t : List Char} (h : MoreText ds t) :
    ∀ d ∈ ds, ∀ c ∈ d, c ∈ t := by
  induction h with
  | nil => simp
  | cons _ _ _ _ ih =>
    intro e he c hc
    simp only [List.mem_append, List.mem_cons]
    rcases List.mem_cons.1 he with rfl | he
    · exact Or.inr (Or.inr (Or.inr (Or.inl hc)))
    · exact Or.inr (Or.inr (Or.inr (Or.inr (ih e he c hc))))

theorem ListText.mem {numbers : List (List Char)} {t : List Char} (h : ListText numbers t) :
    ∀ d ∈ numbers, ∀ c ∈ d, c ∈ t := by
  obtain ⟨-, ht⟩ := h
  intro e he c hc
  rw [List.mem_append]
  rcases List.mem_cons.1 he with rfl | he
  · exact Or.inl hc
  · exact Or.inr (ht.mem e he c hc)

/-- The numbers in references are numbers and stand in the text. -/
theorem mem_referenceNumbers {word : List Char} (hw : word ∈ referenceWords) {d s : List Char}
    (hd : d ∈ referenceNumbers word s) : IsNumber d ∧ ∀ c ∈ d, c ∈ s := by
  induction s using induction_refers [word] (by simpa using hw) with
  | nil => rw [referenceNumbers_nil] at hd; cases hd
  | refers w hmem form gap numbers list rest href ih =>
    obtain rfl := List.mem_singleton.1 hmem
    rw [href.referenceNumbers_eq hw] at hd
    simp only [List.mem_append]
    rcases List.mem_append.1 hd with hd | hd
    · exact ⟨href.list.isNumber d hd, fun c hc => Or.inr (Or.inr (Or.inl (href.list.mem d hd c hc)))⟩
    · exact ⟨(ih hd).1, fun c hc => Or.inr (Or.inr (Or.inr ((ih hd).2 c hc)))⟩
  | cons e s hnone ih =>
    rw [referenceNumbers_cons (hnone word List.mem_cons_self)] at hd
    exact ⟨(ih hd).1, fun c hc => List.mem_cons_of_mem _ ((ih hd).2 c hc)⟩

/-! ## All passes -/

/-- The text with the numbers in all its references changed. -/
def changeAll (f : List Char → List Char) (s : List Char) : List Char :=
  referenceWords.foldl (fun t word => changeRefs f word t) s

/-- Where every look-up succeeds, an update changes all references. No pass adds numbers to be looked up
by a later one. -/
theorem updateReferences_eq_ok {lookup : List Char → Except Text.IntegerError (List Char)}
    {f : List Char → List Char} {s : List Char} (hf : ∀ d, IsNumber d → ∀ c ∈ f d, Text.isLatin c = false)
    (h : ∀ word ∈ referenceWords, ∀ d ∈ referenceNumbers word s, lookup d = .ok (f d)) :
    updateReferences lookup s = .ok (changeAll f s) := by
  have hpasses : ∀ (words : List (List Char)), (∀ w ∈ words, w ∈ referenceWords) → words.Nodup → ∀ t,
      (∀ w ∈ words, ∀ d ∈ referenceNumbers w t, lookup d = .ok (f d)) →
      words.foldlM (fun text word => updateFrom lookup word 0 text) t =
        .ok (words.foldl (fun t word => changeRefs f word t) t) := by
    intro words
    induction words with
    | nil => intro _ _ t _; rfl
    | cons w words ih =>
      intro hw hnodup t ht
      rw [List.nodup_cons] at hnodup
      have hrest : ∀ v ∈ words, ∀ d ∈ referenceNumbers v (changeRefs f w t), lookup d = .ok (f d) := by
        intro v hv d hd
        have hne : w ≠ v := fun h => hnodup.1 (h ▸ hv)
        rw [referenceNumbers_changeRefs (hw w List.mem_cons_self) (hw v (List.mem_cons_of_mem _ hv)) hne hf] at hd
        exact ht v (List.mem_cons_of_mem _ hv) d hd
      rw [List.foldlM_cons, List.foldl_cons, updateFrom_eq_ok (ht w List.mem_cons_self),
        ← ih (fun v hv => hw v (List.mem_cons_of_mem _ hv)) hnodup.2 _ hrest]
      rfl
  exact hpasses referenceWords (fun _ hw => hw) (by decide) s h

/-- A look-up that fails for a number in any reference makes the whole update fail: the passes before
do not remove the number. -/
theorem updateReferences_error {lookup : List Char → Except Text.IntegerError (List Char)}
    {f : List Char → List Char} {s word d : List Char}
    (hf : ∀ d, IsNumber d → ∀ c ∈ f d, Text.isLatin c = false)
    (hlookup : ∀ d, IsNumber d → lookup d = .ok (f d) ∨ ∃ e, lookup d = .error e) (hw : word ∈ referenceWords)
    (hd : d ∈ referenceNumbers word s) (he : ∃ e, lookup d = .error e) :
    ∃ e, updateReferences lookup s = .error e := by
  have hpasses : ∀ (words : List (List Char)), (∀ w ∈ words, w ∈ referenceWords) → words.Nodup → ∀ t,
      (∃ w ∈ words, ∃ d ∈ referenceNumbers w t, ∃ e, lookup d = .error e) →
      ∃ e, words.foldlM (fun text word => updateFrom lookup word 0 text) t = .error e := by
    intro words
    induction words with
    | nil => rintro _ _ t ⟨w, hw, _⟩; cases hw
    | cons w words ih =>
      intro hwords hnodup t hfail
      rw [List.nodup_cons] at hnodup
      rw [List.foldlM_cons]
      by_cases hall : ∀ d ∈ referenceNumbers w t, lookup d = .ok (f d)
      · obtain ⟨v, hv, d, hd, e, he⟩ := hfail
        have hv' : v ∈ words := by
          rcases List.mem_cons.1 hv with rfl | hv
          · rw [hall d hd] at he; cases he
          · exact hv
        have hne : w ≠ v := fun h => hnodup.1 (h ▸ hv')
        rw [← referenceNumbers_changeRefs (hwords w List.mem_cons_self) (hwords v hv) hne hf] at hd
        obtain ⟨e', he'⟩ := ih (fun v hv => hwords v (List.mem_cons_of_mem _ hv)) hnodup.2 _ ⟨v, hv', d, hd, e, he⟩
        refine ⟨e', ?_⟩
        rw [updateFrom_eq_ok hall, ← he']
        rfl
      · have hbad : ∃ d ∈ referenceNumbers w t, ∃ e, lookup d = .error e := by
          by_contra hno
          refine hall fun d hd => ?_
          rcases hlookup d (mem_referenceNumbers (hwords w List.mem_cons_self) hd).1 with h | h
          · exact h
          · exact absurd ⟨d, hd, h⟩ hno
        obtain ⟨e, he⟩ := updateFrom_error hbad
        exact ⟨e, by rw [he]; rfl⟩
  exact hpasses referenceWords (fun _ hw => hw) (by decide) s ⟨word, hw, d, hd, he⟩

/-- What each pass does to a view of the text, all passes do one after the other. -/
theorem changeAll_hom {β : Type} {f : List Char → List Char} (g : List Char → β) (k : List Char → β → β)
    (h : ∀ word ∈ referenceWords, ∀ t, g (changeRefs f word t) = k word (g t)) (s : List Char) :
    g (changeAll f s) = referenceWords.foldl (fun b word => k word b) (g s) := by
  have hpasses : ∀ (words : List (List Char)), (∀ w ∈ words, w ∈ referenceWords) → ∀ t,
      g (words.foldl (fun t word => changeRefs f word t) t) = words.foldl (fun b word => k word b) (g t) := by
    intro words
    induction words with
    | nil => intro _ t; rfl
    | cons w words ih =>
      intro hw t
      rw [List.foldl_cons, List.foldl_cons, ih (fun v hv => hw v (List.mem_cons_of_mem _ hv)),
        h w (hw w List.mem_cons_self)]
  exact hpasses referenceWords (fun _ hw => hw) s

/-- What every pass preserves, all passes preserve. -/
theorem changeAll_preserves {f : List Char → List Char} {P : List Char → Prop}
    (h : ∀ word ∈ referenceWords, ∀ t, P t → P (changeRefs f word t)) {s : List Char} (hs : P s) :
    P (changeAll f s) :=
  List.foldlRecOn referenceWords (fun t word => changeRefs f word t) hs fun t ht word hw => h word hw t ht

theorem mem_changeAll {f : List Char → List Char} {c : Char} {s : List Char} (hc : c ∈ changeAll f s) :
    c ∈ s ∨ (∃ d, IsNumber d ∧ c ∈ f d) ∨ c = ',' ∨ c = ' ' := by
  refine changeAll_preserves (P := fun t => c ∈ t → c ∈ s ∨ (∃ d, IsNumber d ∧ c ∈ f d) ∨ c = ',' ∨ c = ' ')
    (fun word hw t ht hc => ?_) Or.inl hc
  rcases mem_changeRefs hw hc with h | h
  · exact ht h
  · exact Or.inr h

/-! ## Texts side by side -/

/-- A text that no reference by a word reaches into from before: it starts with no character of lists,
and not with a later part of the word and a blank. -/
structure Divides (word t : List Char) : Prop where
  head : NoHead isListChar t
  word : ∀ form b u, form ≠ [] → form.map capital <:+ word → form.map capital ≠ word →
    isBlank b = true → t ≠ form ++ b :: u

section
variable {f : List Char → List Char} {word : List Char}

theorem Divides.reference?_append {c : Char} {s t : List Char} (hw : word ∈ referenceWords)
    (ht : Divides word t) (h : reference? word (c :: s) = none) : reference? word (c :: (s ++ t)) = none := by
  cases hr : reference? word (c :: (s ++ t)) with
  | none => rfl
  | some r =>
    exfalso
    obtain ⟨form, gap, list, rest, heq, href⟩ := exists_refers (isUpper_referenceWords word hw) hr
    obtain ⟨x, u, rfl, hx⟩ := href.list.exists_digit
    rw [← List.cons_append] at heq
    rcases List.append_eq_append_iff.1 heq with ⟨more, hform, ht'⟩ | ⟨more, hs, ht'⟩
    · -- the word reaches into `t`
      obtain ⟨b, gap, rfl⟩ := List.exists_cons_of_ne_nil href.gap_ne
      cases more with
      | nil =>
        have := ht.head b (by rw [ht']; rfl)
        simp [isListChar, href.blank b List.mem_cons_self] at this
      | cons e more =>
        refine ht.word (e :: more) b _ (by simp) ?_ ?_ (href.blank b List.mem_cons_self) ht'
        · rw [← href.word, hform, List.map_append]
          exact List.suffix_append _ _
        · rw [← href.word, hform, List.map_append]
          intro hlen
          have := congrArg List.length hlen
          simp only [List.length_append, List.length_map, List.length_cons] at this
          omega
    · -- the blanks or the first digit reach into `t`
      rw [List.cons_append, ← List.singleton_append (x := x), ← List.append_assoc] at ht'
      rcases List.append_eq_append_iff.1 ht' with ⟨v, hmore, -⟩ | ⟨v, hgap, ht''⟩
      · have := reference?_isSome (t := v) (isUpper_referenceWords word hw) href.word href.gap_ne href.blank hx
        rw [hs, hmore, List.append_assoc, List.singleton_append] at h
        rw [h] at this
        cases this
      · cases v with
        | nil =>
          have := reference?_isSome (t := []) (isUpper_referenceWords word hw) href.word href.gap_ne
            href.blank hx
          rw [List.append_nil] at hgap
          rw [hs, ← hgap] at h
          rw [h] at this
          cases this
        | cons e v =>
          have he : isListChar e = true := by
            have : e ∈ gap ++ [x] := hgap ▸ List.mem_append_right _ List.mem_cons_self
            rcases List.mem_append.1 this with he | he
            · simp [isListChar, href.blank e he]
            · rw [List.mem_singleton.1 he]
              simp [isListChar, hx]
          rw [ht.head e (by rw [ht'']; rfl)] at he
          cases he

theorem changeRefs_append {s t : List Char} (hw : word ∈ referenceWords) (ht : Divides word t) :
    changeRefs f word (s ++ t) = changeRefs f word s ++ changeRefs f word t := by
  induction s using induction_refers [word] (by simpa using hw) with
  | nil => rw [changeRefs_nil]; rfl
  | refers w hmem form gap numbers list rest href ih =>
    obtain rfl := List.mem_singleton.1 hmem
    have hmore : Refers w form gap numbers list (rest ++ t) :=
      { href with stops := fun h => href.stops (h.congr (takeWhile_append_of_noHead rest ht.head)) }
    rw [href.changeRefs_eq hw]
    simp only [List.append_assoc]
    rw [hmore.changeRefs_eq hw, ih]
  | cons c s hnone ih =>
    have h := hnone word List.mem_cons_self
    rw [changeRefs_cons h, List.cons_append, changeRefs_cons (ht.reference?_append hw h), ih]
    rfl

theorem divides_cons {q : Char} (t : List Char) (hw : word ∈ referenceWords) (hl : Text.isLatin q = false)
    (hq : isListChar q = false) : Divides word (q :: t) where
  head := by
    intro c hc
    rw [List.head?_cons, Option.mem_some_iff] at hc
    rw [← hc]; exact hq
  word := by
    rintro form b u hne hsuf - - heq
    obtain ⟨c, form, rfl⟩ := List.exists_cons_of_ne_nil hne
    rw [List.cons_append, List.cons.injEq] at heq
    have hup := isUpper_referenceWords word hw (capital c) (hsuf.subset (by simp))
    have := Text.isLatin_of_isUpper_capital hup
    rw [← heq.1, hl] at this
    cases this

/-- A word with a character behind it that is no letter divides: no word ends with another one. -/
theorem divides_form {other form t : List Char} {e : Char} (hw : word ∈ referenceWords)
    (ho : other ∈ referenceWords) (h : form.map capital = other) (he : Text.isLatin e = false) :
    Divides word (form ++ e :: t) where
  head := by
    obtain ⟨c, form, rfl⟩ := List.exists_cons_of_ne_nil (form_ne_nil ho h)
    intro d hd
    rw [List.cons_append, List.head?_cons, Option.mem_some_iff] at hd
    cases hlist : isListChar d with
    | false => rfl
    | true =>
      have := isLatin_of_isListChar hlist
      rw [← hd, isLatin_of_form ho h List.mem_cons_self] at this
      cases this
  word := by
    intro form' b u hne hsuf hword hb heq
    have hlatin : ∀ c ∈ form', Text.isLatin c = true := fun c hc =>
      Text.isLatin_of_isUpper_capital
        (isUpper_referenceWords word hw _ (hsuf.subset (List.mem_map_of_mem hc)))
    have hform : form = form' := by
      have := congrArg (List.takeWhile Text.isLatin) heq
      rwa [takeWhile_latin hlatin hb, takeWhile_append_noHead (fun c hc => isLatin_of_form ho h hc)] at this
      intro c hc
      rw [List.head?_cons, Option.mem_some_iff] at hc
      rw [← hc]; exact he
    subst hform
    rw [h] at hsuf hword
    obtain ⟨front, hfront⟩ := hsuf
    have hlen : front.length < word.length := by
      have := List.length_pos_iff.2 (referenceWords_ne_nil other ho)
      rw [← hfront, List.length_append]
      omega
    have := drop_referenceWords word hw other ho front.length hlen (by rw [← hfront, List.drop_left])
    exact hword this.2.symm

end

end MsxWorkbench.Program
