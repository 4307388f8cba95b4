import Mathlib.Data.List.TakeWhile
import MsxWorkbench.Program.Renumber
import MsxWorkbench.Proofs.Text.Classes
/-
# References to line numbers

What `moreNumbers` and `reference?` accept, as a grammar: a reference is a word in some form, at least
one blank and a list of numbers that the text behind it does not carry on (`Refers`). What is of the
grammar is read (`Refers.reference?_append`), and what is read is of the grammar (`exists_refers`).
-/
namespace MsxWorkbench.Program

open Text (isBlank isDigit capital)

/-! ## Runs of characters -/

/-- No character of the class `p` stands at the head of `s`. -/
def NoHead (p : Char → Bool) (s : List Char) : Prop := ∀ c ∈ s.head?, p c = false

theorem noHead_cons {p : Char → Bool} {c : Char} (hc : p c = false) (t : List Char) : NoHead p (c :: t) := by
  intro d hd
  rwa [← Option.mem_some_iff.1 hd]

theorem takeWhile_append_noHead {p : Char → Bool} {s t : List Char} (hs : ∀ c ∈ s, p c = true)
    (ht : NoHead p t) : (s ++ t).takeWhile p = s := by
  rw [List.takeWhile_append_of_pos hs]
  cases t with
  | nil => simp
  | cons c t => simp [ht c rfl]

theorem takeWhile_append_of_noHead {p : Char → Bool} (s : List Char) {t : List Char} (ht : NoHead p t) :
    (s ++ t).takeWhile p = s.takeWhile p := by
  induction s with
  | nil =>
    cases t with
    | nil => rfl
    | cons c t => simp [ht c rfl]
  | cons c s ih => rw [List.cons_append, List.takeWhile_cons, List.takeWhile_cons, ih]

theorem dropWhile_append_noHead {p : Char → Bool} {s t : List Char} (hs : ∀ c ∈ s, p c = true)
    (ht : NoHead p t) : (s ++ t).dropWhile p = t := by
  rw [List.dropWhile_append_of_pos hs]
  cases t with
  | nil => rfl
  | cons c t => simp [ht c rfl]

theorem noHead_dropWhile (p : Char → Bool) (s : List Char) : NoHead p (s.dropWhile p) := by
  intro c hc
  have := List.head?_dropWhile_not p s
  rw [Option.mem_def.1 hc] at this
  simpa using this

theorem drop_length_takeWhile (p : Char → Bool) (s : List Char) :
    s.drop (s.takeWhile p).length = s.dropWhile p := by
  have h := @List.drop_left _ (s.takeWhile p) (s.dropWhile p)
  rwa [List.takeWhile_append_dropWhile] at h

/-- What is found at each place of a text is found at its first place and at those of the rest. -/
theorem of_places_cons {α : Type} {f : List Char → α} {x : α} {c : Char} {s t : List Char}
    (h : ∀ i < (c :: s).length, f ((c :: s ++ t).drop i) = x) :
    f (c :: (s ++ t)) = x ∧ ∀ i < s.length, f ((s ++ t).drop i) = x :=
  ⟨h 0 (by simp), fun i hi => by simpa using h (i + 1) (by simpa using hi)⟩

/-! ## Lists of numbers -/

/-- A number as it is written. -/
def IsNumber (d : List Char) : Prop := d ≠ [] ∧ ∀ c ∈ d, isDigit c = true

/-- The text of further numbers of a list, each after a comma with blanks around it. -/
inductive MoreText : List (List Char) → List Char → Prop
  | nil : MoreText [] []
  | cons {before after d : List Char} {ds : List (List Char)} {t : List Char} :
      (∀ c ∈ before, isBlank c = true) → (∀ c ∈ after, isBlank c = true) → IsNumber d → MoreText ds t →
      MoreText (d :: ds) (before ++ ',' :: (after ++ (d ++ t)))

/-- Whether a list of numbers that comes before `s` goes on in `s`: with another digit, or with a comma
and another number. -/
def GoesOn (s : List Char) : Prop :=
  (∃ c t, s = c :: t ∧ isDigit c = true) ∨
    ∃ before after c t, (∀ b ∈ before, isBlank b = true) ∧ (∀ b ∈ after, isBlank b = true) ∧
      isDigit c = true ∧ s = before ++ ',' :: (after ++ c :: t)

theorem noHead_digit_of_not_goesOn {s : List Char} (h : ¬ GoesOn s) : NoHead isDigit s := by
  intro c hc
  cases s with
  | nil => simp at hc
  | cons d t =>
    rw [List.head?_cons, Option.mem_some_iff] at hc
    subst hc
    cases hd : isDigit d with
    | false => rfl
    | true => exact absurd (Or.inl ⟨d, t, rfl, hd⟩) h

theorem isBlank_comma : isBlank ',' = false := by decide

theorem isDigit_comma : isDigit ',' = false := by decide

theorem isDigit_of_isBlank {c : Char} (h : isBlank c = true) : isDigit c = false := by
  cases hd : isDigit c with
  | false => rfl
  | true => rw [Text.isBlank_of_isDigit hd] at h; cases h

/-- Behind a number stands no digit, whether the list goes on or not. -/
theorem MoreText.noHead_digit {ds : List (List Char)} {t rest : List Char} (h : MoreText ds t)
    (hr : NoHead isDigit rest) : NoHead isDigit (t ++ rest) := by
  cases h with
  | nil => exact hr
  | @cons before after d ds t hb ha hd ht =>
    intro c hc
    cases before with
    | nil =>
      simp only [List.nil_append, List.cons_append, List.head?_cons, Option.mem_some_iff] at hc
      rw [← hc]; exact isDigit_comma
    | cons b before =>
      simp only [List.cons_append, List.head?_cons, Option.mem_some_iff] at hc
      rw [← hc]; exact isDigit_of_isBlank (hb b List.mem_cons_self)

theorem IsNumber.noHead_blank {d : List Char} (h : IsNumber d) (t : List Char) : NoHead isBlank (d ++ t) := by
  obtain ⟨hne, hd⟩ := h
  cases d with
  | nil => exact absurd rfl hne
  | cons c d =>
    intro e he
    simp only [List.cons_append, List.head?_cons, Option.mem_some_iff] at he
    rw [← he]; exact Text.isBlank_of_isDigit (hd c List.mem_cons_self)

/-- What is read behind the first comma. -/
theorem moreNumbers_comma {before after : List Char} (hb : ∀ c ∈ before, isBlank c = true) :
    moreNumbers (before ++ ',' :: after) =
      if (after.dropWhile isBlank).takeWhile isDigit = [] then ([], 0)
      else
        let digits := (after.dropWhile isBlank).takeWhile isDigit
        let more := moreNumbers ((after.dropWhile isBlank).dropWhile isDigit)
        (digits :: more.1,
          before.length + 1 + (after.takeWhile isBlank).length + digits.length + more.2) := by
  have hcomma : NoHead isBlank (',' :: after) := by
    intro c hc
    rw [List.head?_cons, Option.mem_some_iff] at hc
    rw [← hc]; exact isBlank_comma
  rw [moreNumbers]
  simp only [takeWhile_append_noHead hb hcomma]
  split
  · rename_i c rest hs
    rw [drop_length_takeWhile, dropWhile_append_noHead hb hcomma, List.cons.injEq] at hs
    obtain ⟨rfl, rfl⟩ := hs
    simp only [List.isEmpty_iff, if_true, ← List.drop_drop, drop_length_takeWhile]
  · rename_i hs
    rw [drop_length_takeWhile, dropWhile_append_noHead hb hcomma] at hs
    cases hs

theorem moreNumbers_of_not_goesOn {s : List Char} (h : ¬ GoesOn s) : moreNumbers s = ([], 0) := by
  have hs : s = s.takeWhile isBlank ++ s.dropWhile isBlank := List.takeWhile_append_dropWhile.symm
  by_cases hc : ∃ after, s.dropWhile isBlank = ',' :: after
  · obtain ⟨after, ha⟩ := hc
    rw [hs, ha, moreNumbers_comma fun b => List.mem_takeWhile_imp]
    cases hdig : (after.dropWhile isBlank).takeWhile isDigit with
    | nil => rfl
    | cons e es =>
      have he : isDigit e = true := List.mem_takeWhile_imp (hdig ▸ List.mem_cons_self)
      obtain ⟨t, ht⟩ := List.takeWhile_prefix (l := after.dropWhile isBlank) isDigit
      refine absurd (Or.inr ⟨s.takeWhile isBlank, after.takeWhile isBlank, e, es ++ t,
        fun b => List.mem_takeWhile_imp, fun b => List.mem_takeWhile_imp, he, ?_⟩) h
      rw [← @List.cons_append _ e es t, ← hdig, ht, List.takeWhile_append_dropWhile, ← ha, ← hs]
  · rw [moreNumbers]
    simp only [drop_length_takeWhile]
    split
    · rename_i c after hd
      rw [if_neg]
      rintro rfl
      exact hc ⟨after, by rw [← drop_length_takeWhile, hd]⟩
    · rfl

/-- A list is read as far as it goes. -/
theorem moreNumbers_append {ds : List (List Char)} {z rest : List Char} (hz : MoreText ds z)
    (hr : ¬ GoesOn rest) : moreNumbers (z ++ rest) = (ds, z.length) := by
  induction hz with
  | nil => exact moreNumbers_of_not_goesOn hr
  | @cons before after d ds t hb ha hd ht ih =>
    have hend := ht.noHead_digit (noHead_digit_of_not_goesOn hr)
    simp only [List.append_assoc, List.cons_append]
    rw [moreNumbers_comma hb, takeWhile_append_noHead ha (hd.noHead_blank _),
      dropWhile_append_noHead ha (hd.noHead_blank _), takeWhile_append_noHead hd.2 hend,
      dropWhile_append_noHead hd.2 hend, if_neg hd.1, ih]
    simp only [List.length_append, List.length_cons, Prod.mk.injEq, true_and]
    omega

/-- Every text begins with the further numbers that are read from it, and what follows them does not
carry the list on. -/
theorem exists_moreText (s : List Char) (hs : NoHead isDigit s) :
    ∃ z rest, s = z ++ rest ∧ MoreText (moreNumbers s).1 z ∧ ¬ GoesOn rest := by
  by_cases h : GoesOn s
  · rcases h with ⟨c, t, rfl, hc⟩ | ⟨before, after, c, t, hb, ha, hc, rfl⟩
    · have := hs c rfl
      rw [hc] at this; cases this
    · -- the next number and what is read behind it
      have hsplit : c :: t = (c :: t).takeWhile isDigit ++ (c :: t).dropWhile isDigit :=
        List.takeWhile_append_dropWhile.symm
      have hd : IsNumber ((c :: t).takeWhile isDigit) := by
        refine ⟨?_, fun b => List.mem_takeWhile_imp⟩
        rw [List.takeWhile_cons_of_pos hc]; simp
      obtain ⟨z, rest, hz, hm, hr⟩ := exists_moreText ((c :: t).dropWhile isDigit) (noHead_dropWhile _ _)
      have hmore := MoreText.cons hb ha hd hm
      have hall : before ++ ',' :: (after ++ c :: t) =
          (before ++ ',' :: (after ++ ((c :: t).takeWhile isDigit ++ z))) ++ rest := by
        simp only [List.append_assoc, List.cons_append, ← hz, ← hsplit]
      have hread := moreNumbers_append hmore hr
      rw [hall, hread]
      exact ⟨_, rest, rfl, hmore, hr⟩
  · rw [moreNumbers_of_not_goesOn h]
    exact ⟨[], s, rfl, MoreText.nil, h⟩
termination_by s.length
decreasing_by
  have := (List.dropWhile_sublist (l := c :: t) isDigit).length_le
  subst_vars
  simp only [List.length_append, List.length_cons] at this ⊢
  omega

/-- A list of numbers. -/
inductive ListText : List (List Char) → List Char → Prop
  | mk {d : List Char} {ds : List (List Char)} {t : List Char} : IsNumber d → MoreText ds t →
      ListText (d :: ds) (d ++ t)

/-- The characters that lists of numbers are made of. -/
def isListChar (c : Char) : Bool := isBlank c || isDigit c || c == ','

theorem isLatin_of_isListChar {c : Char} (h : isListChar c = true) : Text.isLatin c = false := by
  simp only [isListChar, Bool.or_eq_true, beq_iff_eq] at h
  rcases h with (h | h) | rfl
  · exact Text.isLatin_of_isBlank h
  · exact Text.isLatin_of_isDigit h
  · decide

theorem IsNumber.isListChar {d : List Char} (h : IsNumber d) : ∀ c ∈ d, isListChar c = true :=
  fun c hc => by simp [Program.isListChar, h.2 c hc]

theorem MoreText.isListChar {ds : List (List Char)} {t : List Char} (h : MoreText ds t) :
    ∀ c ∈ t, isListChar c = true := by
  induction h with
  | nil => simp
  | cons hb ha hd _ ih =>
    intro c hc
    simp only [List.mem_append, List.mem_cons] at hc
    rcases hc with hc | rfl | hc | hc | hc
    · simp [Program.isListChar, hb c hc]
    · decide
    · simp [Program.isListChar, ha c hc]
    · exact hd.isListChar c hc
    · exact ih c hc

theorem ListText.isListChar {numbers : List (List Char)} {t : List Char} (h : ListText numbers t) :
    ∀ c ∈ t, isListChar c = true := by
  obtain ⟨hd, ht⟩ := h
  intro c hc
  rcases List.mem_append.1 hc with hc | hc
  · exact hd.isListChar c hc
  · exact ht.isListChar c hc

theorem ListText.not_latin {numbers : List (List Char)} {t : List Char} (h : ListText numbers t) :
    ∀ c ∈ t, Text.isLatin c = false :=
  fun c hc => isLatin_of_isListChar (h.isListChar c hc)

/-- A text that starts with characters of lists keeps them when only what comes behind is changed. -/
theorem append_of_takeWhile_eq {s t z u : List Char} (h : s.takeWhile isListChar = t.takeWhile isListChar)
    (hz : ∀ c ∈ z, isListChar c = true) (hs : s = z ++ u) : ∃ v, t = z ++ v := by
  rw [hs, List.takeWhile_append_of_pos hz] at h
  refine ⟨u.takeWhile isListChar ++ t.dropWhile isListChar, ?_⟩
  rw [← List.append_assoc, h, List.takeWhile_append_dropWhile]

/-- Whether a list goes on depends on the characters of lists at the head only. -/
theorem GoesOn.congr {s t : List Char} (h : s.takeWhile isListChar = t.takeWhile isListChar)
    (hs : GoesOn s) : GoesOn t := by
  rcases hs with ⟨c, u, hs, hc⟩ | ⟨before, after, c, u, hb, ha, hc, hs⟩
  · obtain ⟨v, hv⟩ := append_of_takeWhile_eq (z := [c]) (u := u) h (by simp [isListChar, hc]) hs
    exact Or.inl ⟨c, v, hv, hc⟩
  · have hd : IsNumber [c] := ⟨by simp, by simpa using hc⟩
    obtain ⟨v, hv⟩ := append_of_takeWhile_eq (z := before ++ ',' :: (after ++ ([c] ++ []))) (u := u) h
      (MoreText.cons hb ha hd MoreText.nil).isListChar (by simp [hs])
    exact Or.inr ⟨before, after, c, v, hb, ha, hc, by simp [hv]⟩

theorem GoesOn.append {s : List Char} (h : GoesOn s) (t : List Char) : GoesOn (s ++ t) := by
  rcases h with ⟨c, u, rfl, hc⟩ | ⟨before, after, c, u, hb, ha, hc, rfl⟩
  · exact Or.inl ⟨c, u ++ t, rfl, hc⟩
  · exact Or.inr ⟨before, after, c, u ++ t, hb, ha, hc, by simp⟩

/-- Only a character of lists carries a list on. -/
theorem not_goesOn {s : List Char} (h : NoHead isListChar s) : ¬ GoesOn s := by
  rintro (⟨c, t, rfl, hc⟩ | ⟨before, after, c, t, hb, -, -, rfl⟩)
  · have := h c rfl
    rw [isListChar, hc] at this
    simp at this
  · cases before with
    | nil => exact absurd (h ',' rfl) (by decide)
    | cons b before =>
      have := h b rfl
      rw [isListChar, hb b List.mem_cons_self] at this
      simp at this

/-! ## References -/

/-- What leads to the numbers of a reference: its word in some form and blanks. -/
structure Leads (word form gap : List Char) : Prop where
  word : form.map capital = word
  gap_ne : gap ≠ []
  blank : ∀ c ∈ gap, isBlank c = true

/-- A reference by a word: what leads to its numbers, a list of them and a text that does not carry the
list on. -/
structure Refers (word form gap : List Char) (numbers : List (List Char)) (list rest : List Char) : Prop
    extends Leads word form gap where
  list : ListText numbers list
  stops : ¬ GoesOn rest

theorem ListText.noHead_blank {numbers : List (List Char)} {list : List Char} (h : ListText numbers list)
    (rest : List Char) : NoHead isBlank (list ++ rest) := by
  cases h with
  | mk hd ht =>
    rw [List.append_assoc]
    exact hd.noHead_blank _

theorem IsNumber.exists_last {d : List Char} (h : IsNumber d) : ∃ t c, d = t ++ [c] ∧ isDigit c = true :=
  ⟨d.dropLast, d.getLast h.1, (List.dropLast_concat_getLast h.1).symm, h.2 _ (List.getLast_mem h.1)⟩

theorem MoreText.exists_last {ds : List (List Char)} {t : List Char} (h : MoreText ds t) (hne : t ≠ []) :
    ∃ u c, t = u ++ [c] ∧ isDigit c = true := by
  induction h with
  | nil => exact absurd rfl hne
  | @cons before after d ds t hb ha hd ht ih =>
    obtain ⟨u, c, heq, hc⟩ : ∃ u c, d ++ t = u ++ [c] ∧ isDigit c = true := by
      by_cases htail : t = []
      · rw [htail, List.append_nil]
        exact hd.exists_last
      · obtain ⟨u, c, rfl, hc⟩ := ih htail
        exact ⟨d ++ u, c, by rw [List.append_assoc], hc⟩
    exact ⟨before ++ ',' :: (after ++ u), c, by rw [heq]; simp, hc⟩

/-- A list of numbers ends with a digit. -/
theorem ListText.exists_last {numbers : List (List Char)} {list : List Char} (h : ListText numbers list) :
    ∃ t c, list = t ++ [c] ∧ isDigit c = true := by
  obtain ⟨hd, ht⟩ := h
  rename_i d ds t
  by_cases htail : t = []
  · rw [htail, List.append_nil]
    exact hd.exists_last
  · obtain ⟨u, c, rfl, hc⟩ := ht.exists_last htail
    exact ⟨d ++ u, c, by rw [List.append_assoc], hc⟩

/-- Where the grammar has a reference, it is read. -/
theorem Refers.reference?_append {word form gap : List Char} {numbers : List (List Char)}
    {list rest : List Char} (hw : ∀ p ∈ word, p.isUpper) (h : Refers word form gap numbers list rest) :
    reference? word (form ++ (gap ++ (list ++ rest))) =
      some ⟨form ++ gap, numbers, (form ++ (gap ++ list)).length⟩ := by
  have hlen : word.length = form.length := by rw [← h.word, List.length_map]
  have hstart : Text.startsFolded word (form ++ (gap ++ (list ++ rest))) = true := by
    rw [Text.startsFolded_iff hw, List.map_append, h.word]
    exact List.prefix_append _ _
  have hgap := h.list.noHead_blank rest
  have hgap_ne := h.gap_ne
  obtain ⟨hd, ht⟩ := h.list
  rename_i d ds t
  rw [List.append_assoc] at hgap
  have hend := ht.noHead_digit (noHead_digit_of_not_goesOn h.stops)
  rw [reference?, if_pos hstart]
  simp only [hlen, List.drop_left, takeWhile_append_noHead h.blank hgap, List.append_assoc,
    takeWhile_append_noHead hd.2 hend]
  rw [if_neg (by simp [hgap_ne, hd.1])]
  rw [show form.length + gap.length = (form ++ gap).length by simp,
    show form ++ (gap ++ (d ++ (t ++ rest))) = (form ++ gap) ++ (d ++ (t ++ rest)) by simp,
    ← List.drop_drop, List.drop_left, List.drop_left, List.take_left,
    moreNumbers_append ht h.stops]
  simp only [List.length_append, Option.some.injEq, Reference.mk.injEq, true_and]
  omega

/-- What is read as a reference is one of the grammar. -/
theorem exists_refers {word s : List Char} {r : Reference} (hw : ∀ p ∈ word, p.isUpper)
    (h : reference? word s = some r) :
    ∃ form gap list rest, s = form ++ (gap ++ (list ++ rest)) ∧ Refers word form gap r.numbers list rest := by
  rw [reference?] at h
  split at h
  · rename_i hstart
    rw [Text.startsFolded_iff hw] at hstart
    obtain ⟨u, hu⟩ := hstart
    obtain ⟨form, after, rfl, hform, -⟩ := List.map_eq_append_iff.1 hu.symm
    have hlen : word.length = form.length := by rw [← hform, List.length_map]
    simp only [hlen, List.drop_left, drop_length_takeWhile] at h
    split at h
    · cases h
    · rename_i hne
      simp only [Bool.or_eq_true, List.isEmpty_iff, not_or] at hne
      have hafter : after = after.takeWhile isBlank ++ after.dropWhile isBlank :=
        List.takeWhile_append_dropWhile.symm
      have hdigits : after.dropWhile isBlank =
          (after.dropWhile isBlank).takeWhile isDigit ++ (after.dropWhile isBlank).dropWhile isDigit :=
        List.takeWhile_append_dropWhile.symm
      obtain ⟨z, rest, hz, hm, hr⟩ :=
        exists_moreText ((after.dropWhile isBlank).dropWhile isDigit) (noHead_dropWhile _ _)
      have hnumber : IsNumber ((after.dropWhile isBlank).takeWhile isDigit) :=
        ⟨hne.2, fun c => List.mem_takeWhile_imp⟩
      rw [← List.drop_drop, ← List.drop_drop, List.drop_left, drop_length_takeWhile,
        drop_length_takeWhile, Option.some.injEq] at h
      subst h
      refine ⟨form, after.takeWhile isBlank, (after.dropWhile isBlank).takeWhile isDigit ++ z, rest, ?_,
        ⟨hform, hne.1, fun c => List.mem_takeWhile_imp⟩, ListText.mk hnumber hm, hr⟩
      rw [List.append_assoc, ← hz, ← hdigits, ← hafter]
  · cases h

/-- A word in some form, a blank and later a digit are enough for a reference. -/
theorem reference?_isSome {word form gap t : List Char} {c : Char} (hw : ∀ p ∈ word, p.isUpper)
    (hform : form.map capital = word) (hne : gap ≠ []) (hgap : ∀ b ∈ gap, isBlank b = true)
    (hc : isDigit c = true) : (reference? word (form ++ (gap ++ c :: t))).isSome = true := by
  have hlen : word.length = form.length := by rw [← hform, List.length_map]
  have hstart : Text.startsFolded word (form ++ (gap ++ c :: t)) = true := by
    rw [Text.startsFolded_iff hw, List.map_append, hform]
    exact List.prefix_append _ _
  have hhead : NoHead isBlank (c :: t) := by
    intro b hb
    rw [List.head?_cons, Option.mem_some_iff] at hb
    rw [← hb]; exact Text.isBlank_of_isDigit hc
  rw [reference?, if_pos hstart]
  simp only [hlen, List.drop_left, takeWhile_append_noHead hgap hhead, List.takeWhile_cons_of_pos hc]
  rw [if_neg (by simp [hne])]
  rfl

/-! ## The words of references -/

theorem isUpper_referenceWords : ∀ word ∈ referenceWords, ∀ p ∈ word, p.isUpper = true := by
  have hall : ∀ word ∈ referenceWords, word.all Char.isUpper = true := by decide
  exact fun word hw => List.all_eq_true.1 (hall word hw)

theorem referenceWords_ne_nil : ∀ word ∈ referenceWords, word ≠ [] := by decide

/-- No word of references ends with another one. -/
theorem drop_referenceWords : ∀ word ∈ referenceWords, ∀ other ∈ referenceWords, ∀ i < word.length,
    word.drop i = other → i = 0 ∧ word = other := by decide

theorem isLatin_of_form {word form : List Char} (hw : word ∈ referenceWords) (h : form.map capital = word)
    {c : Char} (hc : c ∈ form) : Text.isLatin c = true :=
  Text.isLatin_of_isUpper_capital (isUpper_referenceWords word hw _ (h ▸ List.mem_map_of_mem hc))

theorem form_ne_nil {word form : List Char} (hw : word ∈ referenceWords) (h : form.map capital = word) :
    form ≠ [] := by
  rintro rfl
  exact referenceWords_ne_nil word hw h.symm

theorem takeWhile_latin {s t : List Char} {b : Char} (hs : ∀ c ∈ s, Text.isLatin c = true)
    (hb : isBlank b = true) : (s ++ b :: t).takeWhile Text.isLatin = s := by
  refine takeWhile_append_noHead hs ?_
  intro c hc
  rw [List.head?_cons, Option.mem_some_iff] at hc
  rw [← hc]; exact Text.isLatin_of_isBlank hb

/-- Two words that overlap, both with a blank behind them, are one and the same. -/
theorem eq_of_overlap {word other form form' t t' : List Char} {b b' : Char} {i : Nat}
    (hw : word ∈ referenceWords) (ho : other ∈ referenceWords) (h : form.map capital = word)
    (h' : form'.map capital = other) (hb : isBlank b = true) (hb' : isBlank b' = true)
    (hi : i < form.length) (heq : (form ++ b :: t).drop i = form' ++ b' :: t') : i = 0 ∧ word = other := by
  have hdrop : (form ++ b :: t).drop i = form.drop i ++ b :: t :=
    List.drop_append_of_le_length (Nat.le_of_lt hi)
  have hfirst : (form.drop i ++ b :: t).takeWhile Text.isLatin = form.drop i :=
    takeWhile_latin (fun c hc => isLatin_of_form hw h (List.mem_of_mem_drop hc)) hb
  have hform : form.drop i = form' := by
    rw [← hfirst, ← hdrop, heq, takeWhile_latin (fun c hc => isLatin_of_form ho h' hc) hb']
  refine drop_referenceWords word hw other ho i (by rwa [← h, List.length_map]) ?_
  rw [← h, ← List.map_drop, hform, h']

theorem exists_mem_drop {s t u : List Char} {i : Nat} (hge : s.length ≤ i) (hi : i < (s ++ t).length) :
    ∃ c v, (s ++ (t ++ u)).drop i = c :: v ∧ c ∈ t := by
  have hlt : i - s.length < t.length := by
    rw [List.length_append] at hi
    omega
  rw [List.drop_append, List.drop_eq_nil_of_le hge, List.nil_append,
    List.drop_append_of_le_length (Nat.le_of_lt hlt), List.drop_eq_getElem_cons hlt]
  exact ⟨_, _, rfl, List.getElem_mem hlt⟩

/-- Inside a reference, or what a change has made of it, no other one starts. -/
theorem Leads.reference?_inside {word other form gap tail : List Char} (rest : List Char) {i : Nat}
    (hw : word ∈ referenceWords) (ho : other ∈ referenceWords) (h : Leads word form gap)
    (htail : ∀ c ∈ tail, Text.isLatin c = false) (hne : i ≠ 0 ∨ word ≠ other)
    (hi : i < (form ++ (gap ++ tail)).length) :
    reference? other ((form ++ (gap ++ (tail ++ rest))).drop i) = none := by
  cases hr : reference? other ((form ++ (gap ++ (tail ++ rest))).drop i) with
  | none => rfl
  | some r =>
    exfalso
    obtain ⟨form', gap', list', rest', heq, h'⟩ := exists_refers (isUpper_referenceWords other ho) hr
    by_cases hlt : i < form.length
    · obtain ⟨b, gap, rfl⟩ := List.exists_cons_of_ne_nil h.gap_ne
      obtain ⟨b', gap', rfl⟩ := List.exists_cons_of_ne_nil h'.gap_ne
      have := eq_of_overlap hw ho h.word h'.word (h.blank b List.mem_cons_self)
        (h'.blank b' List.mem_cons_self) hlt heq
      rcases hne with hne | hne
      · exact hne this.1
      · exact hne this.2
    · -- past the word stands no letter
      obtain ⟨c, u, hdrop, hc⟩ := exists_mem_drop (u := rest) (Nat.le_of_not_lt hlt) hi
      obtain ⟨d, form', rfl⟩ := List.exists_cons_of_ne_nil (form_ne_nil ho h'.word)
      rw [← List.append_assoc gap, hdrop, List.cons_append, List.cons.injEq] at heq
      have hd := isLatin_of_form ho h'.word List.mem_cons_self
      rw [← heq.1] at hd
      rcases List.mem_append.1 hc with hc | hc
      · rw [Text.isLatin_of_isBlank (h.blank c hc)] at hd
        cases hd
      · rw [htail c hc] at hd
        cases hd

end MsxWorkbench.Program
