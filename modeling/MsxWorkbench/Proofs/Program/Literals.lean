import MsxWorkbench.Proofs.Program.Occurrences
import MsxWorkbench.Proofs.Program.Verbatim
/-
# Strings and remarks under a change of references

The references of a line are changed wherever they stand. No reference reaches across a quote or the mark of a remark, so
a string or a remark is changed on its own and stays one (`NotCode.changeAll_eq`, `NotCode.changed`). It comes out as it
was exactly if every reference in it reads the same with its numbers changed (`changeAll_eq_self_iff`).
-/
namespace MsxWorkbench.Program

open Text (isBlank isDigit capital)

/-- What takes the place of numbers: numbers, with a sign or without one. -/
def Numeric (f : List Char → List Char) : Prop :=
  ∀ d, IsNumber d → IsNumber (f d) ∨ ∃ e, IsNumber e ∧ f d = '-' :: e

section
variable {f : List Char → List Char}

theorem Numeric.mem (hf : Numeric f) {d : List Char} (hd : IsNumber d) {c : Char} (hc : c ∈ f d) :
    isDigit c = true ∨ c = '-' := by
  rcases hf d hd with hnumber | ⟨e, he, heq⟩
  · exact Or.inl (hnumber.2 c hc)
  · rw [heq, List.mem_cons] at hc
    rcases hc with rfl | hc
    · exact Or.inr rfl
    · exact Or.inl (he.2 c hc)

theorem Numeric.not_latin (hf : Numeric f) : ∀ d, IsNumber d → ∀ c ∈ f d, Text.isLatin c = false := by
  intro d hd c hc
  rcases hf.mem hd hc with hdigit | rfl
  · exact Text.isLatin_of_isDigit hdigit
  · decide

theorem Numeric.quote_notMem (hf : Numeric f) {d : List Char} (hd : IsNumber d) : '"' ∉ f d := by
  intro hc
  rcases hf.mem hd hc with hdigit | hsign
  · revert hdigit
    decide
  · cases hsign

/-! ## Lists that stay -/

/-- Nothing but itself may take the place of a number in front of the same text. -/
theorem Numeric.eq_of_append (hf : Numeric f) {d x y : List Char} (hd : IsNumber d) (hx : NoHead isDigit x)
    (hy : NoHead isDigit y) (heq : f d ++ x = d ++ y) : f d = d ∧ x = y := by
  have hsame : f d = d := by
    rcases hf d hd with hnumber | ⟨e, -, hsign⟩
    · have hdigits := congrArg (List.takeWhile isDigit) heq
      rwa [takeWhile_append_noHead hnumber.2 hx, takeWhile_append_noHead hd.2 hy] at hdigits
    · obtain ⟨c, u, rfl⟩ := List.exists_cons_of_ne_nil hd.1
      rw [hsign, List.cons_append, List.cons_append, List.cons.injEq] at heq
      have hdigit := hd.2 c List.mem_cons_self
      rw [← heq.1] at hdigit
      exact absurd hdigit (by decide)
  rw [hsame] at heq
  exact ⟨hsame, List.append_cancel_left heq⟩

theorem Numeric.noHead_blank (hf : Numeric f) {d : List Char} (hd : IsNumber d) (t : List Char) :
    NoHead isBlank (f d ++ t) := by
  rcases hf d hd with hnumber | ⟨e, -, hsign⟩
  · exact hnumber.noHead_blank t
  · intro c hc
    rw [hsign, List.cons_append, List.head?_cons, Option.mem_some_iff] at hc
    rw [← hc]
    decide

theorem intercalate_comma (d e : List Char) (ds : List (List Char)) :
    [',', ' '].intercalate (d :: e :: ds) = d ++ ',' :: ' ' :: [',', ' '].intercalate (e :: ds) := by
  rw [List.intercalate_cons_cons, List.append_assoc]
  rfl

theorem Numeric.noHead_blank_intercalate (hf : Numeric f) {d : List Char} (hd : IsNumber d) (ds : List (List Char))
    (tail : List Char) : NoHead isBlank ([',', ' '].intercalate ((d :: ds).map f) ++ tail) := by
  cases ds with
  | nil =>
    rw [List.map_cons, List.map_nil, List.intercalate_singleton]
    exact hf.noHead_blank hd tail
  | cons e ds =>
    rw [List.map_cons, List.map_cons, intercalate_comma, List.append_assoc]
    exact hf.noHead_blank hd _

theorem noHead_digit_comma (t : List Char) : NoHead isDigit (',' :: t) := by
  intro c hc
  rw [List.head?_cons, Option.mem_some_iff] at hc
  rw [← hc]
  exact isDigit_comma

/-- Changed numbers that fill the place of a list exactly are written as the list is. -/
theorem MoreText.intercalate_eq (hf : Numeric f) {ds : List (List Char)} {t rest tail : List Char}
    (h : MoreText ds t) (hrest : ¬ GoesOn rest) (htail : ¬ GoesOn tail) : ∀ {d : List Char}, IsNumber d →
    [',', ' '].intercalate ((d :: ds).map f) ++ tail = d ++ (t ++ rest) →
    [',', ' '].intercalate ((d :: ds).map f) = d ++ t := by
  induction h with
  | nil =>
    intro d hd heq
    rw [List.map_cons, List.map_nil, List.intercalate_singleton] at heq ⊢
    obtain ⟨hsame, -⟩ := hf.eq_of_append hd (noHead_digit_of_not_goesOn htail) (noHead_digit_of_not_goesOn hrest) heq
    rw [hsame, List.append_nil]
  | @cons before after e ds t hbefore hafter he ht ih =>
    intro d hd heq
    have hmore : NoHead isDigit ((before ++ ',' :: (after ++ (e ++ t))) ++ rest) :=
      (MoreText.cons hbefore hafter he ht).noHead_digit (noHead_digit_of_not_goesOn hrest)
    rw [List.map_cons, List.map_cons, intercalate_comma] at heq ⊢
    rw [← List.map_cons] at heq ⊢
    rw [List.append_assoc, List.cons_append, List.cons_append] at heq
    obtain ⟨hsame, heq⟩ := hf.eq_of_append hd (noHead_digit_comma _) hmore heq
    -- the comma comes first, and one blank behind it
    have hnone : before = [] := by
      cases before with
      | nil => rfl
      | cons b before =>
        rw [List.cons_append, List.cons_append, List.cons.injEq] at heq
        have hblank := hbefore b List.mem_cons_self
        rw [← heq.1, isBlank_comma] at hblank
        cases hblank
    subst hnone
    simp only [List.nil_append, List.cons_append, List.append_assoc, List.cons.injEq, true_and] at heq
    have hone : [' '] = after := by
      have hblanks := congrArg (List.takeWhile isBlank) heq
      rwa [← List.singleton_append,
        takeWhile_append_noHead (List.forall_mem_singleton.2 rfl) (hf.noHead_blank_intercalate he ds tail),
        takeWhile_append_noHead hafter (he.noHead_blank _)] at hblanks
    subst hone
    rw [List.singleton_append, List.cons.injEq] at heq
    rw [hsame, ih he heq.2]
    rfl

/-! ## Texts that stay -/

/-- Every reference in a text reads the same with its numbers changed. -/
def KeepsReferences (f : List Char → List Char) (s : List Char) : Prop :=
  ∀ word ∈ referenceWords, ∀ pre form gap numbers list post, s = pre ++ (form ++ (gap ++ (list ++ post))) →
    Refers word form gap numbers list post → [',', ' '].intercalate (numbers.map f) = list

theorem keepsReferences_cons {c : Char} {s : List Char}
    (hnone : ∀ word ∈ referenceWords, reference? word (c :: s) = none) :
    KeepsReferences f (c :: s) ↔ KeepsReferences f s := by
  constructor
  · intro h word hw pre form gap numbers list post hs href
    exact h word hw (c :: pre) form gap numbers list post (by rw [hs]; rfl) href
  · intro h word hw pre form gap numbers list post hs href
    cases pre with
    | nil =>
      have hread := href.reference?_append (isUpper_referenceWords word hw)
      rw [List.nil_append] at hs
      rw [← hs, hnone word hw] at hread
      cases hread
    | cons d pre =>
      rw [List.cons_append, List.cons.injEq] at hs
      exact h word hw pre form gap numbers list post hs.2 href

/-- Where a reference stands there is only this one. -/
theorem Refers.unique {word other form gap list rest form' gap' list' rest' : List Char}
    {numbers numbers' : List (List Char)} (hw : word ∈ referenceWords) (ho : other ∈ referenceWords)
    (h : Refers word form gap numbers list rest) (h' : Refers other form' gap' numbers' list' rest')
    (heq : form ++ (gap ++ (list ++ rest)) = form' ++ (gap' ++ (list' ++ rest'))) :
    numbers = numbers' ∧ list = list' := by
  have hread := h'.reference?_append (isUpper_referenceWords other ho)
  by_cases hsame : word = other
  · subst hsame
    rw [← heq, h.reference?_append (isUpper_referenceWords word hw), Option.some.injEq, Reference.mk.injEq] at hread
    obtain ⟨hlead, hnumbers, hsize⟩ := hread
    refine ⟨hnumbers, ?_⟩
    have hlists : list ++ rest = list' ++ rest' := by
      rw [← List.append_assoc, ← List.append_assoc form', hlead] at heq
      exact List.append_cancel_left heq
    have hlength : list.length = list'.length := by
      have hleads := congrArg List.length hlead
      simp only [List.length_append] at hleads hsize
      omega
    exact List.append_inj_left hlists hlength
  · have hnone := h.toLeads.reference?_inside (i := 0) rest hw ho h.list.not_latin (Or.inr hsame)
      (List.length_pos_iff.2 (by simp [form_ne_nil hw h.word]))
    rw [List.drop_zero, heq, hread] at hnone
    cases hnone

theorem Refers.keepsReferences_iff {word form gap list rest : List Char} {numbers : List (List Char)}
    (hw : word ∈ referenceWords) (h : Refers word form gap numbers list rest) :
    KeepsReferences f (form ++ (gap ++ (list ++ rest))) ↔
      [',', ' '].intercalate (numbers.map f) = list ∧ KeepsReferences f rest := by
  have hfront : ∀ tail, form ++ (gap ++ (list ++ tail)) = (form ++ (gap ++ list)) ++ tail := by simp
  constructor
  · intro hkeeps
    refine ⟨hkeeps word hw [] form gap numbers list rest rfl h, ?_⟩
    intro other ho pre form' gap' numbers' list' post hs href
    refine hkeeps other ho (form ++ (gap ++ (list ++ pre))) form' gap' numbers' list' post ?_ href
    rw [hs]
    simp only [List.append_assoc]
  · rintro ⟨hlist, hkeeps⟩ other ho pre form' gap' numbers' list' post hs href
    by_cases hnil : pre = []
    · subst hnil
      obtain ⟨rfl, rfl⟩ := h.unique hw ho href hs
      exact hlist
    · by_cases hlt : pre.length < (form ++ (gap ++ list)).length
      · -- inside a reference no other one starts
        have hnone := h.toLeads.reference?_inside rest hw ho h.list.not_latin
          (Or.inl (List.length_pos_iff.2 hnil).ne') hlt
        rw [hs, List.drop_left, href.reference?_append (isUpper_referenceWords other ho)] at hnone
        cases hnone
      · rw [hfront] at hs
        obtain ⟨more, rfl⟩ : form ++ (gap ++ list) <+: pre := by
          refine List.prefix_of_prefix_length_le (List.prefix_append _ rest) ?_ (Nat.le_of_not_lt hlt)
          rw [hs]
          exact List.prefix_append _ _
        rw [List.append_assoc _ more] at hs
        have hrest := List.append_cancel_left hs
        exact hkeeps other ho more form' gap' numbers' list' post hrest href

theorem passes_char {c : Char} : ∀ {words : List (List Char)} {s : List Char}, (∀ w ∈ words, w ∈ referenceWords) →
    (∀ word ∈ referenceWords, reference? word (c :: s) = none) → passes f words (c :: s) = c :: passes f words s
  | [], _, _, _ => rfl
  | w :: words, s, hwords, hnone => by
    have hw := hwords w List.mem_cons_self
    rw [passes_cons, passes_cons, changeRefs_cons (hnone w hw)]
    exact passes_char (fun v hv => hwords v (List.mem_cons_of_mem _ hv)) fun v hv =>
      reference?_changeRefs hw hv (hnone v hv)

@[simp] theorem changeAll_nil : changeAll f [] = [] := by
  simp [changeAll, referenceWords]

theorem goesOn_changeAll {s : List Char} : GoesOn (changeAll f s) ↔ GoesOn s := goesOn_passes fun _ hw => hw

theorem Refers.changeAll_eq {word form gap list rest : List Char} {numbers : List (List Char)}
    (hw : word ∈ referenceWords) (hf : ∀ d, IsNumber d → ∀ c ∈ f d, Text.isLatin c = false)
    (h : Refers word form gap numbers list rest) :
    changeAll f (form ++ (gap ++ (list ++ rest))) =
      form ++ (gap ++ ([',', ' '].intercalate (numbers.map f) ++ changeAll f rest)) := by
  have hchange := @changeAll_spaced f word form gap list [] rest numbers hw hf h
  rwa [List.nil_append, changeAll_nil, List.nil_append] at hchange

theorem changeAll_cons {c : Char} {s : List Char} (h : ∀ word ∈ referenceWords, reference? word (c :: s) = none) :
    changeAll f (c :: s) = c :: changeAll f s :=
  passes_char (fun _ hw => hw) h

/-- **A text comes out as it was exactly if every reference in it does.** -/
theorem changeAll_eq_self_iff (hf : Numeric f) (s : List Char) : changeAll f s = s ↔ KeepsReferences f s := by
  induction s using induction_refers referenceWords (fun _ h => h) with
  | nil =>
    refine iff_of_true changeAll_nil ?_
    intro word hw pre form gap numbers list post hs href
    have hne := form_ne_nil hw href.word
    simp [hne] at hs
  | refers word hw form gap numbers list rest href ih =>
    rw [href.changeAll_eq hw hf.not_latin, href.keepsReferences_iff hw, ← ih, List.append_cancel_left_eq,
      List.append_cancel_left_eq]
    constructor
    · intro heq
      have hlist : [',', ' '].intercalate (numbers.map f) = list := by
        obtain ⟨hd, ht⟩ := href.list
        rw [List.append_assoc] at heq
        exact ht.intercalate_eq hf href.stops (goesOn_changeAll.not.2 href.stops) hd heq
      rw [hlist] at heq
      exact ⟨hlist, List.append_cancel_left heq⟩
    · rintro ⟨hlist, hrest⟩
      rw [hlist, hrest]
  | cons c s hnone ih =>
    rw [changeAll_cons hnone, keepsReferences_cons hnone, ← ih, List.cons.injEq]
    simp

/-! ## Marks between texts -/

/-- A text that every pass leaves, and that no reference reaches across. -/
def IsMark (mark : List Char) : Prop :=
  ∀ f, ∀ word ∈ referenceWords, ∀ pre post, changeRefs f word (pre ++ (mark ++ post)) =
    changeRefs f word pre ++ (mark ++ changeRefs f word post)

theorem IsMark.changeAll_eq {mark : List Char} (h : IsMark mark) (pre post : List Char) :
    changeAll f (pre ++ (mark ++ post)) = changeAll f pre ++ (mark ++ changeAll f post) :=
  passes_fixed (h f) pre post

theorem isMark_singleton {c : Char} (hlatin : Text.isLatin c = false) (hlist : isListChar c = false) : IsMark [c] := by
  intro f word hw pre post
  rw [List.singleton_append, changeRefs_append hw (divides_cons post hw hlatin hlist),
    changeRefs_cons_of_not_latin hw hlatin]
  rfl

/-- The letters of a remark in some form. -/
def IsRem (mark : List Char) : Prop := mark.map capital = ['R', 'E', 'M']

theorem drop_rem_referenceWords : ∀ word ∈ referenceWords, ∀ i < 3, ¬ ['R', 'E', 'M'].drop i <+: word := by decide

theorem three_le_referenceWords : ∀ word ∈ referenceWords, 3 ≤ word.length := by decide

section
variable {word mark : List Char}

/-- No reference starts at the letters of a remark. -/
theorem IsRem.reference?_eq_none (h : IsRem mark) (hw : word ∈ referenceWords) (post : List Char) {i : Nat}
    (hi : i < mark.length) : reference? word ((mark ++ post).drop i) = none := by
  cases hr : reference? word ((mark ++ post).drop i) with
  | none => rfl
  | some r =>
    exfalso
    obtain ⟨form, gap, list, rest, heq, href⟩ := exists_refers (isUpper_referenceWords word hw) hr
    rw [List.drop_append_of_le_length (Nat.le_of_lt hi)] at heq
    have hlength : mark.length = 3 := by rw [← List.length_map (f := capital), h]; rfl
    have hform : form.length = word.length := by rw [← href.word, List.length_map]
    have hfront : mark.drop i <+: form := by
      refine List.prefix_of_prefix_length_le (List.prefix_append _ post) ?_ ?_
      · rw [heq]
        exact List.prefix_append _ _
      · have hthree := three_le_referenceWords word hw
        rw [List.length_drop]
        omega
    have hletters := hfront.map capital
    rw [List.map_drop, h, href.word] at hletters
    exact drop_rem_referenceWords word hw i (by omega) hletters

theorem IsRem.exists_letters (h : IsRem mark) : ∃ x y z, mark = [x, y, z] ∧ capital x = 'R' ∧ capital y = 'E' ∧
    capital z = 'M' := by
  obtain ⟨x, more, rfl, hx, hmore⟩ := List.map_eq_cons_iff.1 h
  obtain ⟨y, more, rfl, hy, hmore⟩ := List.map_eq_cons_iff.1 hmore
  obtain ⟨z, more, rfl, hz, hmore⟩ := List.map_eq_cons_iff.1 hmore
  rw [List.map_eq_nil_iff] at hmore
  exact ⟨x, y, z, by rw [hmore], hx, hy, hz⟩

theorem isBlank_of_capital {c p : Char} (hc : capital c = p) (hp : p.isUpper = true) : isBlank c = false := by
  have hlatin := Text.isLatin_of_isUpper_capital (hc ▸ hp)
  cases hb : isBlank c with
  | false => rfl
  | true =>
    rw [Text.isLatin_of_isBlank hb] at hlatin
    cases hlatin

theorem IsRem.divides (h : IsRem mark) (hw : word ∈ referenceWords) (post : List Char) :
    Divides word (mark ++ post) := by
  obtain ⟨x, y, z, rfl, hx, hy, hz⟩ := h.exists_letters
  constructor
  · intro c hc
    rw [List.cons_append, List.head?_cons, Option.mem_some_iff] at hc
    subst hc
    cases hlist : isListChar x with
    | false => rfl
    | true =>
      have hlatin := Text.isLatin_of_isUpper_capital (c := x) (by rw [hx]; decide)
      rw [isLatin_of_isListChar hlist] at hlatin
      cases hlatin
  · intro form b u hne hsuffix _ hb heq
    -- a blank behind one or two letters would be one of the letters, and no word has all three
    match form, hne with
    | [_], _ =>
      simp only [List.cons_append, List.nil_append, List.cons.injEq] at heq
      rw [← heq.2.1, isBlank_of_capital hy (by decide)] at hb
      cases hb
    | [_, _], _ =>
      simp only [List.cons_append, List.nil_append, List.cons.injEq] at heq
      rw [← heq.2.2.1, isBlank_of_capital hz (by decide)] at hb
      cases hb
    | c :: d :: e :: form, _ =>
      simp only [List.cons_append, List.cons.injEq] at heq
      obtain ⟨rfl, rfl, rfl, -⟩ := heq
      obtain ⟨front, hfront⟩ := hsuffix
      have hlength : front.length < word.length := by
        rw [← hfront, List.length_append]
        simp
      refine drop_referenceWords_remark word hw front.length hlength ?_
      rw [← hfront, List.drop_left, List.map_cons, List.map_cons, List.map_cons, hx, hy, hz]
      exact ⟨form.map capital, rfl⟩

theorem IsRem.isMark (h : IsRem mark) : IsMark mark := by
  intro f word hw pre post
  have hparts : parts word 0 (mark ++ post) = mark.map .char ++ parts word 0 post :=
    parts_append fun i hi => h.reference?_eq_none hw post hi
  rw [changeRefs_append hw (h.divides hw post), changeRefs, changeRefs, hparts, List.flatMap_append,
    flatMap_change_map_char, changeRefs]

end

/-! ## Strings and remarks -/

/-- A text of a line that is not code stands between `pre` and `post`: a string, or what follows the mark of a remark, an
apostrophe or the letters REM outside strings, up to the end of the line. -/
inductive NotCode : List Char → List Char → List Char → Prop
  | string {pre middle post : List Char} : StringAt pre middle post → NotCode pre middle post
  | remark {code mark middle : List Char} : OutsideStrings code → mark = [Text.apostrophe] ∨ IsRem mark →
      NotCode (code ++ mark) middle []

theorem isMark_remark {mark : List Char} (h : mark = [Text.apostrophe] ∨ IsRem mark) : IsMark mark := by
  rcases h with rfl | h
  · exact isMark_singleton (by decide) (by decide)
  · exact h.isMark

theorem changeAll_quote (pre post : List Char) :
    changeAll f (pre ++ '"' :: post) = changeAll f pre ++ '"' :: changeAll f post := by
  have hmark : IsMark ['"'] := isMark_singleton (by decide) (by decide)
  have h := hmark.changeAll_eq (f := f) pre post
  rwa [List.singleton_append, List.singleton_append] at h

theorem changeAll_quoted (v : List Char) : changeAll f ('"' :: v) = '"' :: changeAll f v := by
  have h := changeAll_quote (f := f) [] v
  rwa [changeAll_nil, List.nil_append, List.nil_append] at h

/-- No reference reaches into a string or a remark, or out of it. -/
theorem NotCode.changeAll_eq {pre middle post : List Char} (h : NotCode pre middle post) :
    changeAll f (pre ++ (middle ++ post)) = changeAll f pre ++ (changeAll f middle ++ changeAll f post) := by
  cases h with
  | string hstring =>
    cases hstring with
    | closed =>
      rw [List.cons_append, List.append_assoc, List.singleton_append, changeAll_quote, changeAll_quote, changeAll_quoted,
        changeAll_quote, changeAll_nil]
      simp
    | unclosed => rw [List.append_nil, changeAll_quote, changeAll_quoted, changeAll_nil, List.append_nil]
  | @remark code mark _ _ hmark =>
    have hall := (isMark_remark hmark).changeAll_eq (f := f) code
    have hfront := hall []
    rw [List.append_nil, changeAll_nil, List.append_nil] at hfront
    rw [List.append_nil, List.append_assoc, hall middle, hfront, changeAll_nil, List.append_nil, List.append_assoc]

theorem quote_notMem_intercalate (hf : Numeric f) {numbers : List (List Char)} (h : ∀ d ∈ numbers, IsNumber d) :
    '"' ∉ [',', ' '].intercalate (numbers.map f) := by
  intro hc
  rcases mem_intercalate hc with ⟨d, hmem, hc⟩ | hc | hc
  · obtain ⟨e, he, rfl⟩ := List.mem_map.1 hmem
    exact hf.quote_notMem (h e he) hc
  · cases hc
  · cases hc

/-- A pass neither adds nor takes quotes. -/
theorem count_quote_changeRefs (hf : Numeric f) {word : List Char} (hw : word ∈ referenceWords) (s : List Char) :
    (changeRefs f word s).count '"' = s.count '"' := by
  induction s using induction_refers [word] (by simpa using hw) with
  | nil => rw [changeRefs_nil]
  | refers w hmem form gap numbers list rest href ih =>
    obtain rfl := List.mem_singleton.1 hmem
    have hlist : '"' ∉ list := fun hc => absurd (href.list.isListChar _ hc) (by decide)
    rw [href.changeRefs_eq hw]
    simp only [List.count_append, ih, List.count_eq_zero.2 hlist,
      List.count_eq_zero.2 (quote_notMem_intercalate hf href.list.isNumber)]
  | cons c s hnone ih => rw [changeRefs_cons (hnone word List.mem_cons_self), List.count_cons, List.count_cons, ih]

theorem count_quote_changeAll (hf : Numeric f) (s : List Char) : (changeAll f s).count '"' = s.count '"' := by
  refine changeAll_preserves (P := fun t => t.count '"' = s.count '"') (fun word hw t ht => ?_) rfl
  rw [count_quote_changeRefs hf hw, ht]

theorem OutsideStrings.changeAll (hf : Numeric f) {s : List Char} (h : OutsideStrings s) :
    OutsideStrings (changeAll f s) := by
  rwa [OutsideStrings, count_quote_changeAll hf]

/-- What becomes of a string is a string, and what becomes of a remark a remark. -/
theorem NotCode.changed (hf : Numeric f) {pre middle post : List Char} (h : NotCode pre middle post) :
    NotCode (changeAll f pre) (changeAll f middle) (changeAll f post) := by
  have hquotes : ∀ {v : List Char}, '"' ∉ v → '"' ∉ changeAll f v := by
    intro v hv
    rwa [← List.count_eq_zero, count_quote_changeAll hf, List.count_eq_zero]
  cases h with
  | string hstring =>
    cases hstring with
    | closed hpre hv =>
      rw [changeAll_quoted, changeAll_quote, changeAll_nil]
      exact .string (.closed (hpre.changeAll hf) (hquotes hv))
    | unclosed hpre hv =>
      rw [changeAll_quoted, changeAll_nil]
      exact .string (.unclosed (hpre.changeAll hf) (hquotes hv))
  | @remark code mark _ hcode hmark =>
    have hfront := (isMark_remark hmark).changeAll_eq (f := f) code []
    rw [List.append_nil, changeAll_nil, List.append_nil] at hfront
    rw [hfront, changeAll_nil]
    exact .remark (hcode.changeAll hf) hmark

end

end MsxWorkbench.Program
