import MsxWorkbench.Proofs.Program.LineFacts
import MsxWorkbench.Proofs.Program.Respaced
/-
# Jumps in respaced code

Respacing cuts a line at its longest reserved words, and an analysis looks for jump words at the ends of words. The two
do not see the same parts, but no jump is lost: one that an analysis finds starts where a part starts, its word is that
part and its number starts the next one (`jumps_spread`). Remarks and strings are where they were, and a remark that was
found inside a word is gone, which can only show more of the line.
-/
namespace MsxWorkbench.Program

open Text (isBlank isDigit capital IsAscii)

/-! ## Jumps one by one -/

/-- The jump at the start of a text, if there is one. -/
def jumpAt (s : List Char) : List (JumpKind × List Char) := (matchJump? s).toList.map fun m => (m.1, m.2.1)

theorem exists_reference_of_matchJump? {s : List Char} (h : matchJump? s ≠ none) :
    ∃ kind : JumpKind, reference? kind.name.toList s ≠ none := by
  by_contra hno
  rw [not_exists] at hno
  simp only [ne_eq, not_not] at hno
  rw [matchJump?, matchJumpWord?_eq, matchJumpWord?_eq, hno .goto, hno .gosub] at h
  exact h rfl

/-- Inside a jump no other one starts, so the jumps of a text can be looked for at each of its places. -/
theorem scanJumps_cons (inWord : Bool) (c : Char) (s : List Char) :
    scanJumps 0 inWord (c :: s) =
      (if inWord then [] else jumpAt (c :: s)) ++ scanJumps 0 (Text.isWord c) s := by
  cases inWord with
  | true => exact scanJumps_none (Or.inl rfl)
  | false =>
    by_cases hnone : matchJump? (c :: s) = none
    · rw [scanJumps_none (Or.inr hnone), jumpAt, hnone]
      rfl
    · obtain ⟨kind, hkind⟩ := exists_reference_of_matchJump? hnone
      obtain ⟨r, hr⟩ := Option.ne_none_iff_exists'.1 hkind
      have hw := name_mem_referenceWords kind
      obtain ⟨form, gap, list, rest, heq, href⟩ := exists_refers (isUpper_referenceWords _ hw) hr
      have hinside : scanJumps 0 true (c :: s) = scanJumps 0 (Text.isWord c) s := scanJumps_none (Or.inl rfl)
      have hjump : jumpBy kind.name.toList r.numbers false = jumpAt (c :: s) := by
        rw [jumpAt, heq, href.matchJump?_eq hw, jumpBy, jumpKind?_name]
        rfl
      rw [← hinside, heq, href.scanJumps_eq hw, href.scanJumps_eq hw, ← heq, hjump]
      rfl

section
variable {u y : List Char}

theorem scanJumps_sublist (inWord : Bool) (s : List Char) :
    (scanJumps 0 inWord s).Sublist (scanJumps 0 false s) := by
  cases s with
  | nil => exact List.Sublist.refl _
  | cons c s =>
    rw [scanJumps_cons, scanJumps_cons false]
    refine List.Sublist.append ?_ (List.Sublist.refl _)
    split
    · exact List.nil_sublist _
    · exact List.Sublist.refl _

/-- The jumps behind a text are jumps of the whole. -/
theorem scanJumps_behind (y : List Char) : ∀ (u : List Char) (inWord : Bool),
    (scanJumps 0 (wordAfter inWord u) y).Sublist (scanJumps 0 inWord (u ++ y))
  | [], _ => List.Sublist.refl _
  | c :: u, inWord => by
    rw [List.cons_append, scanJumps_cons]
    exact (scanJumps_behind y u (Text.isWord c)).trans (List.sublist_append_right _ _)

/-- A text in which no jump starts. -/
theorem scanJumps_append (h : ∀ i < u.length, matchJump? ((u ++ y).drop i) = none) (inWord : Bool) :
    scanJumps 0 inWord (u ++ y) = scanJumps 0 (wordAfter inWord u) y := by
  induction u generalizing inWord with
  | nil => rfl
  | cons c u ih =>
    obtain ⟨hfirst, hmore⟩ := of_places_cons h
    rw [List.cons_append, scanJumps_none (Or.inr hfirst), ih hmore]
    rfl

/-- A jump starts with the first character of a word or not in it at all. -/
theorem scanJumps_word {c : Char} (h : ∀ d ∈ (c :: u).dropLast, Text.isWord d = true) (y : List Char) :
    scanJumps 0 false (c :: u ++ y) = jumpAt (c :: u ++ y) ++ scanJumps 0 (wordAfter false (c :: u)) y := by
  have hinside : ∀ v : List Char, (∀ d ∈ v.dropLast, Text.isWord d = true) →
      scanJumps 0 true (v ++ y) = scanJumps 0 (wordAfter true v) y := by
    intro v
    induction v with
    | nil => exact fun _ => rfl
    | cons d v ih =>
      intro hv
      rw [List.cons_append, scanJumps_none (Or.inl rfl)]
      cases v with
      | nil => rfl
      | cons e v =>
        rw [List.dropLast_cons_cons, List.forall_mem_cons] at hv
        rw [hv.1, ih hv.2]
        rfl
  rw [List.cons_append, scanJumps_cons, if_neg Bool.false_ne_true]
  cases u with
  | nil => rfl
  | cons d u =>
    rw [List.dropLast_cons_cons, List.forall_mem_cons] at h
    rw [h.1, hinside (d :: u) h.2]
    rfl

end

/-! ## Numbers of jumps -/

/-- The digits at the start of a text, behind blanks. -/
def leadNumber (s : List Char) : List Char := (s.dropWhile isBlank).takeWhile isDigit

theorem leadNumber_visible {c : Char} (hc : isBlank c = false) (u : List Char) :
    leadNumber (c :: u) = (c :: u).takeWhile isDigit := by
  rw [leadNumber, List.dropWhile_cons_of_neg (by simp [hc])]

theorem leadNumber_blank {c : Char} (hc : isBlank c = true) (u : List Char) : leadNumber (c :: u) = leadNumber u := by
  rw [leadNumber, List.dropWhile_cons_of_pos hc, leadNumber]

theorem matchJumpWord?_of_startsFolded {kind : JumpKind} {s : List Char} (h : Text.startsFolded kind.name.toList s = false) :
    matchJumpWord? kind s = none := by
  rw [matchJumpWord?, h]
  rfl

/-- The jump by a word: none if it goes on or no number follows. -/
theorem jumpAt_form {kind : JumpKind} {form : List Char} (hform : form.map capital = kind.name.toList) (y : List Char) :
    jumpAt (form ++ y) = if Text.startsWord y || (leadNumber y).isEmpty then [] else [(kind, leadNumber y)] := by
  have hlength : form.length = kind.name.toList.length := by rw [← hform, List.length_map]
  have hstarts : Text.startsFolded kind.name.toList (form ++ y) = true := by
    rw [Text.startsFolded_iff (isUpper_referenceWords _ (name_mem_referenceWords kind)), List.map_append, hform]
    exact List.prefix_append _ _
  have hdrop : (form ++ y).drop kind.name.toList.length = y := by rw [← hlength, List.drop_left]
  have hother : ∀ other : JumpKind, other ≠ kind → matchJumpWord? other (form ++ y) = none := by
    intro other hne
    refine matchJumpWord?_of_startsFolded (Bool.eq_false_iff.2 fun h => ?_)
    rw [Text.startsFolded_iff (isUpper_referenceWords _ (name_mem_referenceWords other)), List.map_append, hform] at h
    revert h hne
    cases kind <;> cases other <;> simp [JumpKind.name]
  have hmatch : matchJump? (form ++ y) = matchJumpWord? kind (form ++ y) := by
    cases kind with
    | goto => rw [matchJump?, hother .gosub (by decide), Option.or_none]
    | gosub => rw [matchJump?, hother .goto (by decide), Option.none_or]
  rw [jumpAt, hmatch, matchJumpWord?]
  simp only [hstarts, if_true, hdrop]
  rw [leadNumber]
  split <;> simp_all

/-- A text without digits has no jump. -/
theorem scanJumps_of_not_digit : ∀ {u : List Char}, (∀ c ∈ u, isDigit c = false) → ∀ inWord, scanJumps 0 inWord u = []
  | [], _, _ => rfl
  | c :: u, h, inWord => by
    have hnone : matchJump? (c :: u) = none := by
      by_contra hsome
      obtain ⟨kind, hkind⟩ := exists_reference_of_matchJump? hsome
      obtain ⟨r, hr⟩ := Option.ne_none_iff_exists'.1 hkind
      obtain ⟨form, gap, list, rest, heq, href⟩ :=
        exists_refers (isUpper_referenceWords _ (name_mem_referenceWords kind)) hr
      obtain ⟨d, digits, rfl, hd⟩ := href.list.exists_digit
      rw [h d (by rw [heq]; simp)] at hd
      cases hd
    rw [scanJumps_none (Or.inr hnone), scanJumps_of_not_digit fun d hd => h d (List.mem_cons_of_mem _ hd)]

/-! ## Code in front of other code -/

section
variable {word u s : List Char}

theorem exists_emptyStrings_quote (s : List Char) : ∃ u, emptyStrings ('"' :: s) = '"' :: u := by
  by_cases hs : '"' ∈ s
  · obtain ⟨v, t, rfl, hv⟩ := List.eq_append_cons_of_mem hs
    exact ⟨_, emptyStrings_closed hv t⟩
  · exact ⟨_, emptyStrings_unclosed hs⟩

theorem emptyStrings_cons {c : Char} (hc : c ≠ '"') (s : List Char) : emptyStrings (c :: s) = c :: emptyStrings s := by
  rw [emptyStrings, if_neg hc]

theorem head?_emptyStrings (s : List Char) : (emptyStrings s).head? = s.head? := by
  cases s with
  | nil => rw [emptyStrings]
  | cons c s =>
    by_cases hc : c = '"'
    · obtain ⟨u, hu⟩ := exists_emptyStrings_quote s
      rw [hc, hu]
      rfl
    · rw [emptyStrings_cons hc]
      rfl

/-- No word reaches past a quote, so strings can be emptied before one is looked for. -/
theorem startsFolded_emptyStrings (hword : ∀ p ∈ word, p.isUpper) (s : List Char) :
    Text.startsFolded word (emptyStrings s) = Text.startsFolded word s := by
  induction word generalizing s with
  | nil => rw [Text.startsFolded, Text.startsFolded]
  | cons q word ih =>
    rw [List.forall_mem_cons] at hword
    cases s with
    | nil => rw [emptyStrings]
    | cons c s =>
      by_cases hc : c = '"'
      · obtain ⟨u, hu⟩ := exists_emptyStrings_quote s
        have hq : Text.sameLetter q '"' = false := sameLetter_of_not_latin hword.1 (by decide)
        rw [hc, hu, Text.startsFolded, Text.startsFolded, hq, Bool.false_and, Bool.false_and]
      · rw [emptyStrings_cons hc, Text.startsFolded, Text.startsFolded, ih hword.2]

theorem atRemark_emptyStrings (s : List Char) : atRemark (emptyStrings s) = atRemark s := by
  rw [atRemark, atRemark, head?_emptyStrings, startsFolded_emptyStrings (List.all_eq_true.1 (by decide))]

@[simp] theorem codeOf_nil : codeOf [] = [] := by rw [codeOf, emptyStrings, beforeRemark]

theorem codeOf_remark (h : atRemark s = true) : codeOf s = [] := by
  rw [codeOf]
  rw [← atRemark_emptyStrings] at h
  cases hs : emptyStrings s with
  | nil => rfl
  | cons c u =>
    rw [hs] at h
    rw [beforeRemark, if_pos h]

theorem codeOf_append (hquote : '"' ∉ u) (h : ∀ i < u.length, atRemark ((u ++ s).drop i) = false) :
    codeOf (u ++ s) = u ++ codeOf s := by
  rw [codeOf, emptyStrings_append hquote, beforeRemark_append, codeOf]
  intro i hi
  have hdrop : (u ++ emptyStrings s).drop i = emptyStrings ((u ++ s).drop i) := by
    rw [List.drop_append_of_le_length (Nat.le_of_lt hi), List.drop_append_of_le_length (Nat.le_of_lt hi),
      emptyStrings_append fun hmem => hquote (List.mem_of_mem_drop hmem)]
  rw [hdrop, atRemark_emptyStrings, h i hi]

theorem codeOf_cons_of_not_latin {c : Char} (hc : Text.isLatin c = false) (hquote : c ≠ '"')
    (hapostrophe : c ≠ Text.apostrophe) (s : List Char) : codeOf (c :: s) = c :: codeOf s := by
  rw [codeOf, emptyStrings_cons hquote, beforeRemark, atRemark_of_not_latin hc hapostrophe, if_neg Bool.false_ne_true, codeOf]

theorem codeOf_closed {v : List Char} (hv : '"' ∉ v) (t : List Char) :
    codeOf ('"' :: (v ++ '"' :: t)) = '"' :: '"' :: codeOf t := by
  rw [codeOf, emptyStrings_closed hv, beforeRemark, atRemark_of_not_latin (by decide) (by decide),
    if_neg Bool.false_ne_true, beforeRemark, atRemark_of_not_latin (by decide) (by decide), if_neg Bool.false_ne_true,
    codeOf]

/-- Either nothing is cut off in front of a text, or the code ends there. -/
theorem codeOf_append_or (hquote : '"' ∉ u) (s : List Char) : codeOf (u ++ s) = u ++ codeOf s ∨ codeOf (u ++ s) <+: u := by
  rw [codeOf, emptyStrings_append hquote, codeOf]
  generalize emptyStrings s = e
  clear hquote
  induction u with
  | nil => exact Or.inl rfl
  | cons c u ih =>
    rw [List.cons_append, beforeRemark]
    split
    · exact Or.inr List.nil_prefix
    · rcases ih with ih | ih
      · exact Or.inl (by rw [ih, List.cons_append])
      · exact Or.inr (List.cons_prefix_cons.2 ⟨rfl, ih⟩)

theorem head?_codeOf {c : Char} (h : c ∈ (codeOf s).head?) : c ∈ s.head? := by
  obtain ⟨u, hu⟩ := beforeRemark_prefix (emptyStrings s)
  rw [← head?_emptyStrings, ← hu, List.head?_append]
  have hc : (beforeRemark (emptyStrings s)).head? = some c := h
  rw [hc]
  rfl

theorem startsFolded_codeOf (hword : ∀ p ∈ word, p.isUpper) (h : Text.startsFolded word (codeOf s) = true) :
    Text.startsFolded word s = true := by
  rw [← startsFolded_emptyStrings hword]
  rw [Text.startsFolded_iff hword] at h ⊢
  have hcut : codeOf s <+: emptyStrings s := beforeRemark_prefix (emptyStrings s)
  exact h.trans (hcut.map capital)

theorem codeOf_digit {c : Char} (hc : isDigit c = true) (s : List Char) : codeOf (c :: s) = c :: codeOf s := by
  refine codeOf_cons_of_not_latin (Text.isLatin_of_isDigit hc) ?_ ?_ s
  · rintro rfl
    revert hc
    decide
  · rintro rfl
    revert hc
    decide

theorem codeOf_eq_nil_or (c : Char) (s : List Char) : codeOf (c :: s) = [] ∨ ∃ u, codeOf (c :: s) = c :: u := by
  cases hcode : codeOf (c :: s) with
  | nil => exact Or.inl rfl
  | cons d u =>
    obtain rfl : c = d := Option.some.inj (head?_codeOf (by rw [hcode]; rfl))
    exact Or.inr ⟨u, rfl⟩

theorem takeWhile_codeOf : ∀ s : List Char, (codeOf s).takeWhile isDigit = s.takeWhile isDigit
  | [] => by rw [codeOf_nil]
  | c :: s => by
    cases hc : isDigit c with
    | true =>
      rw [codeOf_digit hc, List.takeWhile_cons_of_pos hc, List.takeWhile_cons_of_pos hc, takeWhile_codeOf s]
    | false =>
      rcases codeOf_eq_nil_or c s with hcode | ⟨u, hcode⟩ <;> simp [hcode, hc]

/-- The number in front of the code of a text is the one in front of the text. -/
theorem leadNumber_codeOf : ∀ s : List Char, leadNumber (codeOf s) = leadNumber s
  | [] => by rw [codeOf_nil]
  | c :: s => by
    cases hc : isBlank c with
    | true =>
      rw [codeOf_cons hc, leadNumber_blank hc, leadNumber_blank hc, leadNumber_codeOf s]
    | false =>
      have hcode : (codeOf (c :: s)).dropWhile isBlank = codeOf (c :: s) := by
        rcases codeOf_eq_nil_or c s with hcode | ⟨u, hcode⟩ <;> simp [hcode, hc]
      rw [leadNumber, hcode, takeWhile_codeOf, leadNumber_visible hc]

end

/-! ## Numbers in respaced text -/

section
variable {keepCase : Bool} {s p t r : List Char}

theorem of_isDigit {c : Char} (hascii : c.toNat < 0x80) (hc : isDigit c = true) :
    isBlank c = false ∧ c ≠ '"' ∧ c ≠ Text.apostrophe ∧ isOperator c = false ∧ isSeparator c = true :=
  Text.forall_ascii (p := fun c => isDigit c = true → isBlank c = false ∧ c ≠ '"' ∧ c ≠ Text.apostrophe ∧
    isOperator c = false ∧ isSeparator c = true) (by decide) hascii hc

theorem endsRun_digit {c : Char} {u : List Char} (hs : IsAscii (c :: u)) (hc : isDigit c = true) :
    endsRun (c :: u) = false := by
  obtain ⟨hblank, hquote, hapostrophe, hop, hseparator⟩ := of_isDigit (hs c List.mem_cons_self) hc
  have hword := leadingWord?_of_isSeparator hs hseparator
  simp [endsRun, hblank, hquote, hapostrophe, hop, hword, atRemWord_eq_false hword]

theorem noHead_digit_of_endsRun (hs : IsAscii s) (h : endsRun s = true) : NoHead isDigit s := by
  intro c hc
  obtain ⟨u, rfl⟩ := List.head?_eq_some_iff.1 hc
  by_contra hdigit
  rw [endsRun_digit hs (by simpa using hdigit)] at h
  cases h

/-- What starts with a character that goes on a run begins with a run. -/
theorem Begins.of_endsRun (h : Begins keepCase s p t) (hs : IsAscii s) (hends : endsRun s = false) :
    s = p ++ t ∧ (∀ i < p.length, endsRun ((p ++ t).drop i) = false) ∧ endsRun t = true := by
  cases h with
  | closed => exact absurd rfl (of_endsRun_eq_false hends).2.1
  | unclosed => exact absurd rfl (of_endsRun_eq_false hends).2.1
  | @remWord mark t hmark =>
    have hrem : atRemWord (mark ++ t) = true := by
      rw [atRemWord, Text.startsUpper_iff hs, List.map_append, hmark]
      exact List.prefix_append _ _
    obtain ⟨c, u, rfl⟩ := exists_cons_of_form rem_mem_reservedWords hmark
    have hno : atRemWord (c :: u ++ t) = false := (of_endsRun_eq_false hends).2.2.2.1
    rw [hno] at hrem
    cases hrem
  | apostrophe => exact absurd rfl (of_endsRun_eq_false hends).2.2.1
  | word hform hword =>
    obtain ⟨c, u, rfl⟩ := exists_cons_of_form (mem_of_leadingWord? hword).1 hform
    have hno : leadingWord? (c :: u ++ t) = none := (of_endsRun_eq_false hends).2.2.2.2.2
    rw [hno] at hword
    cases hword
  | colon => exact absurd (of_endsRun_eq_false hends).2.2.2.2.1 (by decide)
  | run _ hinside ht => exact ⟨rfl, hinside, ht⟩

theorem leadNumber_gap (previous p y : List Char) : leadNumber (gapBetween previous p ++ y) = leadNumber y := by
  unfold gapBetween
  split
  · rfl
  · exact leadNumber_blank rfl y

theorem Follows.noHead_digit {rest : List Char} (h : Follows p rest) : NoHead isDigit rest := by
  intro c hc
  rcases h c hc with rfl | ⟨rfl, -⟩ <;> decide

/-- A number in front of a text is there when the text is respaced. -/
theorem leadNumber_spread (hs : IsAscii s) : ∀ previous : List Char, leadNumber s ≠ [] →
    leadNumber (spread keepCase previous s) = leadNumber s := by
  induction s, hs using induction_begins keepCase with
  | nil => exact fun _ hne => absurd rfl hne
  | blank c rest _ _ hc ih =>
    intro previous hne
    rw [leadNumber_blank hc] at hne ⊢
    rw [spread_blank hc]
    exact ih previous hne
  | part s p t hs ht hp _ =>
    intro previous hne
    obtain ⟨c, u, hcons, hc⟩ := hp.first hs
    have hdigit : isDigit c = true := by
      by_contra hdigit
      rw [hcons, leadNumber_visible hc, List.takeWhile_cons_of_neg hdigit] at hne
      exact hne rfl
    have hends : endsRun s = false := by
      rw [hcons] at hs ⊢
      exact endsRun_digit hs hdigit
    obtain ⟨heq, -, hend⟩ := hp.of_endsRun hs hends
    obtain ⟨d, v, rfl, hd⟩ := hp.head hs
    rw [spread_begins hp hs, leadNumber_gap, heq, List.cons_append, List.cons_append, leadNumber_visible hd,
      leadNumber_visible hd, ← List.cons_append, ← List.cons_append,
      takeWhile_append_of_noHead _ (follows_spread (d :: v) ht).noHead_digit,
      takeWhile_append_of_noHead _ (noHead_digit_of_endsRun ht hend)]

end

/-! ## Parts and their jumps -/

section
variable {keepCase : Bool} {w form r t rest : List Char}

/-- What goes on a run starts no remark. -/
theorem atRemark_of_endsRun {s : List Char} (hs : IsAscii s) (h : endsRun s = false) : atRemark s = false := by
  cases s with
  | nil => rfl
  | cons c s =>
    obtain ⟨-, -, hapostrophe, hrem, -⟩ := of_endsRun_eq_false h
    have hletters : Text.startsFolded ['R', 'E', 'M'] (c :: s) = false := by
      rw [atRemWord, Bool.eq_false_iff, Ne, Text.startsUpper_iff hs] at hrem
      rwa [Bool.eq_false_iff, Ne, Text.startsFolded_iff (List.all_eq_true.1 (by decide))]
    simp [atRemark, hapostrophe, hletters]

theorem codeOf_run (hs : IsAscii (r ++ t)) (hinside : ∀ i < r.length, endsRun ((r ++ t).drop i) = false) :
    codeOf (r ++ t) = r ++ codeOf t :=
  codeOf_append (quote_notMem_run hinside) fun i hi => atRemark_of_endsRun (hs.drop i) (hinside i hi)

theorem exists_startsUpper {s : List Char} (hs : IsAscii s) (h : matchJump? (codeOf s) ≠ none) :
    ∃ kind : JumpKind, Text.startsUpper kind.name.toList s = true := by
  by_contra hno
  rw [not_exists] at hno
  have hnone : ∀ kind, matchJumpWord? kind (codeOf s) = none := by
    intro kind
    refine matchJumpWord?_of_startsFolded (Bool.eq_false_iff.2 fun hstarts => hno kind ?_)
    have hupper := isUpper_referenceWords _ (name_mem_referenceWords kind)
    rw [Text.startsUpper_iff hs, ← Text.startsFolded_iff hupper]
    exact startsFolded_codeOf hupper hstarts
  rw [matchJump?, hnone, hnone] at h
  exact h rfl

/-- No jump starts in a run. -/
theorem scanJumps_run (hs : IsAscii (r ++ t)) (hinside : ∀ i < r.length, endsRun ((r ++ t).drop i) = false) (inWord : Bool) :
    scanJumps 0 inWord (r ++ codeOf t) = scanJumps 0 (wordAfter inWord r) (codeOf t) := by
  refine scanJumps_append (fun i hi => ?_) inWord
  have hle := Nat.le_of_lt hi
  have hdrop : (r ++ codeOf t).drop i = codeOf ((r ++ t).drop i) := by
    have hascii := hs.drop i
    rw [List.drop_append_of_le_length hle] at hascii ⊢
    rw [List.drop_append_of_le_length hle, codeOf_run hascii]
    intro j hj
    have hplace := hinside (i + j) (by rw [List.length_drop] at hj; omega)
    rwa [← List.drop_drop, List.drop_append_of_le_length hle] at hplace
  rw [hdrop]
  by_contra hsome
  obtain ⟨kind, hstarts⟩ := exists_startsUpper (hs.drop i) hsome
  have hnone : leadingWord? ((r ++ t).drop i) = none := by
    have hplace := hinside i hi
    rw [List.drop_append_of_le_length hle, List.drop_eq_getElem_cons hi] at hplace ⊢
    exact (of_endsRun_eq_false hplace).2.2.2.2.2
  rw [leadingWord?_eq_none_iff.1 hnone _ (name_mem_reservedWords kind)] at hstarts
  cases hstarts

/-- A run keeps its place in front of what was respaced. -/
theorem jumps_run (hs : IsAscii (r ++ t)) (hrest : IsAscii rest) (hinside : ∀ i < r.length, endsRun ((r ++ t).drop i) = false)
    (hfollows : Follows r rest)
    (ih : ∀ inWord, (scanJumps 0 false (codeOf t)).Sublist (scanJumps 0 inWord (codeOf rest))) :
    (scanJumps 0 false (codeOf (r ++ t))).Sublist (scanJumps 0 false (codeOf (r ++ rest))) := by
  have hascii : IsAscii (r ++ rest) := hs.left.append hrest
  have hagain : ∀ i < r.length, endsRun ((r ++ rest).drop i) = false := by
    intro i hi
    have hle := Nat.le_of_lt hi
    have hplace := hinside i hi
    have hsdrop := hs.drop i
    have hdrop := hascii.drop i
    rw [List.drop_append_of_le_length hle] at hplace hsdrop hdrop ⊢
    refine endsRun_append (hfollows.drop_run hs hinside hi) hdrop hsdrop ?_ hplace
    exact List.ne_nil_of_length_pos (by rw [List.length_drop]; omega)
  rw [codeOf_run hs hinside, codeOf_run hascii hagain, scanJumps_run hs hinside]
  exact ((scanJumps_sublist _ _).trans (ih _)).trans (scanJumps_behind _ _ _)

theorem of_mem_form (hw : w ∈ reservedWords.map String.toList) (hform : form.map capital = w) (hascii : IsAscii form) {c : Char}
    (hc : c ∈ form) : capital c ∈ w ∧ isDigit c = false ∧ c ≠ '"' := by
  have hmem : capital c ∈ w := hform ▸ List.mem_map_of_mem hc
  refine ⟨hmem, ?_, (of_capital_mem_word hw (hascii c hc) hmem).2⟩
  by_contra hdigit
  obtain ⟨-, -, -, -, hseparator⟩ := of_isDigit (hascii c hc) (by simpa using hdigit)
  have hword := (wordShape hw).separators _ hmem
  rw [(classes_capital (hascii c hc)).1, hseparator] at hword
  cases hword

theorem isWord_of_mem_form (hw : w ∈ reservedWords.map String.toList) (hform : form.map capital = w) (hascii : IsAscii form) :
    ∀ c ∈ form.dropLast, Text.isWord c = true := by
  intro c hc
  have hmem : capital c ∈ w.dropLast := by
    rw [← hform, ← List.map_dropLast]
    exact List.mem_map_of_mem hc
  obtain ⟨-, hsame⟩ := classes_capital (hascii c (List.dropLast_sublist form |>.subset hc))
  rw [← hsame, (wordShape hw).letters _ hmem]

/-- No remark starts in a word that a blank or a parenthesis follows. -/
theorem codeOf_word (hw : w ∈ reservedWords.map String.toList) (hform : form.map capital = w) (hascii : IsAscii form)
    (hrem : w ≠ ['R', 'E', 'M']) (hhead : w.head? ≠ some Text.apostrophe)
    (hrest : ∀ x ∈ rest.head?, Text.isLatin x = false) : codeOf (form ++ rest) = form ++ codeOf rest := by
  refine codeOf_append (fun hmem => (of_mem_form hw hform hascii hmem).2.2 rfl) fun i hi => ?_
  have hletters : Text.startsFolded ['R', 'E', 'M'] (form.drop i ++ rest) = false := by
    have hupper : ∀ p ∈ ['R', 'E', 'M'], p.isUpper := List.all_eq_true.1 (by decide)
    have hinside : Text.startsFolded ['R', 'E', 'M'] (form.drop i) = false := by
      rw [Bool.eq_false_iff, Ne, Text.startsFolded_iff hupper, List.map_drop, hform]
      exact (wordShape hw).remark hrem i
    cases rest with
    | nil => rw [List.append_nil, hinside]
    | cons x rest => rw [startsFolded_append_cons (hrest x rfl) rest hupper, hinside]
  rw [List.drop_append_of_le_length (Nat.le_of_lt hi), atRemark, hletters, Bool.or_false,
    List.drop_eq_getElem_cons hi, List.cons_append, List.head?_cons, beq_eq_false_iff_ne, Ne, Option.some.injEq]
  intro hapostrophe
  have hmem : Text.apostrophe ∈ w := by
    have hcapital := (of_mem_form hw hform hascii (List.getElem_mem hi)).1
    rw [hapostrophe] at hcapital
    exact hcapital
  obtain ⟨c, v, rfl⟩ := List.exists_cons_of_ne_nil (List.ne_nil_of_mem hmem)
  rcases List.mem_cons.1 hmem with rfl | hmem
  · exact hhead rfl
  · exact (wordShape hw).apostrophe hmem

theorem Follows.not_latin {p : List Char} (h : Follows p rest) : ∀ x ∈ rest.head?, Text.isLatin x = false := by
  intro x hx
  rcases h x hx with rfl | ⟨rfl, -⟩ <;> decide

theorem startsWord_codeOf {p : List Char} (h : Follows p rest) : Text.startsWord (codeOf rest) = false := by
  cases hcode : codeOf rest with
  | nil => rfl
  | cons x u =>
    have hword : Text.isWord x = false := by
      rcases h x (head?_codeOf (by rw [hcode]; rfl)) with rfl | ⟨rfl, -⟩ <;> decide
    exact hword

/-- A jump by a word is there in front of what was respaced. -/
theorem jumpAt_word (keepCase : Bool) (hs : IsAscii (form ++ t)) (hform : form.map capital = w)
    (hword : leadingWord? (form ++ t) = some w) (hcode : codeOf (form ++ t) = form ++ codeOf t) : (jumpAt (form ++ codeOf t)).Sublist
      (jumpAt (casedWord keepCase form ++ codeOf (spread keepCase (casedWord keepCase form) t))) := by
  by_cases hnone : matchJump? (codeOf (form ++ t)) = none
  · rw [← hcode, jumpAt, hnone]
    exact List.nil_sublist _
  · -- the word that is found is the longest one, so it is the whole part
    obtain ⟨kind, hstarts⟩ := exists_startsUpper hs hnone
    have hle := length_le_of_leadingWord? hword (name_mem_reservedWords kind) hstarts
    obtain ⟨hw, hlong⟩ := mem_of_leadingWord? hword
    rw [Text.startsUpper_iff hs] at hstarts hlong
    have hname := (wordShape hw).jumps kind (List.prefix_of_prefix_length_le hstarts hlong hle)
    rw [hname] at hform
    have hfollows : Follows (casedWord keepCase form) (spread keepCase (casedWord keepCase form) t) :=
      follows_spread _ hs.right
    rw [jumpAt_form hform, jumpAt_form (casedWord_form keepCase hform hs.left), startsWord_codeOf hfollows, Bool.false_or,
      leadNumber_codeOf, leadNumber_codeOf]
    by_cases hnumber : leadNumber t = []
    · simp [hnumber]
    · rw [leadNumber_spread hs.right _ hnumber]
      split
      · exact List.nil_sublist _
      · simp [hnumber]

theorem jumps_word (hs : IsAscii (form ++ t)) (hform : form.map capital = w) (hword : leadingWord? (form ++ t) = some w)
    (hrem : atRemWord (form ++ t) = false) (hhead : w.head? ≠ some Text.apostrophe)
    (ih : ∀ inWord, (scanJumps 0 false (codeOf t)).Sublist
      (scanJumps 0 inWord (codeOf (spread keepCase (casedWord keepCase form) t)))) :
    (scanJumps 0 false (codeOf (form ++ t))).Sublist
      (scanJumps 0 false (codeOf (casedWord keepCase form ++ spread keepCase (casedWord keepCase form) t))) := by
  obtain ⟨hw, hstarts⟩ := mem_of_leadingWord? hword
  have hne : w ≠ ['R', 'E', 'M'] := by
    rintro rfl
    rw [atRemWord, hstarts] at hrem
    cases hrem
  rcases codeOf_append_or (fun hmem => (of_mem_form hw hform hs.left hmem).2.2 rfl) t with hcode | hcut
  · have hcased := casedWord_form keepCase hform hs.left
    have hascii : IsAscii (casedWord keepCase form) := isAscii_casedWord hs.left
    have hfollows : Follows (casedWord keepCase form) (spread keepCase (casedWord keepCase form) t) :=
      follows_spread _ hs.right
    have hjump := jumpAt_word keepCase hs hform hword hcode
    rw [hcode, codeOf_word hw hcased hascii hne hhead hfollows.not_latin]
    have hchars := isWord_of_mem_form hw hform hs.left
    have hcasedChars := isWord_of_mem_form hw hcased hascii
    obtain ⟨c, u, rfl⟩ := exists_cons_of_form hw hform
    obtain ⟨d, v, hdv⟩ := exists_cons_of_form hw hcased
    rw [hdv] at hjump hcasedChars ih ⊢
    rw [scanJumps_word hchars, scanJumps_word hcasedChars]
    exact hjump.append ((scanJumps_sublist _ _).trans (ih _))
  · -- the letters of a remark start in the word, which has no number in it
    have hdigits : ∀ c ∈ codeOf (form ++ t), isDigit c = false := fun c hc =>
      (of_mem_form hw hform hs.left (hcut.subset hc)).2.1
    rw [scanJumps_of_not_digit hdigits]
    exact List.nil_sublist _

end

/-! ## A whole body -/

section
variable {keepCase : Bool} {s p t : List Char}

theorem scanJumps_mark {c : Char} (hc : Text.isLatin c = false) (hword : Text.isWord c = false) (inWord : Bool) (y : List Char) :
    scanJumps 0 inWord (c :: y) = scanJumps 0 false y := by
  rw [scanJumps_none (Or.inr (matchJump?_of_not_latin hc y)), hword]

/-- What was found in front of a part does not matter to its jumps. -/
theorem jumps_gap {c : Char} (previous u y : List Char) (inWord : Bool) :
    scanJumps 0 inWord (codeOf (gapBetween previous (c :: u) ++ (c :: u ++ y))) = scanJumps 0 false (codeOf (c :: u ++ y)) := by
  unfold gapBetween
  split
  · rename_i hclose
    rw [Bool.and_eq_true, beq_iff_eq] at hclose
    obtain rfl : c = '(' := Option.some.inj hclose.2
    rw [List.nil_append, List.cons_append, codeOf_cons_of_not_latin (by decide) (by decide) (by decide),
      scanJumps_mark (by decide) (by decide), scanJumps_mark (by decide) (by decide)]
  · rw [List.singleton_append, codeOf_cons rfl, scanJumps_mark (by decide) (by decide)]

/-- One part: its jumps and those behind it are there when it is respaced. -/
theorem Begins.jumps (h : Begins keepCase s p t) (hs : IsAscii s)
    (ih : ∀ inWord, (scanJumps 0 false (codeOf t)).Sublist (scanJumps 0 inWord (codeOf (spread keepCase p t)))) :
    (scanJumps 0 false (codeOf s)).Sublist (scanJumps 0 false (codeOf (p ++ spread keepCase p t))) := by
  cases h with
  | @closed v t hv =>
    rw [List.cons_append, List.append_assoc, List.singleton_append, codeOf_closed hv, codeOf_closed hv,
      scanJumps_mark (by decide) (by decide), scanJumps_mark (by decide) (by decide),
      scanJumps_mark (by decide) (by decide), scanJumps_mark (by decide) (by decide)]
    exact ih false
  | unclosed => simp [spread_nil]
  | @remWord mark t hmark =>
    have hremark : atRemark (mark ++ t) = true := by
      have hletters : Text.startsFolded ['R', 'E', 'M'] (mark ++ t) = true := by
        rw [Text.startsFolded_iff (List.all_eq_true.1 (by decide)), List.map_append, hmark]
        exact List.prefix_append _ _
      rw [atRemark, hletters, Bool.or_true]
    rw [codeOf_remark hremark]
    exact List.nil_sublist _
  | apostrophe => simp [spread_nil]
  | word hform hword hrem hhead => exact jumps_word hs hform hword hrem hhead ih
  | colon =>
    rw [codeOf_cons_of_not_latin (by decide) (by decide) (by decide), List.singleton_append,
      codeOf_cons_of_not_latin (by decide) (by decide) (by decide), scanJumps_mark (by decide) (by decide),
      scanJumps_mark (by decide) (by decide)]
    exact ih false
  | run _ hinside _ => exact jumps_run hs (isAscii_spread hs.right) hinside (follows_spread p hs.right) ih

/-- **Respacing loses no jump.** -/
theorem jumps_spread (keepCase : Bool) (hs : IsAscii s) : ∀ (previous : List Char) (inWord : Bool),
    (scanJumps 0 false (codeOf s)).Sublist (scanJumps 0 inWord (codeOf (spread keepCase previous s))) := by
  induction s, hs using induction_begins keepCase with
  | nil =>
    intro previous inWord
    rw [spread_nil, codeOf_nil]
    exact List.nil_sublist _
  | blank c rest _ _ hc ih =>
    intro previous inWord
    rw [codeOf_cons hc, scanJumps_mark (Text.isLatin_of_isBlank hc) (Text.isWord_of_isBlank hc), spread_blank hc]
    exact ih previous inWord
  | part s p t hs _ hp ih =>
    intro previous inWord
    have hpart := hp.jumps hs (ih p)
    rw [spread_begins hp hs]
    obtain ⟨c, u, rfl, -⟩ := hp.head hs
    rwa [jumps_gap]

end

end MsxWorkbench.Program
