import MsxWorkbench.Proofs.Program.Verbatim
/-
# How a text begins

The part at the start of a text as a grammar: a string, a remark, a reserved word, a colon or a run of other characters,
together with the text behind it (`Begins`). Every text that does not start with a blank is of the grammar
(`exists_begins`), and what is of the grammar is scanned so (`Begins.scanParts_eq`). A part in front of a blank, or of a
parenthesis that it may be written close to, begins the new text as well, or it is a run that the run behind it is read
with (`Begins.again`).
-/
namespace MsxWorkbench.Program

open Text (isBlank isDigit capital IsAscii)

/-! ## The longest word -/

section
variable {s w : List Char}

theorem leadingWord?_eq_none_iff :
    leadingWord? s = none ↔ ∀ w ∈ reservedWords.map String.toList, Text.startsUpper w s = false := by
  simp only [leadingWord?, wordsByLength, List.find?_eq_none, List.mem_mergeSort, Bool.not_eq_true]

/-- The word found is the longest one that the text starts with. -/
theorem length_le_of_leadingWord? (h : leadingWord? s = some w) {v : List Char}
    (hv : v ∈ reservedWords.map String.toList) (hstarts : Text.startsUpper v s = true) : v.length ≤ w.length := by
  have hsorted : wordsByLength.Pairwise fun v w => decide (w.length ≤ v.length) = true := by
    apply List.pairwise_mergeSort
    · intro a b c hab hbc
      simp only [decide_eq_true_eq] at *
      omega
    · intro a b
      simp only [Bool.or_eq_true, decide_eq_true_eq]
      omega
  obtain ⟨-, front, back, hwords, hfront⟩ := List.find?_eq_some_iff_append.1 h
  have hmem : v ∈ wordsByLength := List.mem_mergeSort.2 hv
  rw [hwords] at hmem
  rw [hwords, List.pairwise_append, List.pairwise_cons] at hsorted
  rcases List.mem_append.1 hmem with hv | hv
  · have hnot := hfront v hv
    rw [hstarts] at hnot
    cases hnot
  · rcases List.mem_cons.1 hv with rfl | hv
    · exact Nat.le_refl _
    · exact of_decide_eq_true (hsorted.2.1.1 v hv)

theorem leadingWord?_eq_some (hs : IsAscii s) (hw : w ∈ reservedWords.map String.toList)
    (hstarts : Text.startsUpper w s = true)
    (hlongest : ∀ v ∈ reservedWords.map String.toList, Text.startsUpper v s = true → v.length ≤ w.length) :
    leadingWord? s = some w := by
  cases hfound : leadingWord? s with
  | none =>
    rw [leadingWord?_eq_none_iff.1 hfound w hw] at hstarts
    cases hstarts
  | some v =>
    obtain ⟨hv, hvstarts⟩ := mem_of_leadingWord? hfound
    have hle := length_le_of_leadingWord? hfound hw hstarts
    have hge := hlongest v hv hvstarts
    have hfront := List.prefix_of_prefix_length_le ((Text.startsUpper_iff hs).1 hvstarts)
      ((Text.startsUpper_iff hs).1 hstarts) hge
    rw [hfront.eq_of_length (by omega)]

theorem atRemWord_eq_false (h : leadingWord? s = none) : atRemWord s = false :=
  leadingWord?_eq_none_iff.1 h _ rem_mem_reservedWords

end

/-! ## What may follow a part closely -/

theorem callsNext_map_capital {a : List Char} (ha : IsAscii a) : callsNext (a.map capital) = callsNext a := by
  rw [← Text.upper_eq_map ha, callsNext, Text.upper_upper, callsNext]

theorem callsNext_iff {a : List Char} :
    callsNext a = true ↔ isFunctionWord (Text.upper a) = true ∨ (Text.upper a).getLast? = some '(' := by
  simp [callsNext]

theorem mem_reservedWords_of_isFunctionWord {w : List Char} (h : isFunctionWord w = true) :
    w ∈ reservedWords.map String.toList := by
  obtain ⟨v, hv, heq⟩ := List.any_eq_true.1 h
  exact List.mem_map.2 ⟨v, List.mem_append_right _ hv, beq_iff_eq.1 heq⟩

theorem paren_notMem_of_isFunctionWord {w : List Char} (h : isFunctionWord w = true) : '(' ∉ w := by
  intro hmem
  have hparen := (functionShape h).mem hmem
  revert hparen
  decide

/-- Behind a parenthesis only the end of a part matters. -/
theorem callsNext_append_paren (p r : List Char) : callsNext (p ++ '(' :: r) = callsNext ('(' :: r) := by
  have hparen : Text.upper ('(' :: r) = '(' :: Text.upper r := rfl
  have hfront : isFunctionWord (Text.upper p ++ '(' :: Text.upper r) = false := by
    rw [Bool.eq_false_iff]
    intro h
    exact paren_notMem_of_isFunctionWord h (by simp)
  have hback : isFunctionWord ('(' :: Text.upper r) = false := by
    rw [Bool.eq_false_iff]
    intro h
    exact paren_notMem_of_isFunctionWord h (by simp)
  rw [callsNext, callsNext, Text.upper_append, hparen]
  simp only [hfront, hback, Bool.false_or, List.getLast?_append, List.getLast?_cons, Option.some_or]

/-- What respacing puts behind a part: nothing, a blank, or a parenthesis that follows closely. -/
def Follows (part rest : List Char) : Prop := ∀ x ∈ rest.head?, x = ' ' ∨ x = '(' ∧ callsNext part = true

/-- A reserved word that starts with a part ends with it at the latest. -/
theorem Follows.length_le {a rest w : List Char} (h : Follows a rest) (hascii : IsAscii (a ++ rest))
    (hw : w ∈ reservedWords.map String.toList) (hstarts : Text.startsUpper w (a ++ rest) = true) :
    w.length ≤ a.length := by
  by_contra hlong
  cases rest with
  | nil =>
    have hle := (Text.eq_of_startsUpper hascii hstarts).1
    rw [List.append_nil] at hle
    exact hlong hle
  | cons x rest =>
    refine hlong (length_le_of_startsUpper hascii hstarts ?_)
    rcases h x rfl with rfl | ⟨rfl, hcalls⟩
    · intro hmem
      have hseparator := (wordShape hw).separators _ (List.mem_of_mem_drop hmem)
      revert hseparator
      decide
    · have htake : w.take a.length = a.map capital := by
        have hprefix := (Text.startsUpper_iff hascii).1 hstarts
        rw [List.map_append] at hprefix
        have hle : (a.map capital).length ≤ w.length := by
          rw [List.length_map]
          omega
        have hfront := List.prefix_of_prefix_length_le (List.prefix_append _ _) hprefix hle
        rw [List.prefix_iff_eq_take.1 hfront, List.length_map]
      refine (wordShape hw).calls _ ?_
      rw [htake, callsNext_map_capital hascii.left, hcalls]

theorem startsUpper_append {w a : List Char} (rest : List Char) (hascii : IsAscii (a ++ rest)) (hle : w.length ≤ a.length) :
    Text.startsUpper w (a ++ rest) = true ↔ Text.startsUpper w a = true := by
  rw [Text.startsUpper_iff hascii, Text.startsUpper_iff hascii.left, List.map_append]
  refine ⟨fun h => ?_, fun h => List.prefix_append_of_prefix h⟩
  exact List.prefix_of_prefix_length_le h (List.prefix_append _ _) (by rwa [List.length_map])

/-! ## The grammar -/

/-- A text begins with a part, and another text stands behind it. A remark and a string that is not closed go to the
end. A run goes on as long as nothing else starts. -/
inductive Begins (keepCase : Bool) : List Char → List Char → List Char → Prop
  | closed {v t : List Char} : '"' ∉ v → Begins keepCase ('"' :: (v ++ '"' :: t)) ('"' :: (v ++ ['"'])) t
  | unclosed {v : List Char} : '"' ∉ v → Begins keepCase ('"' :: v) ('"' :: v) []
  | remWord {mark t : List Char} : mark.map capital = ['R', 'E', 'M'] →
      Begins keepCase (mark ++ t) (casedWord keepCase mark ++ t) []
  | apostrophe {t : List Char} : Begins keepCase (Text.apostrophe :: t) (Text.apostrophe :: t) []
  | word {w form t : List Char} : form.map capital = w → leadingWord? (form ++ t) = some w →
      atRemWord (form ++ t) = false → w.head? ≠ some Text.apostrophe →
      Begins keepCase (form ++ t) (casedWord keepCase form) t
  | colon {t : List Char} : Begins keepCase (':' :: t) [':'] t
  | run {r t : List Char} : r ≠ [] → (∀ i < r.length, endsRun ((r ++ t).drop i) = false) → endsRun t = true →
      Begins keepCase (r ++ t) r t

/-- A run ends at the first place where something else starts. -/
theorem exists_runOf : ∀ s : List Char, ∃ t, s = runOf s ++ t ∧
    (∀ i < (runOf s).length, endsRun (s.drop i) = false) ∧ endsRun t = true
  | [] => ⟨[], rfl, by simp [runOf], rfl⟩
  | c :: s => by
    rw [runOf]
    split
    · rename_i hends
      exact ⟨c :: s, rfl, by simp, hends⟩
    · rename_i hends
      obtain ⟨t, heq, hinside, ht⟩ := exists_runOf s
      refine ⟨t, by rw [List.cons_append, ← heq], ?_, ht⟩
      intro i hi
      cases i with
      | zero => simpa using hends
      | succ i => exact hinside i (by simpa using hi)

theorem runOf_append {t : List Char} (ht : endsRun t = true) : ∀ {r : List Char},
    (∀ i < r.length, endsRun ((r ++ t).drop i) = false) → runOf (r ++ t) = r
  | [], _ => by
    cases t with
    | nil => rfl
    | cons c t => rw [List.nil_append, runOf, if_pos ht]
  | c :: r, h => by
    obtain ⟨hhead, htail⟩ := of_places_cons h
    rw [List.cons_append, runOf, if_neg (by simp [hhead]), runOf_append ht htail]

/-- All operators but the colon are reserved words. -/
theorem eq_colon {c : Char} {s : List Char} (hs : IsAscii (c :: s)) (hop : isOperator c = true)
    (hword : leadingWord? (c :: s) = none) : c = ':' := by
  have hall : "=+-*/^\\<>:".toList.all (fun c => c == ':' ||
      ((reservedWords.map String.toList).contains [c] && capital c == c)) = true := by decide +kernel
  have hc := List.all_eq_true.1 hall c (List.contains_iff_mem.1 hop)
  simp only [Bool.or_eq_true, Bool.and_eq_true, beq_iff_eq, List.contains_iff_mem] at hc
  rcases hc with hc | ⟨hmem, hcapital⟩
  · exact hc
  · have hno := leadingWord?_eq_none_iff.1 hword [c] hmem
    rw [Bool.eq_false_iff, Ne, Text.startsUpper_iff hs, List.map_cons, hcapital] at hno
    exact absurd (List.cons_prefix_cons.2 ⟨rfl, List.nil_prefix⟩) hno

/-- What does not end a run. -/
theorem of_endsRun_eq_false {c : Char} {s : List Char} (h : endsRun (c :: s) = false) :
    isBlank c = false ∧ c ≠ '"' ∧ c ≠ Text.apostrophe ∧ atRemWord (c :: s) = false ∧ isOperator c = false ∧
      leadingWord? (c :: s) = none := by
  simpa [endsRun, and_assoc] using h

section
variable {keepCase : Bool} {s p t : List Char}

/-- **Every text** that does not start with a blank begins in one of these ways. -/
theorem exists_begins {c : Char} {rest : List Char} (hc : isBlank c = false) (hs : IsAscii (c :: rest)) :
    ∃ p t, Begins keepCase (c :: rest) p t := by
  by_cases hquote : c = '"'
  · subst hquote
    by_cases hmem : '"' ∈ rest
    · obtain ⟨v, t, rfl, hv⟩ := List.eq_append_cons_of_mem hmem
      exact ⟨_, _, .closed hv⟩
    · exact ⟨_, _, .unclosed hmem⟩
  by_cases hrem : atRemWord (c :: rest) = true
  · obtain ⟨-, hmark⟩ := Text.eq_of_startsUpper hs hrem
    rw [← List.take_append_drop 3 (c :: rest)]
    exact ⟨_, _, .remWord hmark.symm⟩
  by_cases hapostrophe : c = Text.apostrophe
  · subst hapostrophe
    exact ⟨_, _, .apostrophe⟩
  cases hword : leadingWord? (c :: rest) with
  | some w =>
    obtain ⟨hmem, hstarts⟩ := mem_of_leadingWord? hword
    obtain ⟨-, hform⟩ := Text.eq_of_startsUpper hs hstarts
    have hhead : w.head? ≠ some Text.apostrophe := by
      obtain ⟨d, w, rfl, -⟩ := (wordShape hmem).head
      rw [List.length_cons, List.take_succ_cons, List.map_cons, List.cons.injEq] at hform
      rw [List.head?_cons, hform.1]
      intro heq
      have hcapital : capital c = Text.apostrophe → c = Text.apostrophe :=
        Text.forall_ascii (p := fun c => capital c = Text.apostrophe → c = Text.apostrophe) (by decide)
          (hs c List.mem_cons_self)
      exact hapostrophe (hcapital (Option.some.inj heq))
    rw [← List.take_append_drop w.length (c :: rest)] at hword hrem ⊢
    exact ⟨_, _, .word hform.symm hword (by simpa using hrem) hhead⟩
  | none =>
    by_cases hop : isOperator c = true
    · obtain rfl := eq_colon hs hop hword
      exact ⟨_, _, .colon⟩
    · have hends : endsRun (c :: rest) = false := by
        simp [endsRun, hc, hquote, hapostrophe, hrem, hop, hword]
      obtain ⟨t, heq, hinside, ht⟩ := exists_runOf (c :: rest)
      have hne : runOf (c :: rest) ≠ [] := by simp [runOf, hends]
      generalize runOf (c :: rest) = r at heq hinside hne
      rw [heq] at hinside ⊢
      exact ⟨r, t, .run hne hinside ht⟩

theorem length_casedWord (h : IsAscii s) : (casedWord keepCase s).length = s.length := by
  cases keepCase with
  | true => rfl
  | false => rw [casedWord, if_neg Bool.false_ne_true, Text.upper_eq_map h, List.length_map]

theorem map_capital_casedWord (h : IsAscii s) : (casedWord keepCase s).map capital = s.map capital := by
  cases keepCase with
  | true => rfl
  | false =>
    rw [casedWord, if_neg Bool.false_ne_true, Text.upper_eq_map h, List.map_map]
    exact List.map_congr_left fun c hc => Text.capital_capital (h c hc)

theorem casedWord_casedWord : casedWord keepCase (casedWord keepCase s) = casedWord keepCase s := by
  cases keepCase with
  | true => rfl
  | false => exact Text.upper_upper _

theorem isAscii_casedWord (h : IsAscii s) : IsAscii (casedWord keepCase s) := by
  cases keepCase with
  | true => exact h
  | false => exact Text.isAscii_upper h

/-- The first character of a reserved word in some form. -/
theorem of_capital_mem_word {w : List Char} {c : Char} (hw : w ∈ reservedWords.map String.toList)
    (hc : c.toNat < 0x80) (hmem : capital c ∈ w) : isBlank c = false ∧ c ≠ '"' := by
  have hseparator := (wordShape hw).separators _ hmem
  rw [(classes_capital hc).1] at hseparator
  have hparts : isBlank c = false ∧ c ≠ '"' ∧ c ≠ ':' ∧ c.isDigit = false := by
    simpa [isSeparator, and_assoc] using hseparator
  exact ⟨hparts.1, hparts.2.1⟩

/-- No reserved word starts with a separator. -/
theorem leadingWord?_of_isSeparator {c : Char} {rest : List Char} (hs : IsAscii (c :: rest))
    (hc : isSeparator c = true) : leadingWord? (c :: rest) = none := by
  refine leadingWord?_eq_none_iff.2 fun w hw => ?_
  obtain ⟨d, v, rfl, -⟩ := (wordShape hw).head
  rw [Bool.eq_false_iff, Ne, Text.startsUpper_iff hs, List.map_cons, List.cons_prefix_cons]
  rintro ⟨rfl, -⟩
  have hword := (wordShape hw).separators _ List.mem_cons_self
  rw [(classes_capital (hs c List.mem_cons_self)).1, hc] at hword
  cases hword

theorem exists_cons_of_form {w form : List Char} (hw : w ∈ reservedWords.map String.toList)
    (hform : form.map capital = w) : ∃ c u, form = c :: u := by
  refine List.exists_cons_of_ne_nil ?_
  rintro rfl
  exact (wordShape hw).ne_nil hform.symm

/-- What begins a text is the first part of its scan. -/
theorem Begins.scanParts_eq (h : Begins keepCase s p t) (hs : IsAscii s) :
    scanParts keepCase 0 s = p :: scanParts keepCase 0 t := by
  cases h with
  | closed hv => exact scanParts_closed hv t
  | unclosed hv => exact scanParts_unclosed hv
  | @remWord mark t hmark =>
    have hrem : atRemWord (mark ++ t) = true := by
      rw [atRemWord, Text.startsUpper_iff hs, List.map_append, hmark]
      exact List.prefix_append _ _
    simp only [List.map_eq_cons_iff, List.map_eq_nil_iff] at hmark
    obtain ⟨c, _, rfl, hletter, d, _, rfl, -, e, _, rfl, -, rfl⟩ := hmark
    obtain ⟨hblank, -, hne⟩ := of_capital_eq_R (hs c (by simp)) hletter
    exact scanParts_rem hblank hne hrem
  | apostrophe => exact scanParts_apostrophe hs
  | @word w form t hform hword hrem hhead =>
    obtain ⟨hmem, -⟩ := mem_of_leadingWord? hword
    have hlength : w.length = form.length := by rw [← hform, List.length_map]
    obtain ⟨c, form, rfl⟩ := exists_cons_of_form hmem hform
    obtain ⟨hblank, hquote⟩ := of_capital_mem_word hmem (hs c (by simp)) (hform ▸ List.mem_cons_self)
    have hapostrophe : c ≠ Text.apostrophe := by
      rintro rfl
      rw [← hform] at hhead
      exact hhead rfl
    have hpart : leadingPart keepCase (c :: (form ++ t)) =
        (casedWord keepCase (c :: form), (c :: form).length) := by
      rw [List.cons_append] at hword hrem
      simp only [leadingPart, if_neg hquote, hrem, Bool.false_eq_true, if_false, if_neg hapostrophe, hword, hlength]
      rw [← List.cons_append, List.take_left]
    rw [List.cons_append, scanParts_part hblank, hpart, ← List.cons_append, List.drop_left]
  | colon =>
    have hword : leadingWord? (':' :: t) = none := leadingWord?_of_isSeparator hs (by decide)
    have hpart : leadingPart keepCase (':' :: t) = ([':'], 1) := by
      simp only [leadingPart, atRemWord_eq_false hword, hword]
      rfl
    rw [scanParts_part rfl, hpart, List.drop_succ_cons, List.drop_zero]
  | @run r t hne hinside ht =>
    obtain ⟨c, r, rfl⟩ := List.exists_cons_of_ne_nil hne
    obtain ⟨hstart, hmore⟩ := of_places_cons hinside
    obtain ⟨hblank, hquote, hapostrophe, hrem, hop, hword⟩ := of_endsRun_eq_false hstart
    have hrun : runOf (r ++ t) = r := runOf_append ht hmore
    have hpart : leadingPart keepCase (c :: (r ++ t)) = (c :: r, (c :: r).length) := by
      simp only [leadingPart, if_neg hquote, hrem, Bool.false_eq_true, if_false, if_neg hapostrophe, hword, hop, hrun]
    rw [List.cons_append, scanParts_part hblank, hpart, ← List.cons_append, List.drop_left]

/-! ## Words in some form -/

section
variable {w form : List Char}

/-- A word in the form in which it is written again. -/
theorem casedWord_form (keepCase : Bool) (hform : form.map capital = w) (hascii : IsAscii form) :
    (casedWord keepCase form).map capital = w := by
  rw [map_capital_casedWord hascii, hform]

theorem form_ne_paren (hw : w ∈ reservedWords.map String.toList) (hform : form.map capital = w) (t u : List Char) :
    form ++ t ≠ '(' :: u := by
  intro heq
  obtain ⟨c, v, rfl⟩ := exists_cons_of_form hw hform
  rw [List.cons_append, List.cons.injEq] at heq
  obtain ⟨d, u, hword, hne⟩ := (wordShape hw).head
  rw [← hform, heq.1, List.map_cons, List.cons.injEq] at hword
  exact hne (hword.1 ▸ rfl)

theorem visible_casedWord (keepCase : Bool) (hw : w ∈ reservedWords.map String.toList) (hform : form.map capital = w)
    (hascii : IsAscii form) : casedWord keepCase form ≠ [] ∧ ∀ c ∈ casedWord keepCase form, isBlank c = false := by
  have hcased := casedWord_form keepCase hform hascii
  obtain ⟨c, u, heq⟩ := exists_cons_of_form hw hcased
  refine ⟨heq ▸ List.cons_ne_nil c u, fun d hd => ?_⟩
  exact (of_capital_mem_word hw (isAscii_casedWord hascii d hd) (hcased ▸ List.mem_map_of_mem hd)).1

theorem mem_casedWord {c : Char} (hs : IsAscii s) (hc : c ∈ casedWord keepCase s) :
    ∃ d ∈ s, c = d ∨ c = capital d := by
  cases keepCase with
  | true => exact ⟨c, hc, Or.inl rfl⟩
  | false =>
    rw [casedWord, if_neg Bool.false_ne_true, Text.upper_eq_map hs] at hc
    obtain ⟨d, hd, rfl⟩ := List.mem_map.1 hc
    exact ⟨d, hd, Or.inr rfl⟩

end

/-! ## The characters of a part -/

theorem Begins.exists_front (h : Begins keepCase s p t) : ∃ front, front ≠ [] ∧ s = front ++ t := by
  cases h with
  | @closed v t hv => exact ⟨'"' :: (v ++ ['"']), List.cons_ne_nil _ _, by simp⟩
  | unclosed => exact ⟨_, List.cons_ne_nil _ _, (List.append_nil _).symm⟩
  | @remWord mark t hmark =>
    obtain ⟨c, u, rfl⟩ := exists_cons_of_form rem_mem_reservedWords hmark
    exact ⟨c :: u ++ t, List.cons_ne_nil _ _, (List.append_nil _).symm⟩
  | apostrophe => exact ⟨_, List.cons_ne_nil _ _, (List.append_nil _).symm⟩
  | word hform hword =>
    obtain ⟨c, u, rfl⟩ := exists_cons_of_form (mem_of_leadingWord? hword).1 hform
    exact ⟨c :: u, List.cons_ne_nil _ _, rfl⟩
  | colon => exact ⟨[':'], List.cons_ne_nil _ _, rfl⟩
  | run hne => exact ⟨_, hne, rfl⟩

/-- The characters of a part are those of the text, or their capitals. -/
theorem Begins.mem (h : Begins keepCase s p t) (hs : IsAscii s) {c : Char} (hc : c ∈ p) :
    ∃ d ∈ s, c = d ∨ c = capital d := by
  cases h with
  | closed =>
    refine ⟨c, ?_, Or.inl rfl⟩
    simp only [List.mem_cons, List.mem_append, List.not_mem_nil, or_false] at hc ⊢
    rcases hc with hc | hc | hc <;> simp [hc]
  | unclosed => exact ⟨c, hc, Or.inl rfl⟩
  | remWord =>
    rcases List.mem_append.1 hc with hc | hc
    · obtain ⟨d, hd, heq⟩ := mem_casedWord hs.left hc
      exact ⟨d, List.mem_append_left _ hd, heq⟩
    · exact ⟨c, List.mem_append_right _ hc, Or.inl rfl⟩
  | apostrophe => exact ⟨c, hc, Or.inl rfl⟩
  | word =>
    obtain ⟨d, hd, heq⟩ := mem_casedWord hs.left hc
    exact ⟨d, List.mem_append_left _ hd, heq⟩
  | colon =>
    rw [List.mem_singleton.1 hc]
    exact ⟨':', List.mem_cons_self, Or.inl rfl⟩
  | run => exact ⟨c, List.mem_append_left _ hc, Or.inl rfl⟩

theorem Begins.isAscii (h : Begins keepCase s p t) (hs : IsAscii s) : IsAscii p := by
  intro c hc
  obtain ⟨d, hd, rfl | rfl⟩ := h.mem hs hc
  · exact hs _ hd
  · exact Text.capital_lt (hs d hd)

theorem endsRun_of_mem_run {r : List Char} (h : ∀ i < r.length, endsRun ((r ++ t).drop i) = false) {c : Char}
    (hc : c ∈ r) : ∃ u, endsRun (c :: u) = false := by
  obtain ⟨i, hi, rfl⟩ := List.getElem_of_mem hc
  have hplace := h i hi
  rw [List.drop_append_of_le_length (Nat.le_of_lt hi), List.drop_eq_getElem_cons hi, List.cons_append] at hplace
  exact ⟨_, hplace⟩

theorem isBlank_of_mem_run {r : List Char} (h : ∀ i < r.length, endsRun ((r ++ t).drop i) = false) {c : Char}
    (hc : c ∈ r) : isBlank c = false := by
  obtain ⟨u, hplace⟩ := endsRun_of_mem_run h hc
  exact (of_endsRun_eq_false hplace).1

theorem quote_notMem_run {r : List Char} (h : ∀ i < r.length, endsRun ((r ++ t).drop i) = false) : '"' ∉ r := by
  intro hc
  obtain ⟨u, hplace⟩ := endsRun_of_mem_run h hc
  exact (of_endsRun_eq_false hplace).2.1 rfl

/-- A part starts with a visible character. -/
theorem Begins.head (h : Begins keepCase s p t) (hs : IsAscii s) : ∃ c u, p = c :: u ∧ isBlank c = false := by
  have hvisible : ∀ {q u : List Char}, q ≠ [] → (∀ c ∈ q, isBlank c = false) →
      ∃ c v, q ++ u = c :: v ∧ isBlank c = false := by
    intro q u hne hq
    obtain ⟨c, v, rfl⟩ := List.exists_cons_of_ne_nil hne
    exact ⟨c, v ++ u, rfl, hq c List.mem_cons_self⟩
  cases h with
  | closed => exact ⟨_, _, rfl, rfl⟩
  | unclosed => exact ⟨_, _, rfl, rfl⟩
  | remWord hmark =>
    obtain ⟨hne, hblank⟩ := visible_casedWord keepCase rem_mem_reservedWords hmark hs.left
    exact hvisible hne hblank
  | apostrophe => exact ⟨_, _, rfl, rfl⟩
  | word hform hword =>
    obtain ⟨hne, hblank⟩ := visible_casedWord keepCase (mem_of_leadingWord? hword).1 hform hs.left
    rw [← List.append_nil (casedWord keepCase _)]
    exact hvisible hne hblank
  | colon => exact ⟨_, _, rfl, rfl⟩
  | run hne hinside =>
    rw [← List.append_nil p]
    exact hvisible hne fun c hc => isBlank_of_mem_run hinside hc

/-- A part starts with the first character of the text, or its capital. -/
theorem Begins.head_capital (h : Begins keepCase s p t) (hs : IsAscii s) :
    p.head?.map capital = s.head?.map capital := by
  rw [← List.head?_map, ← List.head?_map]
  cases h with
  | closed => rfl
  | unclosed => rfl
  | remWord => rw [List.map_append, List.map_append, map_capital_casedWord hs.left]
  | apostrophe => rfl
  | word hform hword =>
    obtain ⟨c, u, rfl⟩ := exists_cons_of_form (mem_of_leadingWord? hword).1 hform
    rw [map_capital_casedWord hs.left]
    rfl
  | colon => rfl
  | run hne =>
    obtain ⟨c, r, rfl⟩ := List.exists_cons_of_ne_nil hne
    rfl

/-- A part starts where a visible character stands. -/
theorem Begins.first (h : Begins keepCase s p t) (hs : IsAscii s) : ∃ c u, s = c :: u ∧ isBlank c = false := by
  obtain ⟨c, u, hcons, hc⟩ := h.head hs
  have hcapital := h.head_capital hs
  cases s with
  | nil =>
    rw [hcons] at hcapital
    cases hcapital
  | cons d v =>
    rw [hcons] at hcapital
    have heq : capital c = capital d := Option.some.inj hcapital
    have hascii : IsAscii (c :: u) := by
      rw [← hcons]
      exact h.isAscii hs
    refine ⟨d, v, rfl, ?_⟩
    rw [← Text.isBlank_capital (hs d List.mem_cons_self), ← heq, Text.isBlank_capital (hascii c List.mem_cons_self), hc]

/-- A part ends with a visible character. One that goes to the end of the text may end with blanks, and is a part of
its kind without them as well. -/
theorem Begins.last (h : Begins keepCase s p t) (hs : IsAscii s) : (∃ u c, p = u ++ [c] ∧ isBlank c = false) ∨
    t = [] ∧ Begins keepCase (Text.trimRight p) (Text.trimRight p) [] := by
  have hvisible : ∀ {q : List Char}, q ≠ [] → (∀ c ∈ q, isBlank c = false) →
      ∃ u c, q = u ++ [c] ∧ isBlank c = false := fun hne hq =>
    ⟨_, _, (List.dropLast_concat_getLast hne).symm, hq _ (List.getLast_mem hne)⟩
  cases h with
  | @closed v t hv => exact Or.inl ⟨'"' :: v, '"', rfl, rfl⟩
  | @unclosed v hv =>
    have htrim : Text.trimRight ('"' :: v) = '"' :: Text.trimRight v := Text.trimRight_append_cons rfl [] v
    rw [htrim]
    exact Or.inr ⟨rfl, .unclosed fun hmem => hv (Text.mem_of_mem_trimRight hmem)⟩
  | @remWord mark t hmark =>
    obtain ⟨hne, hblank⟩ := visible_casedWord keepCase rem_mem_reservedWords hmark hs.left
    obtain ⟨u, c, heq, hc⟩ := hvisible hne hblank
    have htrim : Text.trimRight (casedWord keepCase mark ++ t) = casedWord keepCase mark ++ Text.trimRight t := by
      rw [heq, List.append_assoc, List.append_assoc]
      exact Text.trimRight_append_cons hc u t
    have hremark : Begins keepCase (casedWord keepCase mark ++ Text.trimRight t) _ [] :=
      .remWord (casedWord_form keepCase hmark hs.left)
    rw [casedWord_casedWord] at hremark
    rw [htrim]
    exact Or.inr ⟨rfl, hremark⟩
  | @apostrophe t =>
    have htrim : Text.trimRight (Text.apostrophe :: t) = Text.apostrophe :: Text.trimRight t :=
      Text.trimRight_append_cons rfl [] t
    rw [htrim]
    exact Or.inr ⟨rfl, .apostrophe⟩
  | word hform hword =>
    obtain ⟨hne, hblank⟩ := visible_casedWord keepCase (mem_of_leadingWord? hword).1 hform hs.left
    exact Or.inl (hvisible hne hblank)
  | colon => exact Or.inl ⟨[], ':', rfl, rfl⟩
  | run hne hinside => exact Or.inl (hvisible hne fun c hc => isBlank_of_mem_run hinside hc)

/-! ## Parts in a respaced text -/

/-- Where no reserved word reaches from a text into what follows, a run goes on as before. -/
theorem endsRun_append {a rest : List Char} (hfollows : Follows a rest) (hrest : IsAscii (a ++ rest))
    (hs : IsAscii (a ++ t)) (hne : a ≠ []) (h : endsRun (a ++ t) = false) : endsRun (a ++ rest) = false := by
  obtain ⟨c, a, rfl⟩ := List.exists_cons_of_ne_nil hne
  obtain ⟨hblank, hquote, hapostrophe, -, hop, hword⟩ := of_endsRun_eq_false h
  have hno : leadingWord? (c :: (a ++ rest)) = none := by
    refine leadingWord?_eq_none_iff.2 fun w hw => ?_
    rw [Bool.eq_false_iff]
    intro hstarts
    have hle := hfollows.length_le hrest hw hstarts
    have hbefore := leadingWord?_eq_none_iff.1 hword w hw
    have hinside := (startsUpper_append rest hrest hle).1 hstarts
    rw [Bool.eq_false_iff] at hbefore
    exact hbefore ((startsUpper_append t hs hle).2 hinside)
  simp [endsRun, hblank, hquote, hapostrophe, hop, hno, atRemWord_eq_false hno]

/-- A run is not the name of a function, so a parenthesis follows it closely only behind another one. -/
theorem Follows.drop_run {r rest : List Char} (hfollows : Follows r rest) (hs : IsAscii (r ++ t))
    (hinside : ∀ i < r.length, endsRun ((r ++ t).drop i) = false) {i : Nat} (hi : i < r.length) :
    Follows (r.drop i) rest := by
  intro x hx
  rcases hfollows x hx with hblank | ⟨hparen, hcalls⟩
  · exact Or.inl hblank
  · refine Or.inr ⟨hparen, ?_⟩
    obtain ⟨c, u, rfl⟩ := List.exists_cons_of_ne_nil (List.ne_nil_of_length_pos (Nat.zero_lt_of_lt hi))
    rcases callsNext_iff.1 hcalls with hfunction | hlast
    · -- the run would start with a reserved word
      have hstart : endsRun (c :: (u ++ t)) = false := hinside 0 (by simp)
      have hword : leadingWord? (c :: u ++ t) = none := (of_endsRun_eq_false hstart).2.2.2.2.2
      have hno := leadingWord?_eq_none_iff.1 hword _ (mem_reservedWords_of_isFunctionWord hfunction)
      rw [Bool.eq_false_iff, Ne, Text.startsUpper_iff hs, Text.upper_eq_map hs.left,
        List.map_append] at hno
      exact absurd (List.prefix_append _ _) hno
    · refine callsNext_iff.2 (Or.inr ?_)
      rw [Text.upper_eq_map hs.left] at hlast
      rw [Text.upper_eq_map (hs.left.drop i), List.map_drop, List.getLast?_drop, if_neg, hlast]
      rw [List.length_map]
      omega

theorem endsRun_of_follows {rest : List Char} (hfollows : Follows p rest) (hparen : rest.head? ≠ some '(') :
    endsRun rest = true := by
  cases rest with
  | nil => rfl
  | cons x rest =>
    rcases hfollows x rfl with rfl | ⟨rfl, -⟩
    · simp [endsRun, show isBlank ' ' = true from rfl]
    · exact absurd rfl hparen

/-- Nothing but a run starts with a parenthesis. -/
theorem Begins.of_paren {u : List Char} (h : Begins keepCase s p t) (hparen : s = '(' :: u) :
    s = p ++ t ∧ p ≠ [] ∧ (∀ i < p.length, endsRun ((p ++ t).drop i) = false) ∧ endsRun t = true := by
  cases h with
  | closed => cases hparen
  | unclosed => cases hparen
  | remWord hmark => exact absurd hparen (form_ne_paren rem_mem_reservedWords hmark _ _)
  | apostrophe => cases hparen
  | word hform hword => exact absurd hparen (form_ne_paren (mem_of_leadingWord? hword).1 hform _ _)
  | colon => cases hparen
  | run hne hinside ht => exact ⟨rfl, hne, hinside, ht⟩

/-- A word is found again in front of what respacing puts behind it. -/
theorem Begins.word_again {w form rest : List Char} (hform : form.map capital = w)
    (hword : leadingWord? (form ++ t) = some w) (hrem : atRemWord (form ++ t) = false)
    (hhead : w.head? ≠ some Text.apostrophe) (hs : IsAscii (form ++ t)) (hrest : IsAscii rest)
    (hfollows : Follows (casedWord keepCase form) rest) :
    Begins keepCase (casedWord keepCase form ++ rest) (casedWord keepCase form) rest := by
  have hcased := casedWord_form keepCase hform hs.left
  have hascii : IsAscii (casedWord keepCase form ++ rest) := (isAscii_casedWord hs.left).append hrest
  have hstarts : ∀ v, Text.startsUpper v (casedWord keepCase form) = true ↔ Text.startsUpper v form = true := by
    intro v
    rw [Text.startsUpper_iff hascii.left, Text.startsUpper_iff hs.left, hcased, hform]
  have hagain : leadingWord? (casedWord keepCase form ++ rest) = some w := by
    refine leadingWord?_eq_some hascii (mem_of_leadingWord? hword).1 ?_ fun v hv hvstarts => ?_
    · rw [Text.startsUpper_iff hascii, List.map_append, hcased]
      exact List.prefix_append _ _
    · have hle := hfollows.length_le hascii hv hvstarts
      rwa [← hcased, List.length_map]
  have hnorem : atRemWord (casedWord keepCase form ++ rest) = false := by
    rw [Bool.eq_false_iff]
    intro htrue
    have hle := hfollows.length_le hascii rem_mem_reservedWords htrue
    have hinside := (hstarts _).1 ((startsUpper_append rest hascii hle).1 htrue)
    rw [length_casedWord hs.left] at hle
    rw [atRemWord, (startsUpper_append t hs hle).2 hinside] at hrem
    cases hrem
  have hbegins : Begins keepCase _ (casedWord keepCase (casedWord keepCase form)) rest :=
    .word hcased hagain hnorem hhead
  rwa [casedWord_casedWord] at hbegins

/-- **A part is found again** in front of what respacing puts behind it. Only a run with a parenthesis behind it takes
in the run that starts there. -/
theorem Begins.again {rest : List Char} (h : Begins keepCase s p t) (hs : IsAscii s) (hrest : IsAscii rest)
    (hfollows : Follows p rest) (hend : t = [] → rest = []) :
    Begins keepCase (p ++ rest) p rest ∨
      ∃ u, rest = '(' :: u ∧ ∀ r v, Begins keepCase rest r v →
        Begins keepCase (p ++ rest) (p ++ r) v ∧ callsNext (p ++ r) = callsNext r := by
  cases h with
  | @closed v t hv =>
    left
    have hclosed : Begins keepCase ('"' :: (v ++ '"' :: rest)) _ rest := .closed hv
    simpa using hclosed
  | unclosed hv =>
    rw [hend rfl, List.append_nil]
    exact Or.inl (.unclosed hv)
  | @remWord mark t hmark =>
    rw [hend rfl, List.append_nil]
    have hremark : Begins keepCase (casedWord keepCase mark ++ t) _ [] :=
      .remWord (casedWord_form keepCase hmark hs.left)
    rw [casedWord_casedWord] at hremark
    exact Or.inl hremark
  | apostrophe =>
    rw [hend rfl, List.append_nil]
    exact Or.inl .apostrophe
  | word hform hword hrem hhead => exact Or.inl (Begins.word_again hform hword hrem hhead hs hrest hfollows)
  | colon => exact Or.inl .colon
  | run hne hinside ht =>
    have hfront : ∀ i < p.length, endsRun ((p ++ rest).drop i) = false := by
      intro i hi
      have hplace := hinside i hi
      rw [List.drop_append_of_le_length (Nat.le_of_lt hi)] at hplace ⊢
      refine endsRun_append (hfollows.drop_run hs hinside hi) ((hs.left.drop i).append hrest) ?_ ?_ hplace
      · rw [← List.drop_append_of_le_length (Nat.le_of_lt hi)]
        exact hs.drop i
      · intro hnil
        rw [List.drop_eq_nil_iff] at hnil
        omega
    by_cases hparen : rest.head? = some '('
    · right
      obtain ⟨u, rfl⟩ : ∃ u, rest = '(' :: u := by
        cases rest with
        | nil => cases hparen
        | cons x u => exact ⟨u, by rw [Option.some.inj hparen]⟩
      refine ⟨u, rfl, fun r v hr => ?_⟩
      obtain ⟨heq, hrne, hrinside, hv⟩ := hr.of_paren rfl
      refine ⟨?_, ?_⟩
      · rw [heq, ← List.append_assoc] at hfront ⊢
        refine .run (by simp [hne]) (fun i hi => ?_) hv
        by_cases hlt : i < p.length
        · exact hfront i hlt
        · have hplace := hrinside (i - p.length) (by rw [List.length_append] at hi; omega)
          rwa [List.append_assoc, List.drop_append, List.drop_eq_nil_of_le (by omega), List.nil_append]
      · obtain ⟨c, r, rfl⟩ := List.exists_cons_of_ne_nil hrne
        rw [List.cons_append, List.cons.injEq] at heq
        rw [← heq.1]
        exact callsNext_append_paren p r
    · exact Or.inl (.run hne hfront (endsRun_of_follows hfollows hparen))

end

end MsxWorkbench.Program
