import MsxWorkbench.Proofs.Program.Parts
/-
# Strings and remarks of a respaced line

In a plain line no part but a remark reaches across the start of a string or of a remark (`Breaks`). So the scan
comes to such a place between two parts, or it is in a remark that started before, which is copied as it stands
(`passes_of_breaks`). Either way what stands there is in the respaced line as it was (`copied_of_scanParts`).
-/
namespace MsxWorkbench.Program

open Text (isBlank isDigit unspaced capital IsAscii)

/-! ## Reserved words -/

section
variable {w a s r : List Char} {x c : Char}

/-- A word that is found reaches up to a character at most that it does not have from there on. -/
theorem length_le_of_startsUpper (hascii : IsAscii (a ++ x :: r)) (hw : Text.startsUpper w (a ++ x :: r) = true)
    (hx : capital x ∉ w.drop a.length) : w.length ≤ a.length := by
  by_contra hlt
  obtain ⟨more, hmore⟩ := (Text.startsUpper_iff hascii).1 hw
  apply hx
  have hdrop := congrArg (List.drop a.length) hmore
  rw [List.drop_append_of_le_length (by omega), List.map_append, List.drop_left' (by simp), List.map_cons] at hdrop
  cases hrest : w.drop a.length with
  | nil =>
    rw [List.drop_eq_nil_iff] at hrest
    omega
  | cons d rest =>
    rw [hrest, List.cons_append, List.cons.injEq] at hdrop
    rw [hdrop.1]
    exact List.mem_cons_self

end

/-! ## Places between parts -/

/-- The place behind a text is outside strings. -/
def OutsideStrings (s : List Char) : Prop := s.count '"' % 2 = 0

instance (s : List Char) : Decidable (OutsideStrings s) := inferInstanceAs (Decidable (_ = _))

/-- No run of other characters and no reserved word reaches from `pre` into `rest`. -/
structure Breaks (pre rest : List Char) : Prop where
  run : endsRun rest = true
  word : ∀ a w, a ≠ [] → a <:+ pre → w ∈ reservedWords.map String.toList →
    Text.startsUpper w (a ++ rest) = true → w.length ≤ a.length

theorem Breaks.suffix {pre rest s : List Char} (h : Breaks pre rest) (hs : s <:+ pre) : Breaks s rest :=
  ⟨h.run, fun a w hne ha => h.word a w hne (ha.trans hs)⟩

/-- How the scan of a text passes a place in it: between two parts, or in a remark. -/
inductive Passes (keepCase : Bool) (pre rest : List Char) : Prop
  | between (parts : List (List Char)) : kept keepCase parts.flatten = kept keepCase pre →
      scanParts keepCase 0 (pre ++ rest) = parts ++ scanParts keepCase 0 rest → Passes keepCase pre rest
  | inside (parts : List (List Char)) (tail : List Char) : kept keepCase (parts.flatten ++ tail) = kept keepCase pre →
      scanParts keepCase 0 (pre ++ rest) = parts ++ [tail ++ rest] → Passes keepCase pre rest

section
variable {keepCase : Bool} {pre rest : List Char}

theorem Passes.cons {s p : List Char} (h : Passes keepCase s rest)
    (hscan : scanParts keepCase 0 (pre ++ rest) = p :: scanParts keepCase 0 (s ++ rest))
    (hkept : kept keepCase p ++ kept keepCase s = kept keepCase pre) : Passes keepCase pre rest := by
  cases h with
  | between parts hparts hs =>
    refine .between (p :: parts) ?_ (by rw [hscan, hs, List.cons_append])
    rw [List.flatten_cons, kept_append, hparts, hkept]
  | inside parts tail hparts hs =>
    refine .inside (p :: parts) tail ?_ (by rw [hscan, hs, List.cons_append])
    rw [List.flatten_cons, List.append_assoc, kept_append, hparts, hkept]

theorem runOf_append_isPrefix (hrest : endsRun rest = true) : ∀ s : List Char, runOf (s ++ rest) <+: s
  | [] => by
    cases rest with
    | nil => exact List.nil_prefix
    | cons c rest => simp [runOf, hrest]
  | c :: s => by
    rw [List.cons_append, runOf]
    split
    · exact List.nil_prefix
    · exact List.cons_prefix_cons.2 ⟨rfl, runOf_append_isPrefix hrest s⟩

theorem quote_notMem_runOf : ∀ s : List Char, '"' ∉ runOf s
  | [] => by simp [runOf]
  | c :: s => by
    rw [runOf]
    split
    · simp
    · rename_i hends
      rw [List.mem_cons, not_or]
      refine ⟨?_, quote_notMem_runOf s⟩
      rintro rfl
      simp [endsRun] at hends

theorem outsideStrings_of_notMem {s : List Char} (h : '"' ∉ s) : OutsideStrings s := by
  rw [OutsideStrings, List.count_eq_zero.2 h]

theorem OutsideStrings.drop (h : OutsideStrings pre) {n : Nat} (hn : OutsideStrings (pre.take n)) :
    OutsideStrings (pre.drop n) := by
  unfold OutsideStrings at *
  have hcount := congrArg (List.count '"') (List.take_append_drop n pre)
  rw [List.count_append] at hcount
  omega

theorem stringOf_closed {v : List Char} (hv : '"' ∉ v) (t : List Char) :
    stringOf ('"' :: (v ++ '"' :: t)) = '"' :: (v ++ ['"']) := by
  have hinner : (v ++ '"' :: t).takeWhile (· != '"') = v := by
    rw [takeWhile_append_of_noHead v (by simp [NoHead]), takeWhile_bne_of_notMem hv]
  simp only [stringOf, hinner, List.drop_left]
  rfl

theorem stringOf_unclosed {v : List Char} (hv : '"' ∉ v) : stringOf ('"' :: v) = '"' :: v := by
  simp [stringOf, takeWhile_bne_of_notMem hv]

/-- A part that starts before a break ends before it, or it is a remark. -/
theorem LeadingPart.within {p : List Char × Nat} (h : LeadingPart keepCase (pre ++ rest) p) (hne : pre ≠ [])
    (hascii : IsAscii (pre ++ rest)) (hquotes : OutsideStrings pre) (hbreaks : Breaks pre rest) :
    (p.2 ≤ pre.length ∧ OutsideStrings (pre.take p.2)) ∨
      ∃ tail, p = (tail ++ rest, (pre ++ rest).length) ∧ kept keepCase tail = kept keepCase pre := by
  obtain ⟨c, pre, rfl⟩ := List.exists_cons_of_ne_nil hne
  cases h with
  | string hhead =>
    -- an even number of quotes up to the break, so the string is closed before it
    obtain rfl : c = '"' := Option.some.inj hhead
    have hmem : '"' ∈ pre := by
      by_contra hnot
      rw [OutsideStrings, List.count_cons_self, List.count_eq_zero.2 hnot] at hquotes
      omega
    obtain ⟨v, t, rfl, hv⟩ := List.eq_append_cons_of_mem hmem
    have hstring := stringOf_closed hv (t ++ rest)
    have hsplit : '"' :: (v ++ '"' :: t) = ('"' :: (v ++ ['"'])) ++ t := by simp
    have hscan : ('"' :: (v ++ '"' :: t)) ++ rest = '"' :: (v ++ '"' :: (t ++ rest)) := by simp
    left
    rw [hscan, hstring, hsplit]
    refine ⟨by simp, ?_⟩
    rw [List.take_left, OutsideStrings, List.count_cons_self, List.count_append, List.count_eq_zero.2 hv]
    rfl
  | remWord hrem =>
    right
    have hthree : 3 ≤ (c :: pre).length :=
      hbreaks.word _ ['R', 'E', 'M'] hne List.suffix_rfl rem_mem_reservedWords hrem
    refine ⟨casedWord keepCase ((c :: pre).take 3) ++ (c :: pre).drop 3, ?_, ?_⟩
    · rw [List.take_append_of_le_length hthree, List.drop_append_of_le_length hthree, List.append_assoc]
    · rw [kept_append, kept_casedWord, ← kept_append, List.take_append_drop]
  | apostrophe => exact .inr ⟨c :: pre, rfl, rfl⟩
  | @word w hword =>
    obtain ⟨hmem, hstarts⟩ := mem_of_leadingWord? hword
    have hle := hbreaks.word _ _ hne List.suffix_rfl hmem hstarts
    refine .inl ⟨hle, outsideStrings_of_notMem fun hquote => ?_⟩
    -- the word is the capitals of what it is taken from
    have hcapitals := (Text.eq_of_startsUpper hascii hstarts).2
    rw [List.take_append_of_le_length hle] at hcapitals
    have hquote' : '"' ∈ w := by
      rw [hcapitals]
      exact List.mem_map.2 ⟨'"', hquote, rfl⟩
    have hseparator := (wordShape hmem).separators _ hquote'
    revert hseparator
    decide
  | single hhead hc =>
    refine .inl ⟨by simp, outsideStrings_of_notMem ?_⟩
    obtain rfl := Option.some.inj hhead
    simpa using Ne.symm hc
  | run hcons hc =>
    rw [List.cons_append, List.cons.injEq] at hcons
    obtain ⟨rfl, rfl⟩ := hcons
    have hprefix := runOf_append_isPrefix hbreaks.run pre
    refine .inl ⟨by simpa using hprefix.length_le, outsideStrings_of_notMem ?_⟩
    rw [List.take_succ_cons, ← List.prefix_iff_eq_take.1 hprefix, List.mem_cons, not_or]
    exact ⟨Ne.symm hc, quote_notMem_runOf _⟩

/-- The scan passes a break between two parts or in a remark. -/
theorem passes_of_breaks (hascii : IsAscii (pre ++ rest)) (hquotes : OutsideStrings pre) (hbreaks : Breaks pre rest) :
    Passes keepCase pre rest := by
  induction hs : pre ++ rest using induction_parts keepCase generalizing pre with
  | nil =>
    obtain ⟨rfl, rfl⟩ := List.append_eq_nil_iff.1 hs
    exact .between [] rfl rfl
  | blank c s hc ih =>
    cases pre with
    | nil => exact .between [] rfl rfl
    | cons d pre =>
      obtain ⟨rfl, rfl⟩ := List.cons.inj hs
      have hne : d ≠ '"' := by
        rintro rfl
        cases hc
      have hquotes' : OutsideStrings pre := by
        rwa [OutsideStrings, List.count_cons_of_ne hne] at hquotes
      have hkept : kept keepCase (d :: pre) = kept keepCase pre :=
        kept_of_unspaced (Text.blind_unspaced.cons d pre hc)
      cases ih (hascii.drop 1) hquotes' (hbreaks.suffix (List.suffix_cons d pre)) rfl with
      | between parts hparts hscan =>
        exact .between parts (hparts.trans hkept.symm) (by rw [List.cons_append, scanParts_blank hc, hscan])
      | inside parts tail hparts hscan =>
        exact .inside parts tail (hparts.trans hkept.symm) (by rw [List.cons_append, scanParts_blank hc, hscan])
  | part c s p hc hform hp ih =>
    cases pre with
    | nil => exact .between [] rfl rfl
    | cons d pre =>
      have hscan : scanParts keepCase 0 (c :: s) = _ := scanParts_part hc
      rw [hp] at hscan
      rw [← hs] at hform hscan ih
      have hkept := hform.kept_eq
      rcases hform.within (List.cons_ne_nil _ _) hascii hquotes hbreaks with
        ⟨hle, htaken⟩ | ⟨tail, rfl, htail⟩
      · rw [List.take_append_of_le_length hle] at hkept
        rw [List.drop_append_of_le_length hle] at hscan ih
        have hrest : IsAscii ((d :: pre).drop p.2 ++ rest) := by
          rw [← List.drop_append_of_le_length hle]
          exact hascii.drop p.2
        have hpasses : Passes keepCase ((d :: pre).drop p.2) rest :=
          ih hrest (hquotes.drop htaken) (hbreaks.suffix (List.drop_suffix _ _)) rfl
        refine hpasses.cons hscan ?_
        rw [hkept, ← kept_append, List.take_append_drop]
      · refine .inside [] tail (by simpa using htail) ?_
        rw [hscan]
        simp [scanParts]

end

/-! ## Starts of strings and remarks -/

section
variable {pre rest r : List Char}

theorem breaks_quote (hascii : IsAscii (pre ++ '"' :: r)) : Breaks pre ('"' :: r) := by
  refine ⟨by simp [endsRun], fun a w hne ha hw hstarts => ?_⟩
  obtain ⟨b, rfl⟩ := ha
  rw [List.append_assoc] at hascii
  refine length_le_of_startsUpper hascii.right hstarts fun hquote => ?_
  have hseparator := (wordShape hw).separators _ (List.mem_of_mem_drop hquote)
  revert hseparator
  decide

theorem breaks_apostrophe (hascii : IsAscii (pre ++ Text.apostrophe :: r)) : Breaks pre (Text.apostrophe :: r) := by
  refine ⟨by simp [endsRun], fun a w hne ha hw hstarts => ?_⟩
  obtain ⟨b, rfl⟩ := ha
  rw [List.append_assoc] at hascii
  refine length_le_of_startsUpper hascii.right hstarts fun hmem => ?_
  have htail : Text.apostrophe ∈ w.tail := by
    have hle : 1 ≤ a.length := List.length_pos_iff.2 hne
    rw [← List.drop_one]
    exact (List.drop_subset_drop_left w hle) hmem
  exact (wordShape hw).apostrophe htail

/-- A REM behind a separator. -/
theorem breaks_rem (hascii : IsAscii (pre ++ rest)) (hrem : atRemWord rest = true)
    (hlast : ∀ y, pre.getLast? = some y → isSeparator y = true) : Breaks pre rest := by
  refine ⟨?_, fun a w hne ha hw hstarts => ?_⟩
  · cases rest with
    | nil => rfl
    | cons c rest => simp [endsRun, hrem]
  · obtain ⟨a, y, rfl⟩ : ∃ b y, a = b ++ [y] := ⟨_, _, (List.dropLast_concat_getLast hne).symm⟩
    obtain ⟨b, rfl⟩ := ha
    rw [List.append_assoc] at hascii
    have hright := hascii.right
    have hy : isSeparator y = true := hlast y (by simp)
    have hyascii : y.toNat < 0x80 := hright y (by simp)
    rw [List.append_assoc, List.singleton_append] at hright hstarts
    have hle := length_le_of_startsUpper hright hstarts fun hmem => by
      have hword := (wordShape hw).separators _ (List.mem_of_mem_drop hmem)
      rw [(classes_capital hyascii).1, hy] at hword
      cases hword
    rw [List.length_append]
    omega

end

/-! ## Copies in the respaced line -/

/-- The part `middle` of a line, between `pre` and `post`, is in the respaced line as it stands, between texts that
keep what `pre` and `post` have. Blanks at the end of the line are dropped. -/
def Copied (keepCase : Bool) (line pre middle post : List Char) : Prop :=
  ∃ before after, respace keepCase line = Text.trimRight (before ++ middle ++ after) ∧
    kept keepCase before = kept keepCase pre ∧ kept keepCase after = kept keepCase post

theorem dropWhile_append_cons {p : Char → Bool} {x : Char} (hx : p x = false) (s r : List Char) :
    (s ++ x :: r).dropWhile p = s.dropWhile p ++ x :: r := by
  rw [List.dropWhile_append]
  split
  · rename_i hempty
    rw [List.isEmpty_iff.1 hempty, List.dropWhile_cons_of_neg (by simp [hx]), List.nil_append]
  · rfl

section
variable {keepCase : Bool} {pre r : List Char} {x : Char}

/-- The number of a line does not depend on what follows a character that is no blank and no digit. -/
theorem splitNumber_append (hline : '\n' ∉ pre ++ x :: r) (hblank : isBlank x = false) (hdigit : isDigit x = false) :
    splitNumber (pre ++ x :: r) = ((splitNumber pre).1, (splitNumber pre).2 ++ x :: r) := by
  have hpre : '\n' ∉ pre := fun hmem => hline (List.mem_append_left _ hmem)
  have htrim : ∀ s, Text.trimLeft (s ++ x :: r) = Text.trimLeft s ++ x :: r :=
    fun s => dropWhile_append_cons hblank s r
  have hhead : NoHead isDigit (x :: r) := by simpa [NoHead] using hdigit
  rw [splitNumber_eq hline, splitNumber_eq hpre]
  simp only [htrim, takeWhile_append_of_noHead _ hhead, dropWhile_append_cons hdigit]
  by_cases hempty : ((Text.trimLeft pre).takeWhile isDigit).isEmpty = true
  · rw [if_pos hempty, if_pos hempty]
  · rw [if_neg hempty, if_neg hempty]

theorem count_splitNumber (hpre : '\n' ∉ pre) (c : Char) (hblank : isBlank c = false) (hdigit : isDigit c = false) :
    (splitNumber pre).2.count c = pre.count c := by
  obtain ⟨lead, gap, heq, hlead, hgap, hnumber⟩ := exists_splitNumber hpre
  have hcount := congrArg (List.count c) heq
  have hzero : ∀ s : List Char, (∀ d ∈ s, isBlank d = true ∨ isDigit d = true) → s.count c = 0 := by
    intro s hs
    rw [List.count_eq_zero]
    intro hmem
    rcases hs c hmem with h | h
    · rw [hblank] at h; cases h
    · rw [hdigit] at h; cases h
  rw [List.count_append, List.count_append, List.count_append, hzero lead fun d hd => .inl (hlead d hd),
    hzero gap fun d hd => .inl (hgap d hd), hzero (splitNumber pre).1 fun d hd => .inr (hnumber d hd)] at hcount
  omega

/-- Where the scan starts a part with `head` and `middle`, `middle` is copied. -/
theorem copied_of_scanParts {mark middle post head : List Char} {more : List (List Char)}
    (hline : '\n' ∉ pre ++ x :: r) (hascii : IsAscii (pre ++ x :: r)) (hblank : isBlank x = false)
    (hdigit : isDigit x = false) (hquotes : OutsideStrings pre) (hbreaks : Breaks pre (x :: r))
    (hrest : x :: r = mark ++ middle ++ post) (hscan : scanParts keepCase 0 (x :: r) = (head ++ middle) :: more)
    (hhead : kept keepCase head = kept keepCase mark) (hmore : kept keepCase more.flatten = kept keepCase post) :
    Copied keepCase (pre ++ x :: r) (pre ++ mark) middle post := by
  have hpre : '\n' ∉ pre := fun hmem => hline (List.mem_append_left _ hmem)
  have hsuffix : (splitNumber pre).2 <:+ pre := by
    obtain ⟨lead, gap, heq, -⟩ := exists_splitNumber hpre
    exact ⟨lead ++ ((splitNumber pre).1 ++ gap), by rw [List.append_assoc, List.append_assoc, ← heq]⟩
  have hpasses : Passes keepCase (splitNumber pre).2 (x :: r) := by
    refine passes_of_breaks ?_ ?_ (hbreaks.suffix hsuffix)
    · obtain ⟨front, hfront⟩ := hsuffix
      rw [← hfront, List.append_assoc] at hascii
      exact hascii.right
    · rw [OutsideStrings, count_splitNumber hpre '"' rfl rfl]
      exact hquotes
  have hvisible : Text.allBlank (pre ++ x :: r) = false := by simp [Text.allBlank, hblank]
  have hparts := partsOf_eq keepCase (pre ++ x :: r)
  rw [splitNumber_append hline hblank hdigit] at hparts
  have hnumber := kept_lineNumberParts keepCase (splitNumber pre).1
  have hkept : kept keepCase pre = _ := (kept_splitNumber hpre).symm
  cases hpasses with
  | between parts hbetween hs =>
    rw [hs, hscan, ← List.append_assoc] at hparts
    obtain ⟨before, after, hjoined, hbefore, hafter, -⟩ :=
      exists_joined (lineNumberParts (splitNumber pre).1 ++ parts) (head ++ middle) more
    refine ⟨before ++ head, after, ?_, ?_, (kept_of_unspaced hafter).trans hmore⟩
    · rw [respace_eq hvisible, hparts, hjoined]
      simp only [List.append_assoc]
    · rw [kept_append, kept_of_unspaced hbefore, List.flatten_append, kept_append, hnumber, hbetween, kept_append,
        hhead, hkept]
  | inside parts tail hinside hs =>
    rw [hs, ← List.append_assoc] at hparts
    obtain ⟨before, after, hjoined, hbefore, -, hnil⟩ :=
      exists_joined (lineNumberParts (splitNumber pre).1 ++ parts) (tail ++ x :: r) []
    refine ⟨before ++ (tail ++ mark), post, ?_, ?_, rfl⟩
    · rw [respace_eq hvisible, hparts, hjoined, hnil rfl, hrest]
      simp only [List.append_assoc, List.append_nil]
    · rw [kept_append] at hinside
      rw [kept_append, kept_of_unspaced hbefore, List.flatten_append, kept_append, kept_append, kept_append, hnumber,
        hkept, ← hinside]
      simp only [List.append_assoc]

end

/-! ## Strings and remarks are copied -/

/-- A string of a line stands between `pre` and `post`: from a quote outside strings up to the next one, or, without
one, to the end of the line. -/
inductive StringAt : List Char → List Char → List Char → Prop
  | closed {pre v post : List Char} : OutsideStrings pre → '"' ∉ v → StringAt pre ('"' :: (v ++ ['"'])) post
  | unclosed {pre v : List Char} : OutsideStrings pre → '"' ∉ v → StringAt pre ('"' :: v) []

/-- A remark goes on behind `pre`: behind an apostrophe outside strings, or behind the letters REM outside strings
that start the line or follow a blank, a colon or a digit, as that of a line number. -/
inductive OpensRemark : List Char → Prop
  | apostrophe {code : List Char} : OutsideStrings code → OpensRemark (code ++ [Text.apostrophe])
  | remWord {code mark : List Char} : OutsideStrings code →
      (∀ c, code.getLast? = some c → isBlank c = true ∨ c = ':' ∨ c.isDigit = true) →
      Text.upper mark = ['R', 'E', 'M'] → OpensRemark (code ++ mark)

section
variable {keepCase : Bool} {pre middle post line : List Char}

theorem scanParts_closed {v : List Char} (hv : '"' ∉ v) (post : List Char) :
    scanParts keepCase 0 ('"' :: (v ++ '"' :: post)) = ('"' :: (v ++ ['"'])) :: scanParts keepCase 0 post := by
  have hpart : leadingPart keepCase ('"' :: (v ++ '"' :: post)) = ('"' :: (v ++ ['"']), v.length + 2) := by
    simp [leadingPart, stringOf_closed hv post]
  rw [scanParts_part rfl, hpart]
  simp

theorem scanParts_unclosed {v : List Char} (hv : '"' ∉ v) : scanParts keepCase 0 ('"' :: v) = ['"' :: v] := by
  have hpart : leadingPart keepCase ('"' :: v) = ('"' :: v, v.length + 1) := by
    simp [leadingPart, stringOf_unclosed hv]
  exact scanParts_of_whole rfl hpart

theorem scanParts_apostrophe {r : List Char} (hascii : IsAscii (Text.apostrophe :: r)) :
    scanParts keepCase 0 (Text.apostrophe :: r) = [Text.apostrophe :: r] := by
  have hrem : atRemWord (Text.apostrophe :: r) = false := by
    rw [atRemWord, Bool.eq_false_iff, Ne, Text.startsUpper_iff hascii, List.map_cons, List.cons_prefix_cons]
    exact fun h => absurd h.1 (by decide)
  have hpart : leadingPart keepCase (Text.apostrophe :: r) = (Text.apostrophe :: r, r.length + 1) := by
    simp only [leadingPart, hrem]
    rfl
  exact scanParts_of_whole rfl hpart

/-- What is known of the first letter of REM. -/
theorem of_capital_eq_R {c : Char} (hc : c.toNat < 0x80) (h : capital c = 'R') :
    isBlank c = false ∧ isDigit c = false ∧ c ≠ '"' :=
  Text.forall_ascii (p := fun c => capital c = 'R' → isBlank c = false ∧ isDigit c = false ∧ c ≠ '"')
    (by decide) hc h

theorem scanParts_rem {c : Char} {r : List Char} (hc : isBlank c = false) (hne : c ≠ '"')
    (hrem : atRemWord (c :: r) = true) :
    scanParts keepCase 0 (c :: r) = [casedWord keepCase ((c :: r).take 3) ++ (c :: r).drop 3] := by
  have hpart : leadingPart keepCase (c :: r) =
      (casedWord keepCase ((c :: r).take 3) ++ (c :: r).drop 3, (c :: r).length) := by
    simp only [leadingPart, if_neg hne, hrem, if_true]
  exact scanParts_of_whole hc hpart

theorem StringAt.copied (h : StringAt pre middle post) (hline : '\n' ∉ pre ++ middle ++ post)
    (hascii : IsAscii (pre ++ middle ++ post)) : Copied keepCase (pre ++ middle ++ post) pre middle post := by
  cases h with
  | @closed v _ hquotes hv =>
    have hsplit : pre ++ '"' :: (v ++ ['"']) ++ post = pre ++ '"' :: (v ++ '"' :: post) := by simp
    rw [hsplit] at hline hascii ⊢
    have hcopied : Copied keepCase _ (pre ++ []) _ post :=
      copied_of_scanParts hline hascii rfl rfl hquotes (breaks_quote hascii)
        (show '"' :: (v ++ '"' :: post) = [] ++ '"' :: (v ++ ['"']) ++ post by simp) (scanParts_closed hv post) rfl
        kept_scanParts
    rwa [List.append_nil] at hcopied
  | @unclosed v hquotes hv =>
    rw [List.append_nil] at hline hascii ⊢
    have hcopied : Copied keepCase _ (pre ++ []) _ [] :=
      copied_of_scanParts hline hascii rfl rfl hquotes (breaks_quote hascii)
        (show '"' :: v = [] ++ '"' :: v ++ [] by simp) (scanParts_unclosed hv) rfl rfl
    rwa [List.append_nil] at hcopied

theorem OpensRemark.copied (h : OpensRemark pre) (hline : '\n' ∉ pre ++ middle) (hascii : IsAscii (pre ++ middle)) :
    Copied keepCase (pre ++ middle) pre middle [] := by
  cases h with
  | @apostrophe code hquotes =>
    rw [List.append_assoc, List.singleton_append] at hline hascii ⊢
    exact copied_of_scanParts hline hascii rfl rfl hquotes (breaks_apostrophe hascii)
      (show Text.apostrophe :: middle = [Text.apostrophe] ++ middle ++ [] by simp)
      (scanParts_apostrophe hascii.right) rfl rfl
  | @remWord code mark hquotes hplace hmark =>
    rw [List.append_assoc] at hline hascii ⊢
    rw [Text.upper_eq_map hascii.right.left] at hmark
    have hrem : atRemWord (mark ++ middle) = true := by
      rw [atRemWord, Text.startsUpper_iff hascii.right, List.map_append, hmark]
      exact List.prefix_append _ _
    simp only [List.map_eq_cons_iff, List.map_eq_nil_iff] at hmark
    obtain ⟨c, _, rfl, hletter, d, _, rfl, -, e, _, rfl, -, rfl⟩ := hmark
    obtain ⟨hblank, hdigit, hne⟩ := of_capital_eq_R (hascii c (by simp)) hletter
    have hseparator : ∀ y, code.getLast? = some y → isSeparator y = true := by
      intro y hy
      rcases hplace y hy with h | h | h <;> simp [isSeparator, h]
    exact copied_of_scanParts hline hascii hblank hdigit hquotes (breaks_rem hascii hrem hseparator)
      (List.append_nil _).symm (scanParts_rem hblank hne hrem)
      kept_casedWord rfl

/-- **Respacing loses and invents nothing.** The characters of a line that are no blanks stay as they are if the
letter case is kept. Those of a plain line stay up to letter case if it is not kept, and in both cases its strings and
what stands behind the marks of its remarks are copied as they stand, but for blanks at the end of the line. -/
theorem respace_faithful (hline : '\n' ∉ line) :
    unspaced (respace true line) = unspaced line ∧
    (IsAscii line → Text.upper (unspaced (respace false line)) = Text.upper (unspaced line) ∧
      ∀ keepCase pre middle post, line = pre ++ middle ++ post →
        (StringAt pre middle post → Copied keepCase line pre middle post) ∧
        (OpensRemark pre → post = [] → Copied keepCase line pre middle post)) := by
  have hsame : kept true (respace true line) = kept true line := kept_respace hline
  refine ⟨hsame, fun hascii => ?_⟩
  have hupper : kept false (respace false line) = kept false line := kept_respace hline
  refine ⟨hupper, ?_⟩
  rintro keepCase pre middle post rfl
  refine ⟨fun hstring => hstring.copied hline hascii, ?_⟩
  rintro hremark rfl
  rw [List.append_nil] at hline hascii ⊢
  exact hremark.copied hline hascii

/-- A line whose string and remark have blanks of their own. -/
def spacedLine : List Char := "10 print\"a  b\":rem  x ".toList

theorem respace_faithful_spaced :
    unspaced (respace true spacedLine) = "10print\"ab\":remx".toList ∧
    Copied false spacedLine "10 print".toList "\"a  b\"".toList ":rem  x ".toList ∧
    Copied false spacedLine "10 print\"a  b\":rem".toList "  x ".toList [] := by
  have hascii : IsAscii spacedLine := by
    have hall : spacedLine.all (fun c => decide (c.toNat < 0x80)) = true := by decide +kernel
    exact fun c hc => of_decide_eq_true (List.all_eq_true.1 hall c hc)
  have hline : '\n' ∉ spacedLine := by decide +kernel
  have hstring : '"' ∉ "a  b".toList := by decide +kernel
  have hcode : OutsideStrings "10 print\"a  b\":".toList := by decide +kernel
  have hmark : Text.upper "rem".toList = ['R', 'E', 'M'] := by decide +kernel
  obtain ⟨hsame, hplain⟩ := respace_faithful hline
  obtain ⟨-, hcopied⟩ := hplain hascii
  refine ⟨hsame.trans (by decide +kernel), ?_, ?_⟩
  · exact (hcopied false _ _ _ (by decide +kernel)).1 (.closed (by decide +kernel) hstring)
  · exact (hcopied false _ _ _ (by decide +kernel)).2 (.remWord hcode (by simp) hmark) rfl

end

end MsxWorkbench.Program
