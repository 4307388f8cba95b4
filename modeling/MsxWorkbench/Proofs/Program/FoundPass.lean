import MsxWorkbench.Proofs.Program.CodePass
/-
# What an analysis finds in changed code

The jumps that are found in a text are the references by GOTO and GOSUB that start a word, with the first
number of each (`Refers.scanJumps_eq`). So a pass changes the targets of the jumps by its word and nothing
else (`scanJumps_changeRefs`). Names end before a blank and numbers are no names, so a pass keeps all of
them (`scanNames_changeRefs`).
-/
namespace MsxWorkbench.Program

open Text (isBlank isDigit capital)

/-! ## Past a part of a text -/

/-- Whether a word character comes just before what follows `s`, given whether one comes before `s`. -/
def wordAfter (inWord : Bool) (s : List Char) : Bool := s.foldl (fun _ c => Text.isWord c) inWord

theorem wordAfter_append (inWord : Bool) (s t : List Char) :
    wordAfter inWord (s ++ t) = wordAfter (wordAfter inWord s) t := List.foldl_append

theorem IsNumber.wordAfter_eq {d : List Char} (h : IsNumber d) (inWord : Bool) : wordAfter inWord d = true := by
  obtain ⟨hne, hd⟩ := h
  rw [← List.dropLast_concat_getLast hne, wordAfter_append]
  exact Text.isWord_of_isDigit (hd _ (List.getLast_mem hne))

theorem MoreText.wordAfter_eq {ds : List (List Char)} {t : List Char} (h : MoreText ds t) :
    wordAfter true t = true := by
  induction h with
  | nil => rfl
  | @cons before after d ds t hb ha hd ht ih =>
    rw [show before ++ ',' :: (after ++ (d ++ t)) = (before ++ ',' :: after) ++ (d ++ t) by simp,
      wordAfter_append, wordAfter_append, hd.wordAfter_eq, ih]

theorem ListText.wordAfter_eq {numbers : List (List Char)} {t : List Char} (h : ListText numbers t)
    (inWord : Bool) : wordAfter inWord t = true := by
  obtain ⟨hd, ht⟩ := h
  rw [wordAfter_append, hd.wordAfter_eq, ht.wordAfter_eq]

theorem isLatin_gap_list {gap : List Char} {numbers : List (List Char)} {list : List Char}
    (hgap : ∀ b ∈ gap, isBlank b = true) (hlist : ListText numbers list) :
    ∀ c ∈ gap ++ list, Text.isLatin c = false := by
  intro c hc
  rcases List.mem_append.1 hc with hc | hc
  · exact Text.isLatin_of_isBlank (hgap c hc)
  · exact hlist.not_latin c hc

/-! ## Jumps -/

/-- The kind of jump that a word of references makes. -/
def jumpKind? (word : List Char) : Option JumpKind :=
  [JumpKind.goto, .gosub].find? fun kind => kind.name.toList = word

theorem jumpKind?_name (kind : JumpKind) : jumpKind? kind.name.toList = some kind := by
  cases kind <;> decide

theorem name_mem_referenceWords (kind : JumpKind) : kind.name.toList ∈ referenceWords := by
  cases kind <;> decide

/-- Before a number, blanks do what the end of a word does. -/
theorem startsWord_eq {s : List Char} (h : (s.dropWhile isBlank).takeWhile isDigit ≠ []) :
    Text.startsWord s = (s.takeWhile isBlank).isEmpty := by
  cases s with
  | nil => simp at h
  | cons c s =>
    cases hb : isBlank c with
    | true => simp [Text.startsWord, hb, Text.isWord_of_isBlank hb]
    | false =>
      rw [List.dropWhile_cons_of_neg (by simp [hb])] at h
      have hc : isDigit c = true := by
        by_contra hc
        exact h (List.takeWhile_cons_of_neg hc)
      simp [Text.startsWord, hb, Text.isWord_of_isDigit hc]

/-- A jump is a reference, read up to its first number. -/
theorem matchJumpWord?_eq (kind : JumpKind) (s : List Char) :
    matchJumpWord? kind s = (reference? kind.name.toList s).map fun r =>
      (kind, r.numbers.headD [], r.lead.length + (r.numbers.headD []).length) := by
  rw [matchJumpWord?, reference?]
  split
  · rename_i hstart
    rw [Text.startsFolded_iff (isUpper_referenceWords _ (name_mem_referenceWords kind))] at hstart
    have hlen := hstart.length_le
    rw [List.length_map] at hlen
    have hblanks := (List.takeWhile_sublist (l := s.drop kind.name.toList.length) isBlank).length_le
    rw [List.length_drop] at hblanks
    simp only [drop_length_takeWhile]
    by_cases hd : ((s.drop kind.name.toList.length).dropWhile isBlank).takeWhile isDigit = []
    · simp [hd]
    · rw [startsWord_eq hd]
      split
      · rfl
      · simp only [Option.map_some, List.headD_cons, List.length_take]
        rw [Nat.min_eq_left (by omega)]
  · rfl

theorem matchJump?_eq_none {s : List Char} (h : ∀ word ∈ referenceWords, reference? word s = none) :
    matchJump? s = none := by
  rw [matchJump?, matchJumpWord?_eq, matchJumpWord?_eq, h _ (name_mem_referenceWords .goto),
    h _ (name_mem_referenceWords .gosub)]
  rfl

theorem matchJump?_of_not_latin {c : Char} (hc : Text.isLatin c = false) (s : List Char) :
    matchJump? (c :: s) = none :=
  matchJump?_eq_none fun _ hw => reference?_of_not_latin hw hc s

section
variable {word form gap : List Char} {numbers : List (List Char)} {list rest : List Char}

theorem Refers.matchJump?_eq (hw : word ∈ referenceWords) (h : Refers word form gap numbers list rest) :
    matchJump? (form ++ (gap ++ (list ++ rest))) = (jumpKind? word).map fun kind =>
      (kind, numbers.headD [], (form ++ gap).length + (numbers.headD []).length) := by
  have hread := h.reference?_append (isUpper_referenceWords word hw)
  have hother : ∀ other ∈ referenceWords, word ≠ other →
      reference? other (form ++ (gap ++ (list ++ rest))) = none := by
    intro other ho hne
    have hpos : 0 < (form ++ (gap ++ list)).length := by
      rw [List.length_append]
      have := List.length_pos_iff.2 (form_ne_nil hw h.word)
      omega
    exact h.toLeads.reference?_inside rest hw ho h.list.not_latin (Or.inr hne) hpos
  rw [matchJump?, matchJumpWord?_eq, matchJumpWord?_eq]
  by_cases hgoto : word = JumpKind.goto.name.toList
  · subst hgoto
    rw [hread, jumpKind?_name]
    rfl
  · rw [hother _ (name_mem_referenceWords .goto) hgoto]
    by_cases hgosub : word = JumpKind.gosub.name.toList
    · subst hgosub
      rw [hread, jumpKind?_name]
      rfl
    · rw [hother _ (name_mem_referenceWords .gosub) hgosub]
      have hnone : jumpKind? word = none := by simp [jumpKind?, Ne.symm hgoto, Ne.symm hgosub]
      rw [hnone]
      rfl

end

theorem scanJumps_none {inWord : Bool} {c : Char} {s : List Char}
    (h : inWord = true ∨ matchJump? (c :: s) = none) :
    scanJumps 0 inWord (c :: s) = scanJumps 0 (Text.isWord c) s := by
  rw [scanJumps]
  rcases h with h | h
  · rw [h, if_pos rfl]
  · rw [h, ite_self]

theorem scanJumps_skip (t : List Char) : ∀ (s : List Char) (inWord : Bool),
    scanJumps s.length inWord (s ++ t) = scanJumps 0 (wordAfter inWord s) t
  | [], _ => rfl
  | c :: s, _ => by
    rw [List.length_cons, List.cons_append, scanJumps, scanJumps_skip t s]
    rfl

theorem scanJumps_not_latin (t : List Char) : ∀ {s : List Char}, (∀ c ∈ s, Text.isLatin c = false) →
    ∀ inWord, scanJumps 0 inWord (s ++ t) = scanJumps 0 (wordAfter inWord s) t
  | [], _, _ => rfl
  | c :: s, hs, _ => by
    rw [List.cons_append, scanJumps_none (Or.inr (matchJump?_of_not_latin (hs c List.mem_cons_self) _)),
      scanJumps_not_latin t fun d hd => hs d (List.mem_cons_of_mem _ hd)]
    rfl

theorem scanJumps_latin (t : List Char) : ∀ {s : List Char}, (∀ c ∈ s, Text.isLatin c = true) →
    scanJumps 0 true (s ++ t) = scanJumps 0 true t
  | [], _ => rfl
  | c :: s, hs => by
    rw [List.cons_append, scanJumps_none (Or.inl rfl), Text.isWord_of_isLatin (hs c List.mem_cons_self),
      scanJumps_latin t fun d hd => hs d (List.mem_cons_of_mem _ hd)]

section
variable {word form gap : List Char} {numbers : List (List Char)} {list rest : List Char}

/-- The jump by a reference, if it is one and no word runs into it. -/
def jumpBy (word : List Char) (numbers : List (List Char)) (inWord : Bool) : List (JumpKind × List Char) :=
  if inWord then [] else (jumpKind? word).toList.map fun kind => (kind, numbers.headD [])

theorem Refers.scanJumps_eq (hw : word ∈ referenceWords) (h : Refers word form gap numbers list rest)
    (inWord : Bool) :
    scanJumps 0 inWord (form ++ (gap ++ (list ++ rest))) =
      jumpBy word numbers inWord ++ scanJumps 0 true rest := by
  have hlatin : ∀ c ∈ form, Text.isLatin c = true := fun c hc => isLatin_of_form hw h.word hc
  have hmatch := h.matchJump?_eq hw
  obtain ⟨c, form, rfl⟩ := List.exists_cons_of_ne_nil (form_ne_nil hw h.word)
  have hc := Text.isWord_of_isLatin (hlatin c List.mem_cons_self)
  have hform : ∀ d ∈ form, Text.isLatin d = true := fun d hd => hlatin d (List.mem_cons_of_mem _ hd)
  by_cases hno : inWord = true ∨ jumpKind? word = none
  · have hjump : jumpBy word numbers inWord = [] := by
      rcases hno with hno | hno <;> simp [jumpBy, hno]
    rw [List.cons_append, scanJumps_none, hc, scanJumps_latin _ hform, ← List.append_assoc,
      scanJumps_not_latin rest (isLatin_gap_list h.blank h.list), wordAfter_append, h.list.wordAfter_eq, hjump]
    · rfl
    · rcases hno with hno | hno
      · exact Or.inl hno
      · rw [hno] at hmatch
        exact Or.inr hmatch
  · rw [not_or, Bool.not_eq_true] at hno
    obtain ⟨rfl, hkind⟩ := hno
    obtain ⟨kind, hkind⟩ := Option.ne_none_iff_exists'.1 hkind
    obtain ⟨hd, ht⟩ := h.list
    rename_i d ds t
    rw [hkind, Option.map_some, List.cons_append, List.headD_cons] at hmatch
    rw [List.cons_append, scanJumps, if_neg Bool.false_ne_true, hmatch]
    have hsize : ((c :: form) ++ gap).length + d.length - 1 = (form ++ (gap ++ d)).length := by
      simp only [List.length_append, List.length_cons]
      omega
    have htail : ∀ e ∈ t, Text.isLatin e = false := fun e he => isLatin_of_isListChar (ht.isListChar e he)
    simp only [hsize]
    rw [show form ++ (gap ++ (d ++ t ++ rest)) = (form ++ (gap ++ d)) ++ (t ++ rest) by simp,
      scanJumps_skip, scanJumps_not_latin rest htail, wordAfter_append, wordAfter_append, hd.wordAfter_eq,
      ht.wordAfter_eq]
    simp [jumpBy, hkind]

end

/-- Changes the target of a jump by a word. -/
def changeTarget (f : List Char → List Char) (word : List Char) (j : JumpKind × List Char) :
    JumpKind × List Char :=
  if j.1.name.toList = word then (j.1, f j.2) else j

theorem name_of_jumpKind? {word : List Char} {kind : JumpKind} (h : jumpKind? word = some kind) :
    kind.name.toList = word := by
  have := List.find?_some h
  simpa using this

section
variable {f : List Char → List Char} {word other : List Char} {numbers : List (List Char)}

theorem map_changeTarget_jumpBy (hne : numbers ≠ []) (inWord : Bool) :
    (jumpBy word numbers inWord).map (changeTarget f word) = jumpBy word (numbers.map f) inWord := by
  obtain ⟨d, ds, rfl⟩ := List.exists_cons_of_ne_nil hne
  cases inWord with
  | true => rfl
  | false =>
    cases hk : jumpKind? word with
    | none => simp [jumpBy, hk]
    | some kind => simp [jumpBy, hk, changeTarget, name_of_jumpKind? hk]

theorem map_changeTarget_jumpBy_other (hne : word ≠ other) (inWord : Bool) :
    (jumpBy word numbers inWord).map (changeTarget f other) = jumpBy word numbers inWord := by
  cases inWord with
  | true => rfl
  | false =>
    cases hk : jumpKind? word with
    | none => simp [jumpBy, hk]
    | some kind => simp [jumpBy, hk, changeTarget, name_of_jumpKind? hk, hne]

/-- A pass changes the targets of the jumps by its word. -/
theorem scanJumps_changeRefs (hw : word ∈ referenceWords) (hf : ∀ d, IsNumber d → IsNumber (f d))
    (s : List Char) : ∀ inWord,
    scanJumps 0 inWord (changeRefs f word s) = (scanJumps 0 inWord s).map (changeTarget f word) := by
  induction s using induction_refers referenceWords (fun _ h => h) with
  | nil =>
    intro inWord
    simp [scanJumps]
  | refers w hmem form gap numbers list rest href ih =>
    intro inWord
    rw [href.scanJumps_eq hmem, List.map_append, ← ih]
    by_cases hself : w = word
    · subst hself
      rw [href.changeRefs_eq hmem, (href.changeRefs_numbers hmem hf).scanJumps_eq hmem,
        map_changeTarget_jumpBy href.list.ne_nil]
    · rw [href.toLeads.changeRefs_other hmem hw hself href.list.not_latin, (href.changeRefs_rest hw).scanJumps_eq hmem,
        map_changeTarget_jumpBy_other hself]
  | cons c s hnone ih =>
    intro inWord
    have hnew : ∀ w ∈ referenceWords, reference? w (c :: changeRefs f word s) = none := fun w hmem =>
      reference?_changeRefs hw hmem (hnone w hmem)
    rw [changeRefs_cons (hnone word hw), scanJumps_none (Or.inr (matchJump?_eq_none hnew)),
      scanJumps_none (Or.inr (matchJump?_eq_none hnone)), ih]

end

/-! ## Names -/

/-- Characters that are no blanks. -/
def isVisible (c : Char) : Bool := !isBlank c

theorem isVisible_of_isBlank {b : Char} (hb : isBlank b = true) : isVisible b = false := by
  rw [isVisible, hb, Bool.not_true]

theorem blank_not_in_name {b : Char} (hb : isBlank b = true) : isNameChar b = false ∧ isSuffix b = false :=
  Text.forall_blank (p := fun b => isNameChar b = false ∧ isSuffix b = false) (by decide) hb

theorem isNameChar_of_isBlank {b : Char} (hb : isBlank b = true) : isNameChar b = false := (blank_not_in_name hb).1

theorem isSuffix_of_isBlank {b : Char} (hb : isBlank b = true) : isSuffix b = false := (blank_not_in_name hb).2

theorem isVisible_of_isNameChar {c : Char} (hc : isNameChar c = true) : isVisible c = true := by
  cases hb : isBlank c with
  | false => rw [isVisible, hb, Bool.not_false]
  | true => rw [isNameChar_of_isBlank hb] at hc; cases hc

theorem isVisible_of_isSuffix {c : Char} (hc : isSuffix c = true) : isVisible c = true := by
  cases hb : isBlank c with
  | false => rw [isVisible, hb, Bool.not_false]
  | true => rw [isSuffix_of_isBlank hb] at hc; cases hc

theorem matchName?_of_not_latin {c : Char} (hc : Text.isLatin c = false) (s : List Char) :
    matchName? (c :: s) = none := by
  rw [matchName?, hc, if_neg Bool.false_ne_true]

/-- A character that no name goes past. -/
structure EndsName (b : Char) : Prop where
  name : isNameChar b = false
  suffix : isSuffix b = false
  paren : b ≠ '('
  word : Text.isWord b = false

theorem EndsName.of_isBlank {b : Char} (hb : isBlank b = true) : EndsName b where
  name := isNameChar_of_isBlank hb
  suffix := isSuffix_of_isBlank hb
  paren := by rintro rfl; revert hb; decide
  word := Text.isWord_of_isBlank hb

theorem EndsName.not_latin {b : Char} (hb : EndsName b) : Text.isLatin b = false := (Bool.or_eq_false_iff.1 hb.name).1

/-- A name is looked for up to the first character that ends it. -/
theorem matchName?_append_end {b : Char} (hb : EndsName b) (c : Char) (p t : List Char) :
    matchName? (c :: (p ++ b :: t)) = matchName? (c :: p) := by
  have hparen := hb.paren
  have hstop : NoHead isNameChar (b :: t) := by
    intro d hd
    rw [List.head?_cons, Option.mem_some_iff] at hd
    rw [← hd]; exact hb.name
  rw [matchName?, matchName?, takeWhile_append_of_noHead p hstop]
  cases hd : p.dropWhile isNameChar with
  | nil =>
    have hp : ∀ c ∈ p, isNameChar c = true := List.dropWhile_eq_nil_iff.1 hd
    rw [dropWhile_append_noHead hp hstop]
    simp [hb.suffix, hparen]
  | cons d after =>
    have happ : (p ++ b :: t).dropWhile isNameChar = d :: (after ++ b :: t) := by
      rw [List.dropWhile_append, hd]
      rfl
    have hhead : (after ++ b :: t).head? = some '(' ↔ after.head? = some '(' := by
      cases after with
      | nil => simp [hparen]
      | cons e after => rfl
    simp only [happ, hhead]

/-- A name stands at the head of its text and has no blank in it. -/
theorem matchName?_prefix {s name : List Char} {suffix : Option Char} (h : matchName? s = some (name, suffix)) :
    name ++ suffix.toList <+: s ∧ ∀ c ∈ name ++ suffix.toList, isVisible c = true := by
  cases s with
  | nil => cases h
  | cons c rest =>
    rw [matchName?] at h
    split at h
    · rename_i hc
      have hvisible : ∀ d ∈ c :: rest.takeWhile isNameChar, isVisible d = true := by
        intro d hd
        rcases List.mem_cons.1 hd with rfl | hd
        · exact isVisible_of_isNameChar (by simp [isNameChar, hc])
        · exact isVisible_of_isNameChar (List.mem_takeWhile_imp hd)
      have htail : c :: rest.takeWhile isNameChar <+: c :: rest :=
        List.cons_prefix_cons.2 ⟨rfl, List.takeWhile_prefix _⟩
      have hplain : ∀ {u : List Char}, u <+: c :: rest.takeWhile isNameChar → some (u, none) = some (name, suffix) →
          name ++ suffix.toList <+: c :: rest ∧ ∀ d ∈ name ++ suffix.toList, isVisible d = true := by
        rintro u hu ⟨⟩
        rw [Option.toList_none, List.append_nil]
        exact ⟨hu.trans htail, fun d hd => hvisible d (hu.subset hd)⟩
      simp only at h
      split at h
      · exact hplain List.prefix_rfl h
      · rename_i d after hd
        split at h
        · rename_i hsuffix
          split at h
          · exact hplain List.prefix_rfl h
          · simp only [Option.some.injEq, Prod.mk.injEq] at h
            obtain ⟨rfl, rfl⟩ := h
            refine ⟨⟨after, ?_⟩, fun e he => ?_⟩
            · rw [Option.toList_some, List.append_assoc, List.singleton_append, List.cons_append, ← hd,
                List.takeWhile_append_dropWhile]
            · rcases List.mem_append.1 he with he | he
              · exact hvisible e he
              · rw [List.mem_singleton.1 he]
                exact isVisible_of_isSuffix hsuffix
        · split at h
          · split at h
            · cases h
            · exact hplain (List.cons_prefix_cons.2 ⟨rfl, List.dropLast_prefix _⟩) h
          · exact hplain List.prefix_rfl h
    · cases h

theorem matchName?_length_le {s name : List Char} {suffix : Option Char}
    (h : matchName? s = some (name, suffix)) :
    name.length + suffix.toList.length ≤ (s.takeWhile isVisible).length := by
  obtain ⟨⟨t, rfl⟩, hvisible⟩ := matchName?_prefix h
  rw [List.takeWhile_append_of_pos hvisible]
  simp only [List.length_append]
  omega

/-- The characters that are skipped behind the first of a name are visible. -/
theorem skip_le_of_found {inWord : Bool} {c : Char} {s name : List Char} {suffix : Option Char}
    (h : (if inWord then none else matchName? (c :: s)) = some (name, suffix)) :
    name.length + suffix.toList.length - 1 ≤ (s.takeWhile isVisible).length := by
  split at h
  · cases h
  · have hlength := matchName?_length_le h
    rw [List.takeWhile_cons] at hlength
    split at hlength
    · rw [List.length_cons] at hlength
      omega
    · rw [List.length_nil] at hlength
      omega

theorem scanNames_none {inWord : Bool} {c : Char} {s : List Char} (h : matchName? (c :: s) = none) :
    scanNames 0 inWord (c :: s) = scanNames 0 (Text.isWord c) s := by
  rw [scanNames, h, ite_self]

theorem scanNames_not_latin (t : List Char) : ∀ {s : List Char}, (∀ c ∈ s, Text.isLatin c = false) →
    ∀ inWord, scanNames 0 inWord (s ++ t) = scanNames 0 (wordAfter inWord s) t
  | [], _, _ => rfl
  | c :: s, hs, _ => by
    rw [List.cons_append, scanNames_none (matchName?_of_not_latin (hs c List.mem_cons_self) _),
      scanNames_not_latin t fun d hd => hs d (List.mem_cons_of_mem _ hd)]
    rfl

/-- Names before and after a character that ends them are found apart. -/
theorem scanNames_append_end {b : Char} (hb : EndsName b) (t : List Char) :
    ∀ (p : List Char) (skip : Nat) (inWord : Bool), skip ≤ p.length →
    scanNames skip inWord (p ++ b :: t) = scanNames skip inWord p ++ scanNames 0 false t
  | [], 0, inWord, _ => by
    rw [List.nil_append, scanNames_none (matchName?_of_not_latin hb.not_latin t), hb.word, scanNames, List.nil_append]
  | c :: p, skip + 1, inWord, h => by
    rw [List.cons_append, scanNames, scanNames,
      scanNames_append_end hb t p skip _ (Nat.le_of_succ_le_succ h)]
  | c :: p, 0, inWord, _ => by
    rw [List.cons_append, scanNames, scanNames, matchName?_append_end hb]
    split
    · rename_i name suffix hname
      have hlen := Nat.le_trans (skip_le_of_found hname) (List.takeWhile_sublist isVisible).length_le
      rw [scanNames_append_end hb t p _ _ hlen]
      rfl
    · rw [scanNames_append_end hb t p 0 _ (Nat.zero_le _)]

/-- A pass keeps all names, also inside a word that is being skipped. -/
theorem scanNames_changeRefs {f : List Char → List Char} {word : List Char} (hw : word ∈ referenceWords)
    (hf : ∀ d, IsNumber d → IsNumber (f d)) (s : List Char) :
    ∀ skip ≤ (s.takeWhile isVisible).length, ∀ inWord,
    scanNames skip inWord (changeRefs f word s) = scanNames skip inWord s := by
  induction s using induction_refers [word] (by simpa using hw) with
  | nil =>
    intro skip _ inWord
    rw [changeRefs_nil]
  | refers w hmem form gap numbers list rest href ih =>
    intro skip hskip inWord
    obtain rfl := List.mem_singleton.1 hmem
    have hnew := href.changeRefs_numbers hw hf
    rw [href.changeRefs_eq hw]
    obtain ⟨b, gap, rfl⟩ := List.exists_cons_of_ne_nil href.gap_ne
    have hb := href.blank b List.mem_cons_self
    have hgap : ∀ c ∈ gap, isBlank c = true := fun c hc => href.blank c (List.mem_cons_of_mem _ hc)
    have hlen : skip ≤ form.length := by
      have hform : ∀ c ∈ form, isVisible c = true := fun c hc =>
        isVisible_of_isNameChar (by simp [isNameChar, isLatin_of_form hw href.word hc])
      rwa [List.cons_append, List.takeWhile_append_of_pos hform,
        List.takeWhile_cons_of_neg (by simp [isVisible_of_isBlank hb]), List.append_nil] at hskip
    rw [List.cons_append, List.cons_append, scanNames_append_end (.of_isBlank hb) _ form skip inWord hlen,
      scanNames_append_end (.of_isBlank hb) _ form skip inWord hlen, ← List.append_assoc, ← List.append_assoc,
      scanNames_not_latin _ (isLatin_gap_list hgap hnew.list),
      scanNames_not_latin _ (isLatin_gap_list hgap href.list), wordAfter_append, wordAfter_append,
      hnew.list.wordAfter_eq, href.list.wordAfter_eq, ih 0 (Nat.zero_le _)]
  | cons c s hnone ih =>
    intro skip hskip inWord
    rw [changeRefs_cons (hnone word List.mem_cons_self)]
    cases skip with
    | succ skip =>
      have hlen : skip ≤ (s.takeWhile isVisible).length := by
        rw [List.takeWhile_cons] at hskip
        split at hskip
        · exact Nat.le_of_succ_le_succ hskip
        · cases hskip
      rw [scanNames, scanNames, ih skip hlen]
    | zero =>
      have hname : matchName? (c :: changeRefs f word s) = matchName? (c :: s) := by
        rcases changeRefs_upToBlank (f := f) hw s with heq | ⟨p, b, t, t', hb, hs, heq⟩
        · rw [heq]
        · rw [heq, hs, matchName?_append_end (.of_isBlank hb), matchName?_append_end (.of_isBlank hb)]
      rw [scanNames, scanNames, hname]
      split
      · rename_i name suffix hsome
        rw [ih _ (skip_le_of_found hsome)]
      · rw [ih 0 (Nat.zero_le _)]

/-! ## All passes -/

section
variable {f : List Char → List Char} (hf : ∀ d, IsNumber d → IsNumber (f d))
include hf

theorem codeOf_changeAll (s : List Char) : codeOf (changeAll f s) = changeAll f (codeOf s) :=
  changeAll_hom codeOf (fun w t => changeRefs f w t) (fun _ hw t => codeOf_changeRefs hw hf t) s

/-- All passes together change the target of every jump once. -/
theorem jumpsOf_changeAll (s : List Char) :
    jumpsOf (changeAll f s) = (jumpsOf s).map fun j => (j.1, f j.2) := by
  rw [jumpsOf, changeAll_hom (scanJumps 0 false) (fun w js => js.map (changeTarget f w))
    (fun w hw t => scanJumps_changeRefs hw hf t false) s]
  simp only [referenceWords, List.map_cons, List.map_nil, List.foldl_cons, List.foldl_nil, List.map_map, jumpsOf]
  refine List.map_congr_left fun j _ => ?_
  obtain ⟨kind, digits⟩ := j
  cases kind <;> simp [changeTarget, JumpKind.name]

theorem variablesOf_changeAll (s : List Char) : variablesOf (changeAll f s) = variablesOf s := by
  have h := changeAll_hom (scanNames 0 false) (fun _ names => names)
    (fun w hw t => scanNames_changeRefs hw hf t 0 (Nat.zero_le _) false) s
  rw [variablesOf, h]
  rfl

end

end MsxWorkbench.Program
