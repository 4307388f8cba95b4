import MsxWorkbench.Proofs.Program.PartGrammar
import MsxWorkbench.Proofs.Program.References
/-
# Respacing a respaced line

Respacing changes nothing in a line that it has made. What is put behind a part is a blank or a parenthesis that it may
be written close to, so each part is found again where it was put (`Begins.again`), but for runs that have been put
together and are found as one. Either way the same text comes out (`spread_spread`). The number of the line and the
blanks at its end are fixed as well (`respace_respace`).
-/
namespace MsxWorkbench.Program

open Text (isBlank isDigit capital IsAscii trimRight)

/-! ## The text behind a part -/

/-- What stands between two parts. -/
def gapBetween (previous part : List Char) : List Char :=
  if callsNext previous && part.head? == some '(' then [] else [' ']

/-- The text that parts add to a line behind the part `previous`. -/
def textBehind (previous : List Char) : List (List Char) → List Char
  | [] => []
  | part :: rest => gapBetween previous part ++ (part ++ textBehind part rest)

/-- The text that is made of `s` behind the part `previous`. -/
def spread (keepCase : Bool) (previous s : List Char) : List Char := textBehind previous (scanParts keepCase 0 s)

section
variable {keepCase : Bool} {previous s p t : List Char}

@[simp] theorem spread_nil : spread keepCase previous [] = [] := by
  simp [spread, scanParts, textBehind]

theorem spread_blank {c : Char} (hc : isBlank c = true) (s : List Char) :
    spread keepCase previous (c :: s) = spread keepCase previous s := by
  rw [spread, scanParts_blank hc, spread]

theorem spread_begins (h : Begins keepCase s p t) (hs : IsAscii s) :
    spread keepCase previous s = gapBetween previous p ++ (p ++ spread keepCase p t) := by
  rw [spread, h.scanParts_eq hs, textBehind, spread]

theorem spread_gap (q : List Char) : spread keepCase previous (gapBetween previous q ++ s) = spread keepCase previous s := by
  unfold gapBetween
  split
  · rfl
  · exact spread_blank rfl s

/-- Of the part before only matters whether a parenthesis may follow it closely. -/
theorem spread_congr {q : List Char} (h : callsNext p = callsNext q) (s : List Char) :
    spread keepCase p s = spread keepCase q s := by
  unfold spread
  cases scanParts keepCase 0 s with
  | nil => rfl
  | cons part rest => simp only [textBehind, gapBetween, h]

/-- Cuts a plain text at its blanks and parts. -/
theorem induction_begins (keepCase : Bool) {P : (s : List Char) → IsAscii s → Prop} (nil : ∀ hs, P [] hs)
    (blank : ∀ c rest hs hrest, isBlank c = true → P rest hrest → P (c :: rest) hs)
    (part : ∀ s p t hs ht, Begins keepCase s p t → P t ht → P s hs) (s : List Char) (hs : IsAscii s) : P s hs := by
  induction hn : s.length using Nat.strongRecOn generalizing s with
  | ind n ih =>
    cases s with
    | nil => exact nil hs
    | cons c rest =>
      cases hc : isBlank c with
      | true => exact blank c rest hs (hs.drop 1) hc (ih rest.length (by simp [← hn]) rest (hs.drop 1) rfl)
      | false =>
        obtain ⟨p, t, hbegins⟩ : ∃ p t, Begins keepCase (c :: rest) p t := exists_begins hc hs
        obtain ⟨front, hne, hfront⟩ := hbegins.exists_front
        have hlength : t.length < n := by
          have hpos := List.length_pos_iff.2 hne
          rw [← hn, hfront, List.length_append]
          omega
        have ht : IsAscii t := by
          rw [hfront] at hs
          exact hs.right
        exact part _ p t hs ht hbegins (ih t.length hlength t ht rfl)

theorem follows_gapBetween (hp : Begins keepCase s p t) (hs : IsAscii s) (rest : List Char) :
    Follows previous (gapBetween previous p ++ (p ++ rest)) := by
  unfold gapBetween
  split
  · rename_i hclose
    rw [Bool.and_eq_true, beq_iff_eq] at hclose
    obtain ⟨c, u, rfl, -⟩ := hp.head hs
    intro x hx
    have hparen : x = '(' := Option.some.inj (hx.symm.trans hclose.2)
    exact Or.inr ⟨hparen, hclose.1⟩
  · intro x hx
    exact Or.inl (Option.some.inj hx).symm

/-- What is made of a text starts as it should behind the part before. -/
theorem follows_spread (previous : List Char) (hs : IsAscii s) : Follows previous (spread keepCase previous s) := by
  induction s, hs using induction_begins keepCase with
  | nil => simp [Follows]
  | blank c rest _ _ hc ih => rwa [spread_blank hc]
  | part s p t hs _ hp _ =>
    rw [spread_begins hp hs]
    exact follows_gapBetween hp hs _

/-- The characters of what is made of a text are those of the text, their capitals and blanks. -/
theorem mem_spread {c : Char} (hs : IsAscii s) : ∀ {previous : List Char}, c ∈ spread keepCase previous s →
    c = ' ' ∨ ∃ d ∈ s, c = d ∨ c = capital d := by
  induction s, hs using induction_begins keepCase with
  | nil => simp
  | blank b rest _ _ hb ih =>
    intro previous hc
    rw [spread_blank hb] at hc
    rcases ih hc with h | ⟨d, hd, h⟩
    · exact Or.inl h
    · exact Or.inr ⟨d, List.mem_cons_of_mem _ hd, h⟩
  | part s p t hs _ hp ih =>
    intro previous hc
    rw [spread_begins hp hs, List.mem_append, List.mem_append] at hc
    rcases hc with hc | hc | hc
    · left
      unfold gapBetween at hc
      split at hc
      · cases hc
      · exact List.mem_singleton.1 hc
    · exact Or.inr (hp.mem hs hc)
    · rcases ih hc with h | ⟨d, hd, h⟩
      · exact Or.inl h
      · obtain ⟨front, -, rfl⟩ := hp.exists_front
        exact Or.inr ⟨d, List.mem_append_right _ hd, h⟩

theorem isAscii_spread (hs : IsAscii s) : IsAscii (spread keepCase previous s) := by
  intro c hc
  rcases mem_spread hs hc with rfl | ⟨d, hd, rfl | rfl⟩
  · decide
  · exact hs _ hd
  · exact Text.capital_lt (hs d hd)

/-- What is made of a text has a visible character behind the blank it may start with. -/
theorem spread_visible (keepCase : Bool) (previous : List Char) (hs : IsAscii s) : spread keepCase previous s = [] ∨
    ∃ gap c u, spread keepCase previous s = gap ++ c :: u ∧ isBlank c = false := by
  induction s, hs using induction_begins keepCase with
  | nil => exact Or.inl spread_nil
  | blank c rest _ _ hc ih => rwa [spread_blank hc]
  | part s p t hs _ hp _ =>
    obtain ⟨c, u, rfl, hc⟩ := hp.head hs
    exact Or.inr ⟨gapBetween previous (c :: u), c, u ++ spread keepCase (c :: u) t, spread_begins hp hs, hc⟩

/-! ## Reading it again -/

theorem Follows.trimRight {rest : List Char} (h : Follows p rest) : Follows p (trimRight rest) := by
  intro x hx
  obtain ⟨u, hu⟩ := Text.trimRight_prefix rest
  refine h x ?_
  rw [← hu]
  cases htrim : Text.trimRight rest with
  | nil =>
    rw [htrim] at hx
    cases hx
  | cons y v =>
    rw [htrim] at hx
    exact hx

theorem gapBetween_congr {q : List Char} (h : p.head? = q.head?) : gapBetween previous p = gapBetween previous q := by
  rw [gapBetween, gapBetween, h]

/-- A last part is found again without the blanks at its end. -/
theorem Begins.trimmed (h : Begins keepCase s p t) (hs : IsAscii s) :
    Begins keepCase (trimRight p) (trimRight p) [] := by
  rcases h.last hs with ⟨u, c, rfl, hc⟩ | ⟨-, hlast⟩
  · rw [Text.trimRight_visible hc]
    rcases h.again hs (fun c hc => by cases hc) (fun x hx => by cases hx) fun _ => rfl with hagain | ⟨v, hv, -⟩
    · rwa [List.append_nil] at hagain
    · cases hv
  · exact hlast

theorem spread_last (h : Begins keepCase s p t) (hs : IsAscii s) (hascii : IsAscii p) :
    spread keepCase previous (trimRight (gapBetween previous p ++ p)) = trimRight (gapBetween previous p ++ p) := by
  obtain ⟨c, u, hcons, hc⟩ := h.head hs
  have hpart : trimRight p = c :: trimRight u := by
    rw [hcons]
    exact Text.trimRight_append_cons hc [] u
  have htrim : trimRight (gapBetween previous p ++ p) = gapBetween previous p ++ trimRight p := by
    rw [hpart, hcons, Text.trimRight_append_cons hc]
  have hhead : (trimRight p).head? = p.head? := by rw [hpart, hcons]; rfl
  rw [htrim, spread_gap, spread_begins (h.trimmed hs) hascii.trimRight, spread_nil, List.append_nil,
    gapBetween_congr hhead]

/-- One step: in front of a text that is made of itself a part is found again, alone or with the run behind it. -/
theorem spread_again {rest : List Char} (h : Begins keepCase s p t) (hs : IsAscii s) (hascii : IsAscii (p ++ rest))
    (hfollows : Follows p rest) (hend : t = [] → rest = []) (hrest : spread keepCase p rest = rest) :
    spread keepCase previous (gapBetween previous p ++ (p ++ rest)) = gapBetween previous p ++ (p ++ rest) := by
  rw [spread_gap]
  rcases h.again hs hascii.right hfollows hend with hagain | ⟨u, hparen, hmerge⟩
  · rw [spread_begins hagain hascii, hrest]
  · have hcalls : callsNext p = true := by
      rcases hfollows '(' (by rw [hparen]; rfl) with hblank | ⟨-, hcalls⟩
      · cases hblank
      · exact hcalls
    obtain ⟨r, v, hr⟩ : ∃ r v, Begins keepCase rest r v := by
      have hright := hascii.right
      rw [hparen] at hright ⊢
      exact exists_begins rfl hright
    obtain ⟨hboth, hsame⟩ := hmerge r v hr
    have hgap : gapBetween p r = [] := by
      obtain ⟨heq, hne, -, -⟩ := hr.of_paren hparen
      obtain ⟨c, w, rfl⟩ := List.exists_cons_of_ne_nil hne
      rw [hparen, List.cons_append, List.cons.injEq] at heq
      simp [gapBetween, hcalls, ← heq.1]
    rw [spread_begins hr hascii.right, hgap, List.nil_append] at hrest
    have hhead : (p ++ r).head? = p.head? := by
      obtain ⟨c, w, rfl, -⟩ := h.head hs
      rfl
    rw [spread_begins hboth hascii, spread_congr hsame, gapBetween_congr hhead, List.append_assoc, hrest]

/-- **What is made of a text is made of itself**, without the blanks at its end. -/
theorem spread_spread (keepCase : Bool) (hs : IsAscii s) : ∀ previous : List Char,
    spread keepCase previous (trimRight (spread keepCase previous s)) = trimRight (spread keepCase previous s) := by
  induction s, hs using induction_begins keepCase with
  | nil =>
    intro previous
    simp only [spread_nil]
    exact spread_nil
  | blank c rest _ _ hc ih =>
    intro previous
    rw [spread_blank hc]
    exact ih previous
  | part s p t hs ht hp ih =>
    intro previous
    rw [spread_begins hp hs]
    rcases spread_visible keepCase p ht with hempty | ⟨gap, c, u, hbehind, hc⟩
    · rw [hempty, List.append_nil]
      exact spread_last hp hs (hp.isAscii hs)
    · have htrim : trimRight (gapBetween previous p ++ (p ++ spread keepCase p t)) =
          gapBetween previous p ++ (p ++ trimRight (spread keepCase p t)) := by
        rw [hbehind, Text.trimRight_append_cons hc, ← List.append_assoc, ← List.append_assoc,
          Text.trimRight_append_cons hc]
        simp only [List.append_assoc]
      rw [htrim]
      refine spread_again hp hs ((hp.isAscii hs).append (isAscii_spread ht).trimRight)
        (follows_spread p ht).trimRight ?_ (ih p)
      rintro rfl
      rw [spread_nil]
      rfl

/-! ## Joining the parts -/

/-- Nothing follows a part that ends with a blank. -/
theorem Begins.getLast?_ne (h : Begins keepCase s p t) (hs : IsAscii s) (front : List Char) :
    t = [] ∨ (front ++ p).getLast? ≠ some ' ' := by
  rcases h.last hs with ⟨v, d, rfl, hd⟩ | ⟨hnil, -⟩
  · right
    rw [← List.append_assoc, List.getLast?_concat]
    intro heq
    rw [Option.some.inj heq] at hd
    cases hd
  · exact Or.inl hnil

theorem Begins.head?_ne (h : Begins keepCase s p t) (hs : IsAscii s) : p.head? ≠ some ' ' := by
  obtain ⟨c, u, rfl, hc⟩ := h.head hs
  intro heq
  rw [Option.some.inj heq] at hc
  cases hc

/-- Joining adds the text of the parts behind a text that does not end with a blank. -/
theorem joinParts_scanParts (hs : IsAscii s) : ∀ {soFar previous : List Char}, s = [] ∨ soFar.getLast? ≠ some ' ' →
    joinParts soFar previous (scanParts keepCase 0 s) = soFar ++ spread keepCase previous s := by
  induction s, hs using induction_begins keepCase with
  | nil =>
    intro soFar previous _
    rw [spread_nil, List.append_nil]
    rfl
  | blank c rest _ _ hc ih =>
    intro soFar previous hlast
    rw [scanParts_blank hc, spread_blank hc, ih (Or.inr (hlast.resolve_left (by simp)))]
  | part s p t hs ht hp ih =>
    intro soFar previous hlast
    have hvisible : soFar.getLast? ≠ some ' ' := by
      obtain ⟨front, hne, rfl⟩ := hp.exists_front
      exact hlast.resolve_left (by simp [hne])
    have hgap : (if needsBlank soFar previous p then [' '] else []) = gapBetween previous p := by
      simp only [needsBlank, bne_iff_ne.2 hvisible, bne_iff_ne.2 (hp.head?_ne hs), Bool.true_and, gapBetween]
      cases callsNext previous && p.head? == some '(' <;> rfl
    rw [hp.scanParts_eq hs, joinParts, hgap, spread_begins hp hs, ih (hp.getLast?_ne hs _)]
    simp only [List.append_assoc]

theorem joined_begins (h : Begins keepCase s p t) (hs : IsAscii s) (ht : IsAscii t) :
    joined (scanParts keepCase 0 s) = p ++ spread keepCase p t := by
  rw [h.scanParts_eq hs, joined]
  exact joinParts_scanParts ht (h.getLast?_ne hs [])

theorem joinParts_blank (hs : IsAscii s) {soFar previous : List Char} (hlast : soFar.getLast? = some ' ') :
    joinParts soFar previous (scanParts keepCase 0 s) = soFar ++ joined (scanParts keepCase 0 s) := by
  induction s, hs using induction_begins keepCase with
  | nil => exact (List.append_nil _).symm
  | blank c rest _ _ hc ih => rwa [scanParts_blank hc]
  | part s p t hs ht hp _ =>
    have hgap : needsBlank soFar previous p = false := by simp [needsBlank, hlast]
    rw [joined_begins hp hs ht, hp.scanParts_eq hs, joinParts, hgap, if_neg Bool.false_ne_true, List.append_nil,
      joinParts_scanParts ht (hp.getLast?_ne hs _), List.append_assoc]

/-- The text of a line: none, or one with the first visible character of the line, or its capital, in front. -/
theorem joined_scanParts (keepCase : Bool) (hs : IsAscii s) :
    (Text.trimLeft s = [] ∧ joined (scanParts keepCase 0 s) = []) ∨
      ∃ c u, joined (scanParts keepCase 0 s) = c :: u ∧ isBlank c = false ∧
        (Text.trimLeft s).head?.map capital = some (capital c) ∧ spread keepCase [] s = ' ' :: c :: u := by
  induction s, hs using induction_begins keepCase with
  | nil => exact Or.inl ⟨rfl, rfl⟩
  | blank c rest _ _ hc ih => rwa [scanParts_blank hc, spread_blank hc, Text.trimLeft, List.dropWhile_cons_of_pos hc]
  | part s p t hs ht hp _ =>
    obtain ⟨c, u, hcons, hc⟩ := hp.head hs
    have htrim : Text.trimLeft s = s := by
      obtain ⟨d, v, rfl, hd⟩ := hp.first hs
      exact List.dropWhile_cons_of_neg (by simp [hd])
    refine Or.inr ⟨c, u ++ spread keepCase p t, ?_, hc, ?_, ?_⟩
    · rw [joined_begins hp hs ht, hcons, List.cons_append]
    · rw [htrim, ← hp.head_capital hs, hcons]
      rfl
    · rw [spread_begins hp hs, hcons]
      rfl

/-- The text of a line is made of itself. -/
theorem joined_joined (hs : IsAscii s) :
    joined (scanParts keepCase 0 (trimRight (joined (scanParts keepCase 0 s)))) =
      trimRight (joined (scanParts keepCase 0 s)) := by
  rcases joined_scanParts keepCase hs with ⟨-, hjoined⟩ | ⟨c, u, hjoined, hc, -, hspread⟩
  · rw [hjoined]
    rfl
  · have htrim : trimRight (c :: u) = c :: trimRight u := Text.trimRight_append_cons hc [] u
    have hascii : IsAscii (c :: trimRight u) := by
      have hbehind : IsAscii (spread keepCase [] s) := isAscii_spread hs
      rw [hspread] at hbehind
      rw [← htrim]
      exact (hbehind.drop 1).trimRight
    have hagain : spread keepCase [] (c :: trimRight u) = ' ' :: c :: trimRight u := by
      have hspreads := spread_spread keepCase hs []
      have hblank : trimRight (' ' :: c :: u) = ' ' :: c :: trimRight u := Text.trimRight_append_cons hc [' '] u
      rwa [hspread, hblank, spread_blank rfl] at hspreads
    rw [hjoined, htrim]
    rcases joined_scanParts keepCase hascii with ⟨hempty, -⟩ | ⟨d, v, hresult, -, -, hbehind⟩
    · rw [Text.trimLeft, List.dropWhile_cons_of_neg (by simp [hc])] at hempty
      cases hempty
    · rw [hresult]
      rw [hbehind] at hagain
      exact List.tail_eq_of_cons_eq hagain

/-! ## The number of a line -/

/-- What the number of a line adds in front of its text. -/
def numberText (number : List Char) : List Char := if number.isEmpty then [] else number ++ [' ']

theorem joined_lineNumberParts (number : List Char) (hs : IsAscii s) :
    joined (lineNumberParts number ++ scanParts keepCase 0 s) =
      numberText number ++ joined (scanParts keepCase 0 s) := by
  unfold lineNumberParts numberText
  split
  · rfl
  · have hgap : needsBlank number number [' '] = false := by simp [needsBlank]
    rw [List.cons_append, List.singleton_append, joined, joinParts, hgap, if_neg Bool.false_ne_true, List.append_nil]
    exact joinParts_blank hs List.getLast?_concat

theorem respace_of_splitNumber {line number code : List Char} (hvisible : Text.allBlank line = false)
    (hsplit : splitNumber line = (number, code)) (hcode : IsAscii code) :
    respace keepCase line = trimRight (numberText number ++ trimRight (joined (scanParts keepCase 0 code))) := by
  rw [respace_eq hvisible, partsOf_eq, hsplit, joined_lineNumberParts number hcode, Text.trimRight_append_trimRight]

theorem splitNumber_digits {number rest : List Char} (hne : number ≠ []) (hdigits : ∀ c ∈ number, isDigit c = true)
    (hrest : NoHead isDigit rest) (hline : '\n' ∉ rest) : splitNumber (number ++ rest) = (number, Text.trimLeft rest) := by
  have hnewline : '\n' ∉ number ++ rest := by
    rw [List.mem_append]
    rintro (hmem | hmem)
    · have hdigit := hdigits _ hmem
      revert hdigit
      decide
    · exact hline hmem
  have htrim : Text.trimLeft (number ++ rest) = number ++ rest := by
    obtain ⟨d, v, rfl⟩ := List.exists_cons_of_ne_nil hne
    exact List.dropWhile_cons_of_neg (by simp [Text.isBlank_of_isDigit (hdigits d List.mem_cons_self)])
  rw [splitNumber_eq hnewline, htrim, takeWhile_append_noHead hdigits hrest, dropWhile_append_noHead hdigits hrest,
    if_neg (by simp [hne])]

/-- The number of a line and the text behind it are found again in the new line. -/
theorem splitNumber_numberText {number text : List Char} (hne : number ≠ []) (hdigits : ∀ c ∈ number, isDigit c = true)
    (htext : text = [] ∨ ∃ c u, text = c :: u ∧ isBlank c = false) (hline : '\n' ∉ text)
    (htrim : trimRight text = text) : splitNumber (trimRight (numberText number ++ text)) = (number, text) := by
  have hnumber : numberText number = number ++ [' '] := by simp [numberText, hne]
  rw [hnumber]
  rcases htext with rfl | ⟨c, u, rfl, hc⟩
  · have hend : trimRight (number ++ [' ']) = number := by
      obtain ⟨v, d, rfl⟩ := (List.eq_nil_or_concat number).resolve_left hne
      rw [List.concat_eq_append] at hdigits ⊢
      rw [Text.trimRight_concat rfl, Text.trimRight_visible (Text.isBlank_of_isDigit (hdigits d (by simp)))]
    have hsplit : splitNumber (number ++ []) = (number, []) :=
      splitNumber_digits hne hdigits (by simp [NoHead]) List.not_mem_nil
    rw [List.append_nil] at hsplit
    rw [List.append_nil, hend, hsplit]
  · have hcode : c :: trimRight u = c :: u := (Text.trimRight_append_cons hc [] u).symm.trans htrim
    have hbehind : Text.trimLeft (' ' :: c :: u) = c :: u := by
      rw [Text.trimLeft, List.dropWhile_cons_of_pos rfl, List.dropWhile_cons_of_neg (by simp [hc])]
    rw [Text.trimRight_append_cons hc, hcode, List.append_assoc, List.singleton_append, splitNumber_digits hne hdigits,
      hbehind]
    · intro d hd
      rw [← Option.mem_some.1 hd]
      decide
    · rw [List.mem_cons]
      rintro (hblank | hmem)
      · cases hblank
      · exact hline hmem

theorem splitNumber_cases {line : List Char} (hline : '\n' ∉ line) :
    (splitNumber line = ([], line) ∧ NoHead isDigit (Text.trimLeft line)) ∨
      ∃ number code, splitNumber line = (number, code) ∧ number ≠ [] ∧ (∀ c ∈ number, isDigit c = true) ∧
        ∀ c ∈ code, c ∈ line := by
  cases hempty : ((Text.trimLeft line).takeWhile isDigit).isEmpty with
  | true =>
    left
    refine ⟨by rw [splitNumber_eq hline, if_pos hempty], ?_⟩
    intro c hc
    by_contra hdigit
    obtain ⟨rest, hrest⟩ := List.head?_eq_some_iff.1 hc
    rw [hrest, List.takeWhile_cons_of_pos (by simpa using hdigit)] at hempty
    cases hempty
  | false =>
    right
    obtain ⟨lead, gap, heq, -, -, hdigits⟩ := exists_splitNumber hline
    refine ⟨(splitNumber line).1, (splitNumber line).2, rfl, ?_, hdigits, ?_⟩
    · rw [splitNumber_eq hline, hempty, if_neg Bool.false_ne_true]
      exact List.isEmpty_eq_false_iff.1 hempty
    · intro c hc
      rw [heq]
      simp [hc]

/-! ## The whole line -/

/-- A line of a number and a text that is made of itself is left as it is. -/
theorem respace_fixed {number text : List Char} (htext : IsAscii text)
    (hfixed : joined (scanParts keepCase 0 text) = text) (htrim : trimRight text = text)
    (hsplit : splitNumber (trimRight (numberText number ++ text)) = (number, text)) :
    respace keepCase (trimRight (numberText number ++ text)) = trimRight (numberText number ++ text) := by
  cases hvisible : Text.allBlank (trimRight (numberText number ++ text)) with
  | true => rw [respace, if_pos hvisible]
  | false => rw [respace_of_splitNumber hvisible hsplit htext, hfixed, htrim]

theorem isAscii_joined (hs : IsAscii s) : IsAscii (joined (scanParts keepCase 0 s)) := by
  intro c hc
  rcases mem_joined hc with rfl | hc
  · decide
  · exact (mem_scanParts hc).elim (hs c) (Text.isAscii_upper hs c)

theorem newline_notMem_joined (hline : '\n' ∉ s) : '\n' ∉ trimRight (joined (scanParts keepCase 0 s)) := by
  intro hmem
  rcases mem_joined (Text.mem_of_mem_trimRight hmem) with hblank | hmem
  · cases hblank
  · exact (mem_scanParts hmem).elim hline fun h => hline (Text.mem_of_mem_upper h rfl)

/-- The text of a line without a number is not taken for one with a number. -/
theorem splitNumber_joined (hline : '\n' ∉ s) (hs : IsAscii s) (hhead : NoHead isDigit (Text.trimLeft s)) :
    splitNumber (trimRight (numberText [] ++ trimRight (joined (scanParts keepCase 0 s)))) =
      ([], trimRight (joined (scanParts keepCase 0 s))) := by
  have hnone : ∀ text : List Char, trimRight (numberText [] ++ trimRight text) = trimRight text :=
    fun text => Text.trimRight_trimRight text
  rw [hnone, splitNumber_eq (newline_notMem_joined hline), if_pos]
  rcases joined_scanParts keepCase hs with ⟨-, hjoined⟩ | ⟨c, u, hjoined, hc, hcapital, -⟩
  · rw [hjoined]
    rfl
  · have htrim : trimRight (c :: u) = c :: trimRight u := Text.trimRight_append_cons hc [] u
    have hdigit : isDigit c = false := by
      obtain ⟨d, hd, heq⟩ := Option.map_eq_some_iff.1 hcapital
      have hascii : c.toNat < 0x80 := isAscii_joined hs c (by rw [hjoined]; exact List.mem_cons_self)
      have hmem : d ∈ s := (List.dropWhile_sublist isBlank).subset (List.mem_of_head? hd)
      rw [← Text.isDigit_capital hascii, ← heq, Text.isDigit_capital (hs d hmem), hhead d hd]
    rw [hjoined, htrim, Text.trimLeft, List.dropWhile_cons_of_neg (by simp [hc]),
      List.takeWhile_cons_of_neg (by simp [hdigit])]
    rfl

/-- **Respacing a respaced plain line changes nothing.** -/
theorem respace_respace {line : List Char} (hline : '\n' ∉ line) (hascii : IsAscii line) :
    respace keepCase (respace keepCase line) = respace keepCase line := by
  cases hvisible : Text.allBlank line with
  | true =>
    have hsame : respace keepCase line = line := by rw [respace, if_pos hvisible]
    rw [hsame, hsame]
  | false =>
    -- a text that is made of itself, with the number of the line before it or without one
    rcases splitNumber_cases hline with ⟨hsplit, hhead⟩ | ⟨number, code, hsplit, hne, hdigits, hcode⟩
    · rw [respace_of_splitNumber hvisible hsplit hascii]
      exact respace_fixed (isAscii_joined hascii).trimRight (joined_joined hascii) (Text.trimRight_trimRight _)
        (splitNumber_joined hline hascii hhead)
    · have hascii : IsAscii code := fun c hc => hascii c (hcode c hc)
      have hline : '\n' ∉ code := fun hmem => hline (hcode _ hmem)
      rw [respace_of_splitNumber hvisible hsplit hascii]
      refine respace_fixed (isAscii_joined hascii).trimRight (joined_joined hascii) (Text.trimRight_trimRight _) ?_
      refine splitNumber_numberText hne hdigits ?_ (newline_notMem_joined hline) (Text.trimRight_trimRight _)
      rcases joined_scanParts keepCase hascii with ⟨-, hjoined⟩ | ⟨c, u, hjoined, hc, -, -⟩
      · exact Or.inl (by rw [hjoined]; rfl)
      · exact Or.inr ⟨c, trimRight u, by rw [hjoined]; exact Text.trimRight_append_cons hc [] u, hc⟩

/-- A line with two runs that are put together, a string and a remark with blanks of their own. -/
def calledLine : List Char := "10print sin (x)+a( (2)):?\"a  b\":rem  c ".toList

theorem respace_respace_called : '\n' ∉ calledLine ∧ IsAscii calledLine ∧
    ∀ keepCase, respace keepCase (respace keepCase calledLine) = respace keepCase calledLine := by
  have hascii : IsAscii calledLine := by
    have hall : calledLine.all (fun c => decide (c.toNat < 0x80)) = true := by decide +kernel
    exact fun c hc => of_decide_eq_true (List.all_eq_true.1 hall c hc)
  have hline : '\n' ∉ calledLine := by decide +kernel
  exact ⟨hline, hascii, fun _ => respace_respace hline hascii⟩

end

end MsxWorkbench.Program
