import Mathlib.Data.Bool.AllAny
import MsxWorkbench.Editor.Menu
import MsxWorkbench.Proofs.Editor.Renumber
import MsxWorkbench.Proofs.Program.Renaming
import MsxWorkbench.Proofs.Program.RespacedJumps
/-
# The jumps in the map of a program

The map of a program is made of the respaced text. The number of a line stays its number (`lineFacts?_respace`), so the
jumps that an analysis of the text itself would find are in the map, in the same order (`showMap_flow`).
-/
namespace MsxWorkbench.Program

open Text (isBlank isDigit capital IsAscii)

/-! ## The flow of an analysis -/

/-- The jumps of a line with its number. -/
def LineFacts.flow (k : LineFacts) : List Jump :=
  k.jumps.map fun j => ⟨Text.digitsValue k.digits, Text.digitsValue j.2, j.1⟩

namespace Analysis

theorem eq_of_readDigits {digits : List Char} {n : Nat} (h : Text.readDigits digits = .ok n) :
    n = Text.digitsValue digits := by
  rw [Text.readDigits] at h
  split at h
  · cases h
  · exact (Except.ok.inj h).symm

theorem flow_addVariables (line : Nat) : ∀ (vars : List (List Char × VariableType)) (a : Analysis),
    (addVariables line a vars).1.flow = a.flow
  | [], _ => rfl
  | (name, type) :: vars, a => by
    rw [addVariables]
    cases addVariable line name type a.vars with
    | ok vs => exact flow_addVariables line vars _
    | error e => rfl

theorem flow_addJumps {line : Nat} : ∀ {jumps : List (JumpKind × List Char)} {a a' : Analysis},
    addJumps line a jumps = (a', none) → a'.flow = a.flow ++ jumps.map fun j => ⟨line, Text.digitsValue j.2, j.1⟩
  | [], a, a', h => by
    obtain rfl : a = a' := congrArg Prod.fst h
    rw [List.map_nil, List.append_nil]
  | (kind, digits) :: jumps, a, a', h => by
    obtain ⟨target, hread, h⟩ := addJumps_cons_iff.1 h
    rw [flow_addJumps h, eq_of_readDigits hread, addJump, List.map_cons, List.append_assoc, List.singleton_append]

theorem flow_addFacts {k : LineFacts} {a a' : Analysis} (h : a.addFacts k = (a', none)) : a'.flow = a.flow ++ k.flow := by
  obtain ⟨number, a₁, hread, hjumps, hadd⟩ := addFacts_iff.1 h
  have hvars := flow_addVariables number k.vars a₁
  rw [hadd] at hvars
  rw [hvars, flow_addJumps hjumps, LineFacts.flow, eq_of_readDigits hread]

/-- An analysis that goes through records the jumps of all lines in order. -/
theorem flow_addAll : ∀ {ks : List LineFacts} {a a' : Analysis}, a.addAll ks = (a', none) →
    a'.flow = a.flow ++ ks.flatMap LineFacts.flow
  | [], a, a', h => by
    obtain rfl : a = a' := congrArg Prod.fst h
    rw [List.flatMap_nil, List.append_nil]
  | k :: ks, a, a', h => by
    obtain ⟨a₁, hadd, h⟩ := addAll_cons_iff.1 h
    rw [flow_addAll h, flow_addFacts hadd, List.flatMap_cons, List.append_assoc]

end Analysis

/-! ## Respaced lines -/

section
variable {keepCase : Bool} {row : List Char}

theorem jumpsOf_joined (keepCase : Bool) {code : List Char} (hs : IsAscii code) :
    (jumpsOf (codeOf code)).Sublist (jumpsOf (codeOf (joined (scanParts keepCase 0 code)))) := by
  rcases joined_scanParts keepCase hs with ⟨hblank, -⟩ | ⟨c, u, hjoined, -, -, hspread⟩
  · rw [← blind_jumpsOf_codeOf.trimLeft_eq code, hblank, codeOf_nil]
    exact List.nil_sublist _
  · have hjumps := jumps_spread keepCase hs [] false
    rwa [hspread, ← jumpsOf, ← jumpsOf, blind_jumpsOf_codeOf.cons ' ' (c :: u) rfl, ← hjoined] at hjumps

/-- The number and the jumps of a line, as respacing cuts it. -/
theorem lineFacts?_splitNumber (hline : '\n' ∉ row) : (lineFacts? row).map (fun k => (k.digits, k.jumps)) =
    if (splitNumber row).1.isEmpty then none
    else some ((splitNumber row).1, jumpsOf (codeOf (splitNumber row).2)) := by
  rw [lineFacts?, spanLineNumber?, splitNumber_eq hline]
  split
  · rfl
  · simp only [Option.map_some, factsOf, blind_jumpsOf_codeOf.trimLeft_eq]

theorem newline_notMem (hrow : ∀ c ∈ row, Text.isLineBreak c = false) : '\n' ∉ row := by
  intro hmem
  have hbreak := hrow _ hmem
  revert hbreak
  decide

/-- Respacing adds no break of lines. -/
theorem isLineBreak_of_mem_respace (hrow : ∀ c ∈ row, Text.isLineBreak c = false) {c : Char}
    (hc : c ∈ respace keepCase row) : Text.isLineBreak c = false := by
  rcases mem_respace (newline_notMem hrow) hc with rfl | hc | hc
  · decide
  · exact hrow c hc
  · by_contra hbreak
    have hblank : isBlank c = true := Text.isBlank_of_isLineBreak (by simpa using hbreak)
    exact hbreak (hrow c (Text.mem_of_mem_upper hc hblank))

/-- The number of a line is that of the respaced line, and its text stands behind it. -/
theorem splitNumber_respace (hline : '\n' ∉ row) (hs : IsAscii row) (hne : (splitNumber row).1 ≠ []) :
    splitNumber (respace keepCase row) =
      ((splitNumber row).1, Text.trimRight (joined (scanParts keepCase 0 (splitNumber row).2))) := by
  obtain ⟨lead, gap, heq, -, -, hdigits⟩ := exists_splitNumber hline
  generalize hsplit : splitNumber row = parts at *
  obtain ⟨number, code⟩ := parts
  have hcode : ∀ c ∈ code, c ∈ row := by
    intro c hc
    rw [heq]
    simp [hc]
  have hascii : IsAscii code := fun c hc => hs c (hcode c hc)
  have hvisible : Text.allBlank row = false := by
    obtain ⟨d, v, rfl⟩ := List.exists_cons_of_ne_nil hne
    rw [Text.allBlank, List.all_eq_false]
    refine ⟨d, by rw [heq]; simp, ?_⟩
    rw [Text.isBlank_of_isDigit (hdigits d List.mem_cons_self)]
    exact Bool.false_ne_true
  rw [respace_of_splitNumber hvisible hsplit hascii]
  refine splitNumber_numberText hne hdigits ?_ (newline_notMem_joined fun hmem => hline (hcode _ hmem))
    (Text.trimRight_trimRight _)
  rcases joined_scanParts keepCase hascii with ⟨-, hjoined⟩ | ⟨c, u, hjoined, hc, -⟩
  · exact Or.inl (by rw [hjoined]; rfl)
  · exact Or.inr ⟨c, Text.trimRight u, by rw [hjoined]; exact Text.trimRight_append_cons hc [] u, hc⟩

/-- **A numbered line keeps its number and loses no jump** when it is respaced. -/
theorem lineFacts?_respace (keepCase : Bool) (hs : IsAscii row) (hrow : ∀ c ∈ row, Text.isLineBreak c = false)
    {k : LineFacts} (h : lineFacts? row = some k) :
    ∃ k', lineFacts? (respace keepCase row) = some k' ∧ k'.digits = k.digits ∧ k.jumps.Sublist k'.jumps := by
  have hline : '\n' ∉ row := newline_notMem hrow
  have hagain : '\n' ∉ respace keepCase row := newline_notMem fun c hc => isLineBreak_of_mem_respace hrow hc
  have hplain := lineFacts?_splitNumber hline
  rw [h] at hplain
  split at hplain
  · cases hplain
  · rename_i hnumber
    have hne : (splitNumber row).1 ≠ [] := by simpa using hnumber
    have hspaced := lineFacts?_splitNumber hagain
    rw [splitNumber_respace hline hs hne, if_neg hnumber, blind_jumpsOf_codeOf.trimRight_eq] at hspaced
    obtain ⟨k', hk', heq⟩ := Option.map_eq_some_iff.1 hspaced
    obtain ⟨hdigits, hjumps⟩ := Prod.mk.inj (Option.some.inj hplain)
    obtain ⟨hdigits', hjumps'⟩ := Prod.mk.inj heq
    refine ⟨k', hk', hdigits'.trans hdigits.symm, ?_⟩
    rw [hjumps, hjumps']
    obtain ⟨lead, gap, heq, -⟩ := exists_splitNumber hline
    refine jumpsOf_joined keepCase fun c hc => hs c ?_
    rw [heq]
    simp [hc]

theorem LineFacts.flow_sublist {k k' : LineFacts} (hdigits : k'.digits = k.digits) (hjumps : k.jumps.Sublist k'.jumps) :
    k.flow.Sublist k'.flow := by
  rw [LineFacts.flow, LineFacts.flow, hdigits]
  exact hjumps.map _

/-- The flow of lines is part of that of the respaced lines. -/
theorem flow_respace (keepCase : Bool) : ∀ {rows : List (List Char)},
    (∀ row ∈ rows, IsAscii row ∧ ∀ c ∈ row, Text.isLineBreak c = false) →
    ((rows.filterMap lineFacts?).flatMap LineFacts.flow).Sublist
      (((rows.map (respace keepCase)).filterMap lineFacts?).flatMap LineFacts.flow)
  | [], _ => List.nil_sublist _
  | row :: rows, hrows => by
    rw [List.forall_mem_cons] at hrows
    have ih := flow_respace keepCase hrows.2
    rw [List.map_cons]
    cases hrow : lineFacts? row with
    | none =>
      rw [List.filterMap_cons_none hrow]
      refine ih.trans ?_
      cases hspaced : lineFacts? (respace keepCase row) with
      | none => rw [List.filterMap_cons_none hspaced]
      | some k =>
        rw [List.filterMap_cons_some hspaced]
        exact List.sublist_append_right _ _
    | some k =>
      obtain ⟨k', hspaced, hdigits, hjumps⟩ := lineFacts?_respace keepCase hrows.1.1 hrows.1.2 hrow
      rw [List.filterMap_cons_some hrow, List.filterMap_cons_some hspaced]
      exact (LineFacts.flow_sublist hdigits hjumps).append ih

end

/-! ## The whole text -/

section
variable {keepCase : Bool} {text : List Char}

theorem of_mem_rows (hs : IsAscii text) (hfeeds : Text.OnlyFeeds text) {row : List Char} (hrow : row ∈ Text.rows text) :
    IsAscii row ∧ ∀ c ∈ row, Text.isLineBreak c = false := by
  refine ⟨fun c hc => hs c (Text.mem_of_mem_rows hrow hc).1, fun c hc => ?_⟩
  obtain ⟨hmem, hne⟩ := Text.mem_of_mem_rows hrow hc
  by_contra hbreak
  exact hne (hfeeds c hmem (by simpa using hbreak))

theorem onlyFeeds_respaced (hs : IsAscii text) (hfeeds : Text.OnlyFeeds text) :
    Text.OnlyFeeds (Text.unrows ((Text.rows text).map (respace keepCase))) := by
  intro c hc hbreak
  rcases Text.mem_unrows hc with ⟨line, hline, hmem⟩ | hfeed
  · obtain ⟨row, hrow, rfl⟩ := List.mem_map.1 hline
    obtain ⟨-, hbreaks⟩ := of_mem_rows hs hfeeds hrow
    rw [isLineBreak_of_mem_respace hbreaks hmem] at hbreak
    cases hbreak
  · exact hfeed

theorem flow_of_addText (hfeeds : Text.OnlyFeeds text) {a : Analysis} (h : ({} : Analysis).addText text = (a, none)) :
    a.flow = ((Text.rows text).filterMap lineFacts?).flatMap LineFacts.flow := by
  rw [Analysis.addText_eq hfeeds] at h
  exact Analysis.flow_addAll h

/-- **The flow of a text is part of that of the respaced text.** -/
theorem flow_respaced (hs : IsAscii text) (hfeeds : Text.OnlyFeeds text) {plain spaced : Analysis}
    (hplain : ({} : Analysis).addText text = (plain, none))
    (hspaced : ({} : Analysis).addText (Text.unrows ((Text.rows text).map (respace keepCase))) = (spaced, none)) :
    plain.flow.Sublist spaced.flow := by
  have hlines : ∀ line ∈ (Text.rows text).map (respace keepCase), '\n' ∉ line := by
    intro line hline
    obtain ⟨row, hrow, rfl⟩ := List.mem_map.1 hline
    obtain ⟨-, hbreaks⟩ := of_mem_rows hs hfeeds hrow
    exact newline_notMem fun c hc => isLineBreak_of_mem_respace hbreaks hc
  rw [flow_of_addText hfeeds hplain, flow_of_addText (onlyFeeds_respaced hs hfeeds) hspaced,
    Text.filterMap_rows_unrows rfl hlines]
  exact flow_respace keepCase fun row hrow => of_mem_rows hs hfeeds hrow

end

/-! ## Lines that jump -/

section
variable {keepCase : Bool} {kind : JumpKind} {form gap digits number rest : List Char}

/-- A jump word is a part, whatever stands behind it. -/
theorem begins_jump (hform : form.map capital = kind.name.toList) (hs : IsAscii (form ++ rest)) :
    Begins keepCase (form ++ rest) (casedWord keepCase form) rest := by
  have hstarts : kind.name.toList <+: (form ++ rest).map capital := by
    rw [List.map_append, hform]
    exact List.prefix_append _ _
  have hword : leadingWord? (form ++ rest) = some kind.name.toList := by
    refine leadingWord?_eq_some hs (name_mem_reservedWords kind) ((Text.startsUpper_iff hs).2 hstarts) fun v hv hvstarts => ?_
    by_contra hlong
    rw [Text.startsUpper_iff hs] at hvstarts
    have hsame := (wordShape hv).jumps kind (List.prefix_of_prefix_length_le hstarts hvstarts (by omega))
    rw [hsame] at hlong
    exact hlong (Nat.le_refl _)
  have hrem : atRemWord (form ++ rest) = false := by
    rw [atRemWord, Bool.eq_false_iff, Ne, Text.startsUpper_iff hs, List.map_append, hform]
    cases kind <;> simp [JumpKind.name]
  exact .word hform hword hrem (by cases kind <;> decide)

theorem spread_blanks (hgap : ∀ b ∈ gap, isBlank b = true) (previous s : List Char) :
    spread keepCase previous (gap ++ s) = spread keepCase previous s := by
  induction gap with
  | nil => rfl
  | cons b gap ih =>
    rw [List.forall_mem_cons] at hgap
    rw [List.cons_append, spread_blank hgap.1, ih hgap.2]

theorem spread_number (hdigits : IsNumber digits) (hs : IsAscii digits) (previous : List Char) :
    spread keepCase previous digits = ' ' :: digits := by
  have hrun : Begins keepCase (digits ++ []) digits [] := by
    refine .run hdigits.1 (fun i hi => ?_) rfl
    rw [List.append_nil, List.drop_eq_getElem_cons hi]
    have hdrop := hs.drop i
    rw [List.drop_eq_getElem_cons hi] at hdrop
    exact endsRun_digit hdrop (hdigits.2 _ (List.getElem_mem hi))
  rw [List.append_nil] at hrun
  have hgap : gapBetween previous digits = [' '] := by
    obtain ⟨d, u, rfl⟩ := List.exists_cons_of_ne_nil hdigits.1
    have hd : d ≠ '(' := by
      rintro rfl
      have hparen := hdigits.2 _ List.mem_cons_self
      revert hparen
      decide
    simp [gapBetween, hd]
  rw [spread_begins hrun hs, hgap, spread_nil, List.append_nil]
  rfl

/-- A jump is put apart from the number of its line and from its target. -/
theorem respace_jump (hform : form.map capital = kind.name.toList) (hgap : ∀ b ∈ gap, isBlank b = true)
    (hnumber : IsNumber number) (hdigits : IsNumber digits) (hs : IsAscii (number ++ (form ++ (gap ++ digits))))
    (hline : '\n' ∉ form ++ (gap ++ digits)) : respace keepCase (number ++ (form ++ (gap ++ digits))) =
      number ++ ' ' :: (casedWord keepCase form ++ ' ' :: digits) := by
  have hcode : IsAscii (form ++ (gap ++ digits)) := hs.right
  have hsplit : splitNumber (number ++ (form ++ (gap ++ digits))) = (number, form ++ (gap ++ digits)) := by
    have hw := name_mem_reservedWords kind
    obtain ⟨c, u, rfl⟩ := exists_cons_of_form hw hform
    obtain ⟨hmem, hdigit, -⟩ := of_mem_form hw hform hcode.left List.mem_cons_self
    have hblank := (of_capital_mem_word hw (hcode c List.mem_cons_self) hmem).1
    rw [splitNumber_digits hnumber.1 hnumber.2 ?_ hline, Text.trimLeft, List.cons_append,
      List.dropWhile_cons_of_neg (by simp [hblank])]
    intro x hx
    rwa [← Option.mem_some.1 hx]
  have hvisible : Text.allBlank (number ++ (form ++ (gap ++ digits))) = false := by
    obtain ⟨d, v, rfl⟩ := List.exists_cons_of_ne_nil hnumber.1
    simp [Text.allBlank, Text.isBlank_of_isDigit (hnumber.2 d List.mem_cons_self)]
  have htext : joined (scanParts keepCase 0 (form ++ (gap ++ digits))) = casedWord keepCase form ++ ' ' :: digits := by
    rw [joined_begins (begins_jump hform hcode) hcode hcode.right, spread_blanks hgap, spread_number hdigits hcode.right.right]
  have htrim : ∀ front : List Char, Text.trimRight (front ++ digits) = front ++ digits := by
    intro front
    obtain ⟨v, d, hlast⟩ := (List.eq_nil_or_concat digits).resolve_left hdigits.1
    rw [List.concat_eq_append] at hlast
    have hd := Text.isBlank_of_isDigit (hdigits.2 d (by simp [hlast]))
    rw [hlast, ← List.append_assoc, Text.trimRight_visible hd]
  have hnumberText : numberText number = number ++ [' '] := by simp [numberText, hnumber.1]
  have hsame : number ++ ' ' :: (casedWord keepCase form ++ ' ' :: digits) =
      (number ++ [' '] ++ (casedWord keepCase form ++ [' '])) ++ digits := by simp
  rw [respace_of_splitNumber hvisible hsplit hcode, htext, Text.trimRight_append_trimRight, hnumberText, hsame, ← htrim]
  simp

end

end MsxWorkbench.Program

namespace MsxWorkbench.Editor

open Program Text

theorem mem_program {s : State} {c : Char} (h : c ∈ s.program) : c ∈ s.buffer.text ∨ c = '\n' := by
  have hmem : c ∈ s.buffer.text ++ ['\n'] := mem_of_mem_trim h
  simpa using hmem

theorem addText_program {s : State} (hfeeds : OnlyFeeds s.buffer.text) (a : Analysis) :
    a.addText s.program = a.addText s.buffer.text := by
  have hprogram : OnlyFeeds s.program := fun c hc hbreak => (mem_program hc).elim (fun hc => hfeeds c hc hbreak) id
  rw [Analysis.addText_eq hprogram, Analysis.addText_eq hfeeds, filterMap_lineFacts?, filterMap_lineFacts?, numbered_program]

/-- **The map misses no jump** that an analysis of the text itself finds: the flow that it shows has the flow of the text in
it, in the same order. -/
theorem showMap_flow (s : State) (hascii : IsAscii s.buffer.text) (hfeeds : OnlyFeeds s.buffer.text)
    {plain spaced : Analysis} (hplain : ({} : Analysis).addText s.buffer.text = (plain, none))
    (hspaced : ({} : Analysis).addText s.respaced = (spaced, none)) :
    plain.flow.Sublist spaced.summarize.2.flow ∧ (s.program ≠ [] → .configure ∉ s.failing →
      showMap.runOn s = (.ok (some (.ofSummary spaced.summarize.2)), s)) := by
  have hprogram : IsAscii s.program := by
    intro c hc
    rcases mem_program hc with hc | rfl
    · exact hascii c hc
    · decide
  have hbreaks : OnlyFeeds s.program := fun c hc hbreak => (mem_program hc).elim (fun hc => hfeeds c hc hbreak) id
  refine ⟨?_, fun hne hworks => ?_⟩
  · rw [← addText_program hfeeds] at hplain
    exact flow_respaced hprogram hbreaks hplain hspaced
  · have hmap : Map.ofText s.respaced = .ok (.ofSummary spaced.summarize.2) := by
      rw [Map.ofText, hspaced]
    rw [showMap, runOn_bind, runOn_get]
    simp only [isEmpty_eq_false hne, Bool.false_eq_true, if_false, hmap]
    rw [runOn_bind, runOn_call hworks]
    simp only
    rw [runOn_bind, runOn_call hworks]
    rfl

/-- An editor with a jump that only respacing shows, because its word runs into the number, and one that is shown anyway. -/
def gluedEditor : State :=
  { buffer := { text := "10GOTO20\n20GOSUB 10".toList }, gutter := { background := .null }, ruler := { background := .null } }

theorem isAscii_gluedEditor : IsAscii gluedEditor.buffer.text :=
  List.all_iff_forall_prop.1 (by decide)

theorem respace_glued (keepCase : Bool) :
    respace keepCase ("10".toList ++ ("GOTO".toList ++ ([] ++ "20".toList))) = "10 GOTO 20".toList := by
  have hten : IsNumber "10".toList := ⟨by decide, List.all_eq_true.1 (by decide)⟩
  have htwenty : IsNumber "20".toList := ⟨by decide, List.all_eq_true.1 (by decide)⟩
  have hform : "GOTO".toList.map capital = JumpKind.goto.name.toList := by decide
  rw [respace_jump hform (List.forall_mem_nil _) hten htwenty (List.all_iff_forall_prop.1 (by decide)) (by decide)]
  cases keepCase <;> decide

theorem respaced_gluedEditor : gluedEditor.respaced = "10 GOTO 20\n20 GOSUB 10".toList := by
  have hrows : rows gluedEditor.program = ["10".toList ++ ("GOTO".toList ++ ([] ++ "20".toList)),
      "20".toList ++ ("GOSUB".toList ++ ([' '] ++ "10".toList))] := by decide
  have hten : IsNumber "10".toList := ⟨by decide, List.all_eq_true.1 (by decide)⟩
  have htwenty : IsNumber "20".toList := ⟨by decide, List.all_eq_true.1 (by decide)⟩
  have hgosub : ∀ keepCase, respace keepCase ("20".toList ++ ("GOSUB".toList ++ ([' '] ++ "10".toList))) =
      "20 GOSUB 10".toList := by
    intro keepCase
    have hform : "GOSUB".toList.map capital = JumpKind.gosub.name.toList := by decide
    rw [respace_jump hform (List.forall_mem_singleton.2 rfl) htwenty hten (List.all_iff_forall_prop.1 (by decide))
      (by decide)]
    cases keepCase <;> decide
  rw [State.respaced, hrows, List.map_cons, List.map_cons, respace_glued, hgosub]
  rfl

theorem showMap_flow_glued :
    IsAscii gluedEditor.buffer.text ∧ OnlyFeeds gluedEditor.buffer.text ∧
    ({} : Analysis).addText gluedEditor.buffer.text = (⟨[], [⟨20, 10, .gosub⟩], [10]⟩, none) ∧
    ({} : Analysis).addText gluedEditor.respaced = (⟨[], [⟨10, 20, .goto⟩, ⟨20, 10, .gosub⟩], [10]⟩, none) ∧
    [(⟨20, 10, .gosub⟩ : Jump)].Sublist [⟨10, 20, .goto⟩, ⟨20, 10, .gosub⟩] ∧
    showMap.runOn gluedEditor = (.ok (some (.ofSummary
      (Analysis.summarize ⟨[], [⟨10, 20, .goto⟩, ⟨20, 10, .gosub⟩], [10]⟩).2)), gluedEditor) := by
  have hfeeds : OnlyFeeds gluedEditor.buffer.text := List.all_iff_forall_prop.1 (by decide)
  have hplain : ({} : Analysis).addText gluedEditor.buffer.text = (⟨[], [⟨20, 10, .gosub⟩], [10]⟩, none) := by
    with_unfolding_all decide
  have hspaced : ({} : Analysis).addText gluedEditor.respaced =
      (⟨[], [⟨10, 20, .goto⟩, ⟨20, 10, .gosub⟩], [10]⟩, none) := by
    rw [respaced_gluedEditor]
    with_unfolding_all decide
  obtain ⟨hflow, hmap⟩ := showMap_flow gluedEditor isAscii_gluedEditor hfeeds hplain hspaced
  exact ⟨isAscii_gluedEditor, hfeeds, hplain, hspaced, hflow, hmap (by decide) (by decide)⟩

end MsxWorkbench.Editor
