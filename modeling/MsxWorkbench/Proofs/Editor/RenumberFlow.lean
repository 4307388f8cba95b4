import Mathlib.Data.Bool.AllAny
import MsxWorkbench.Proofs.Editor.Renumber
/-
# Renumbering keeps the flow of a program

An analysis of the renumbered program finds the jumps and variables that it found before, on lines with
the new numbers (`renumber_keeps_analysis`). Without the store this needs references of at most 4300
digits: one that is longer stops the renumbering, though an analysis may never read it
(`renumber_long_reference`).
-/
namespace MsxWorkbench.Editor

open Program Settings

/-! ## New numbers of lines -/

section
variable {n : Numbering} {numbers : List Nat}

/-- The line at a position gets the number of that position. -/
theorem target_getElem (hnodup : numbers.Nodup) {i : Nat} (hi : i < numbers.length) :
    n.target numbers numbers[i] = (n.number i).toNat := by
  rw [Numbering.target, if_pos (List.getElem_mem hi), hnodup.idxOf_getElem i hi]

/-- Different lines get different numbers. -/
theorem target_injective (hstart : 0 ≤ n.start) (hincrement : 1 ≤ n.increment) :
    ∀ a ∈ numbers, ∀ b ∈ numbers, n.target numbers a = n.target numbers b → a = b := by
  intro a ha b hb h
  rw [Numbering.target, if_pos ha, Numbering.target, if_pos hb] at h
  have hnumber : n.number (numbers.idxOf a) = n.number (numbers.idxOf b) := by
    have h₁ := number_nonneg hstart hincrement (numbers.idxOf a)
    have h₂ := number_nonneg hstart hincrement (numbers.idxOf b)
    omega
  have heq : numbers.idxOf a = numbers.idxOf b := number_injective hincrement hnumber
  have h₁ := List.getElem_idxOf (List.idxOf_lt_length_iff.2 ha)
  have h₂ := List.getElem_idxOf (List.idxOf_lt_length_iff.2 hb)
  rw [← h₁, ← h₂]
  simp only [heq]

variable (hnonneg : ∀ i, 0 ≤ n.number i)
include hnonneg

theorem isNumber_newDigits : ∀ d, IsNumber d → IsNumber (newDigits n numbers d) := by
  intro d hd
  rw [newDigits]
  split
  · exact isNumber_toString (hnonneg _)
  · exact hd

/-- The digits of a reference are changed as its value is. -/
theorem readDigits_newDigits (hw : Writable n numbers.length) {d : List Char} {v : Nat}
    (h : Text.readDigits d = .ok v) : Text.readDigits (newDigits n numbers d) = .ok (n.target numbers v) := by
  have hv : Text.digitsValue d = v := by
    rw [Text.readDigits] at h
    split at h
    · cases h
    · exact Except.ok.inj h
  rw [newDigits, Numbering.target, hv]
  split
  · rename_i hmem
    exact Text.readDigits_toString (hnonneg _) (hw _ (List.idxOf_lt_length_iff.2 hmem))
  · exact h

end

/-! ## The renumbered text -/

/-- What an analysis reads from the renumbered line at a position. -/
def newFacts (n : Numbering) (numbers : List Nat) (line : List Char × List Char) (i : Nat) : LineFacts :=
  ⟨(toString (n.number i)).toList, (jumpsOf (codeOf line.2)).map fun j => (j.1, newDigits n numbers j.2),
    variablesOf (codeOf line.2)⟩

section
variable {n : Numbering} {text : List Char} (hnonneg : ∀ i, 0 ≤ n.number i)
include hnonneg

theorem filterMap_newRows : (newRows (newDigits n (lineNumbers text)) n text).filterMap lineFacts? =
    (numbered text).zipIdx.map fun (line, i) => newFacts n (lineNumbers text) line i := by
  rw [newRows, List.filterMap_map, ← List.filterMap_eq_map]
  refine List.filterMap_congr fun ⟨line, i⟩ _ => ?_
  exact lineFacts?_changed (isNumber_newDigits hnonneg) (isNumber_toString (hnonneg i)) line.2

theorem addText_newRows (h : Text.OnlyFeeds text) (a : Analysis) :
    a.addText (Text.unrows (newRows (newDigits n (lineNumbers text)) n text)) =
      a.addAll ((numbered text).zipIdx.map fun (line, i) => newFacts n (lineNumbers text) line i) := by
  have hplain := plain_newDigits n (lineNumbers text)
  rw [Analysis.addText_eq (onlyFeeds_newRows hplain h), Text.filterMap_rows_unrows rfl (newline_notMem_newRows hplain),
    filterMap_newRows hnonneg]

/-- Each line of the renumbered program has the facts that it had, with the numbers changed. -/
theorem factsRename_newFacts (hnodup : (lineNumbers text).Nodup) (hw : Writable n (lineNumbers text).length) :
    List.Forall₂ (Analysis.FactsRename (n.target (lineNumbers text)) (lineNumbers text)
        (newDigits n (lineNumbers text)))
      ((numbered text).map factsOf)
      ((numbered text).zipIdx.map fun (line, i) => newFacts n (lineNumbers text) line i) := by
  rw [List.forall₂_iff_get]
  refine ⟨by simp, fun i h₁ h₂ => ?_⟩
  rw [List.length_map] at h₁
  have hi : i < (lineNumbers text).length := by rwa [lineNumbers, List.length_map]
  simp only [List.get_eq_getElem, List.getElem_map, List.getElem_zipIdx, Nat.zero_add]
  refine ⟨fun m hm => ?_, fun j _ v hv => readDigits_newDigits hnonneg hw hv, rfl, rfl⟩
  have hvalue : m = (lineNumbers text)[i] := by
    simp only [lineNumbers, List.getElem_map]
    rw [Text.readDigits] at hm
    split at hm
    · cases hm
    · exact (Except.ok.inj hm).symm
  rw [hvalue, target_getElem hnodup hi]
  exact ⟨List.getElem_mem hi, Text.readDigits_toString (hnonneg i) (hw i hi)⟩

end

/-! ## The flow is kept -/

/-- A program that was analysed, and whose numbers fit into the store, is renumbered. -/
theorem renumberable_of_analysis {s : State} {n : Numbering} {a : Analysis} (hall : AllNumbered s.buffer.text)
    (hnodup : (lineNumbers s.buffer.text).Nodup) (hold : ∀ m ∈ lineNumbers s.buffer.text, m < 2 ^ 63)
    (hnumbering : s.numbering = .ok n) (hnonneg : ∀ i, 0 ≤ n.number i)
    (hnew : ∀ i < (lineNumbers s.buffer.text).length, n.number i < 2 ^ 63)
    (hshort : s.connected = false → ∀ d ∈ references s.buffer.text, d.length ≤ Text.mostDigits)
    (ha : ({} : Analysis).addAll ((numbered s.buffer.text).map factsOf) = (a, none)) : Renumberable s n := by
  have hlength : (lineNumbers s.buffer.text).length = (numbered s.buffer.text).length := List.length_map _
  refine ⟨hnumbering, hall, fun line hline => ?_, fun i hi => ?_, fun _ => ⟨hnodup, hold, fun i hi => ?_⟩, hshort⟩
  · -- the analysis has read the number of the line
    obtain ⟨m, hm⟩ := Analysis.readDigits_of_addAll ha (factsOf line) (List.mem_map_of_mem hline)
    rw [Text.readDigits] at hm
    split at hm
    · cases hm
    · rename_i hlen
      exact Nat.le_of_not_lt hlen
  · exact Text.natAbs_lt_of_lt (hnonneg i) (hnew i (hlength ▸ hi))
  · exact fitsCell_of_lt (hnonneg i) (hnew i (hlength ▸ hi))

/-- With ASCII digits only, the store in use makes no difference to references. -/
theorem newDigits_of_ascii {s : State} (n : Numbering)
    (hascii : ∀ c ∈ s.buffer.text, Text.isDigit c = true → c.isDigit = true) :
    ∀ d ∈ references s.buffer.text, s.newDigits n d = newDigits n (lineNumbers s.buffer.text) d := by
  intro d hd
  obtain ⟨line, hline, hd⟩ := List.mem_flatMap.1 hd
  obtain ⟨word, hw, hd⟩ := List.mem_flatMap.1 hd
  obtain ⟨hnumber, hmem⟩ := mem_referenceNumbers hw hd
  have hall : d.all Char.isDigit = true := List.all_eq_true.2 fun c hc =>
    hascii c ((mem_of_mem_numbered hline).2.2 c (hmem c hc)).1 (hnumber.2 c hc)
  rw [State.newDigits, if_neg fun h => h.2 hall]

/-- Renumbering changes the jumps and variables that an analysis finds by the new numbers and not
otherwise. -/
theorem renumber_keeps_analysis {s : State} {n : Numbering} {a : Analysis}
    (hfeeds : Text.OnlyFeeds s.buffer.text)
    (hascii : ∀ c ∈ s.buffer.text, Text.isDigit c = true → c.isDigit = true)
    (hall : AllNumbered s.buffer.text) (hnodup : (lineNumbers s.buffer.text).Nodup)
    (hold : ∀ m ∈ lineNumbers s.buffer.text, m < 2 ^ 63) (hnumbering : s.numbering = .ok n)
    (hstart : 0 ≤ n.start) (hincrement : 1 ≤ n.increment)
    (hnew : ∀ i < (lineNumbers s.buffer.text).length, n.number i < 2 ^ 63)
    (hshort : s.connected = false → ∀ d ∈ references s.buffer.text, d.length ≤ Text.mostDigits)
    (ha : ({} : Analysis).addText s.buffer.text = (a, none)) :
    ∃ b, ({} : Analysis).addText (renumber.runOn s).2.buffer.text = (b, none) ∧
      b.flow = a.flow.map (Jump.rename (n.target (lineNumbers s.buffer.text))) ∧
      b.vars = a.vars.map (Variable.rename (n.target (lineNumbers s.buffer.text))) := by
  have hnonneg := number_nonneg hstart hincrement
  have hwritable : Writable n (lineNumbers s.buffer.text).length := fun i hi =>
    Text.natAbs_lt_of_lt (hnonneg i) (hnew i hi)
  rw [Analysis.addText_eq hfeeds, filterMap_lineFacts?] at ha
  have hrenumberable := renumberable_of_analysis hall hnodup hold hnumbering hnonneg hnew hshort ha
  have hrenames : Analysis.Renames (n.target (lineNumbers s.buffer.text)) (lineNumbers s.buffer.text) {} {} :=
    ⟨rfl, rfl, fun v hv => absurd hv List.not_mem_nil⟩
  obtain ⟨b, hb, hab⟩ := Analysis.addAll_renames (target_injective hstart hincrement)
    (factsRename_newFacts hnonneg hnodup hwritable) hrenames ha
  refine ⟨b, ?_, hab.flow, hab.vars⟩
  by_cases hempty : s.program = []
  · -- a blank text has no numbered line and stays as it is
    have hnone : numbered s.buffer.text = [] := by
      rw [← numbered_program, hempty]
      rfl
    rw [hnone] at hb
    rw [renumber_blank hempty, Analysis.addText_eq hfeeds, filterMap_lineFacts?, hnone]
    exact hb
  · rw [hrenumberable.text_renumber hempty (plain_newDigits n _) (newDigits_of_ascii n hascii),
      addText_newRows hnonneg hfeeds, hb]

/-- The jump to a line that comes before its number's turn, and the variable in it, follow the lines. -/
theorem renumber_keeps_analysis_backward :
    ∃ b, ({} : Analysis).addText (renumber.runOn (editorOn "7 A=1\n5 GOTO 7".toList true)).2.buffer.text =
        (b, none) ∧
      b.flow = [⟨20, 10, .goto⟩] ∧ b.vars = [⟨['A'], .single, [10], 1, false⟩] :=
  renumber_keeps_analysis (n := {})
    (a := ⟨[⟨['A'], .single, [7], 1, false⟩], [⟨5, 7, .goto⟩], []⟩)
    (List.all_iff_forall_prop.1 (by decide)) (List.all_iff_forall_prop.1 (by decide))
    (by unfold AllNumbered; decide) (by decide) (by decide) rfl
    (by decide) (by decide) (by decide) (by decide) (by decide +kernel)

/-! ## References that are too long -/

/-- A body that uses a variable and refers to the number `d`. -/
def referringBody (d : List Char) : List Char := ['A', ' '] ++ (['T', 'H', 'E', 'N'] ++ ([' '] ++ d))

/-- A line with such a body. -/
def referringTo (d : List Char) : List Char := '5' :: ' ' :: referringBody d

section
variable {d : List Char} (hd : IsNumber d)
include hd

theorem isLineBreak_of_mem_referringTo {c : Char} (hc : c ∈ referringTo d) : Text.isLineBreak c = false := by
  have hfront : ∀ c ∈ ['5', ' ', 'A', ' ', 'T', 'H', 'E', 'N', ' '], Text.isLineBreak c = false :=
    List.all_iff_forall_prop.1 (by decide)
  have hc : c ∈ ['5', ' ', 'A', ' ', 'T', 'H', 'E', 'N', ' '] ++ d := hc
  rcases List.mem_append.1 hc with hc | hc
  · exact hfront c hc
  · exact Text.isLineBreak_of_isDigit (hd.2 c hc)

theorem newline_notMem_referringTo : '\n' ∉ referringTo d := by
  intro h
  have := isLineBreak_of_mem_referringTo hd h
  revert this
  decide

theorem allNumbered_referringTo : AllNumbered (referringTo d) := by
  intro row hrow _
  rw [Text.rows_of_notMem (newline_notMem_referringTo hd), List.mem_singleton] at hrow
  rw [hrow]
  rfl

theorem numberAndBody?_referringTo : numberAndBody? (referringTo d) = some (['5'], referringBody d) := by
  have htrim : Text.trimRight (referringBody d) = referringBody d := by
    have hlast := Text.isBlank_of_isDigit (hd.2 _ (List.getLast_mem hd.1))
    have hbody : referringBody d =
        (['A', ' '] ++ (['T', 'H', 'E', 'N'] ++ ([' '] ++ d.dropLast))) ++ [d.getLast hd.1] := by
      rw [referringBody]
      simp only [List.append_assoc, List.dropLast_concat_getLast]
    rw [hbody]
    exact Text.trimRight_visible hlast _
  have hspan : spanLineNumber? (referringTo d) = some (['5'], ' ' :: referringBody d) := rfl
  have hbody : Text.trim (' ' :: referringBody d) = Text.trimRight (referringBody d) := rfl
  rw [numberAndBody?, hspan, Option.map_some]
  simp only [hbody, htrim]

theorem numbered_referringTo : numbered (referringTo d) = [(['5'], referringBody d)] := by
  rw [numbered, Text.rows_of_notMem (newline_notMem_referringTo hd),
    List.filterMap_cons_some (numberAndBody?_referringTo hd), List.filterMap_nil]

theorem mem_references_referringTo : d ∈ references (referringTo d) := by
  have hword : ['T', 'H', 'E', 'N'] ∈ referenceWords := by decide
  have hrefers : Refers ['T', 'H', 'E', 'N'] ['T', 'H', 'E', 'N'] [' '] [d] (d ++ []) [] :=
    ⟨⟨by decide, by decide, List.forall_mem_singleton.2 (by decide)⟩, .mk hd .nil, not_goesOn fun c hc => nomatch hc⟩
  have hread := hrefers.referenceNumbers_eq hword
  rw [List.append_nil, List.append_nil, referenceNumbers_nil, List.append_nil] at hread
  have hline : (['5'], referringBody d) ∈ numbered (referringTo d) := by
    rw [numbered_referringTo hd]
    exact List.mem_singleton_self _
  refine mem_references hline hword ?_
  -- the reference starts behind a letter and a blank
  change d ∈ referenceNumbers _ ('A' :: ' ' :: (['T', 'H', 'E', 'N'] ++ ([' '] ++ d)))
  rw [referenceNumbers_cons rfl, referenceNumbers_cons (reference?_of_not_latin hword (by decide) _), hread]
  exact List.mem_singleton_self _

/-- Such a line is not renumbered without the store if the number is too long. -/
theorem renumber_referringTo (hlong : Text.mostDigits < d.length) :
    (renumber.runOn (editorOn (referringTo d) false)).2.buffer.text = referringTo d := by
  have hshort : ∀ line ∈ numbered (referringTo d), line.1.length ≤ Text.mostDigits := by
    rw [numbered_referringTo hd]
    intro line hline
    rw [List.mem_singleton.1 hline]
    exact Nat.succ_le_of_lt (by decide)
  have hwritable : Writable {} (numbered (referringTo d)).length := fun i hi => by
    rw [numbered_referringTo hd, List.length_singleton, Nat.lt_one_iff] at hi
    rw [hi]
    exact Text.natAbs_lt_of_lt (by decide) (by decide)
  obtain ⟨e, he⟩ := renumber_stops (s := editorOn (referringTo d) false) (n := {}) rfl
    (allNumbered_referringTo hd) hshort hwritable rfl (mem_references_referringTo hd) hlong
  rw [he]
  rfl

end

/-- With a reference to a number of 4301 digits and without the store, the line is analysed and keeps its
number, which should become 10. -/
theorem renumber_long_reference :
    let d := List.replicate 4301 '1'
    Text.OnlyFeeds (referringTo d) ∧ (∀ c ∈ d, c.isDigit = true) ∧ AllNumbered (referringTo d) ∧
      lineNumbers (referringTo d) = [5] ∧ (editorOn (referringTo d) false).numbering = .ok {} ∧
      ∃ a, ({} : Analysis).addText (referringTo d) = (a, none) ∧
        ¬ ∃ b, ({} : Analysis).addText (renumber.runOn (editorOn (referringTo d) false)).2.buffer.text = (b, none) ∧
          b.vars = a.vars.map (Variable.rename (Numbering.target {} [5])) := by
  intro d
  have hascii : ∀ c ∈ d, c.isDigit = true := by
    intro c hc
    rw [List.eq_of_mem_replicate hc]
    rfl
  have hd : IsNumber d := by
    refine ⟨List.ne_nil_of_length_pos ?_, fun c hc => Text.isDigit_of_ascii (hascii c hc)⟩
    rw [List.length_replicate]
    decide
  have hfound : ({} : Analysis).addText (referringTo d) =
      (⟨[⟨['A'], .single, [5], 1, false⟩], [], []⟩, none) := by decide +kernel
  refine ⟨fun c hc hbreak => ?_, hascii, allNumbered_referringTo hd, ?_, rfl, _, hfound, ?_⟩
  · rw [isLineBreak_of_mem_referringTo hd hc] at hbreak
    cases hbreak
  · rw [lineNumbers, numbered_referringTo hd]
    rfl
  · rintro ⟨b, hb, hvars⟩
    rw [renumber_referringTo hd (by rw [List.length_replicate]; decide), hfound, Prod.mk.injEq] at hb
    rw [← hb.1] at hvars
    revert hvars
    decide

end MsxWorkbench.Editor
