import MsxWorkbench.Proofs.Editor.RenumberRuns
/-
# After a renumbering

A renumbered program is read with its new numbers (`Renumbered.read_again`). So another renumbering leaves it as it is if
all its references are to lines (`renumber_renumber`). A reference to no line is kept with its digits, and it is to a line
afterwards just if its number is one of the new numbers (`renumber_dangling`).
-/
namespace MsxWorkbench.Editor

open Program Settings

theorem numbering_eq {s t : State} (h : t.settings = s.settings) : t.numbering = s.numbering := by
  simp only [State.numbering, State.setting, h]

theorem assigned_eq {s t : State} (hsettings : t.settings = s.settings) (htext : t.buffer.text = s.buffer.text) :
    t.assigned = s.assigned := by
  rw [State.assigned, State.assigned, numbering_eq hsettings, programLines_program, programLines_program, htext]

theorem withTable_withTable (s : State) (assigned : List (Line × Int)) :
    (s.withTable assigned).withTable assigned = s.withTable assigned := by
  cases hc : s.connected <;> simp [State.withTable, hc]

/-! ## The renumbered program -/

/-- The state `t` holds the renumbered program of `s`. -/
structure Renumbered (s t : State) (assigned : List (Line × Int)) : Prop where
  read : s.assigned = .ok assigned
  legible : Legible assigned
  writable : AllWritable assigned
  settings : t.settings = s.settings
  connected : t.connected = s.connected
  failing : s.failing = [] → t.failing = []
  text : t.buffer.text = newText s.connected assigned

section
variable {s t : State} {n : Numbering} {assigned : List (Line × Int)}

theorem legible_assigned (hnumbering : s.numbering = .ok n) (hstart : 0 ≤ n.start) (hincrement : 1 ≤ n.increment)
    (hassigned : s.assigned = .ok assigned) : Legible assigned := by
  obtain ⟨m, lines, hm, hlines, rfl⟩ := of_assigned_eq_ok hassigned
  obtain rfl : n = m := Except.ok.inj (hnumbering.symm.trans hm)
  exact legible_assign hlines (number_nonneg hstart hincrement)

theorem renumbered_written (hassigned : s.assigned = .ok assigned) (hlegible : Legible assigned)
    (hw : AllWritable assigned) :
    Renumbered s (highlight.runOn (s.written assigned)).2 assigned where
  read := hassigned
  legible := hlegible
  writable := hw
  settings := (draws_highlight.settings _).trans (content_withTable s assigned).2.2.1
  connected := (draws_highlight.connected _).trans (content_withTable s assigned).2.1
  failing hs := draws_highlight.failing ((failing_written s assigned).trans hs)
  text := text_written s assigned

/-- A renumbering leaves the text as it was, or it leaves the renumbered program. -/
theorem renumber_leaves (hnumbering : s.numbering = .ok n) (hstart : 0 ≤ n.start) (hincrement : 1 ≤ n.increment) :
    (renumber.runOn s).2.buffer = s.buffer ∨ ∃ assigned, Renumbered s (renumber.runOn s).2 assigned := by
  have hends := renumbers s
  generalize renumber.runOn s = result at hends ⊢
  cases hends with
  | blank _ => exact Or.inl rfl
  | unread _ _ => exact Or.inl rfl
  | refused _ _ _ _ _ => exact Or.inl rfl
  | @unwritten assigned _ _ _ _ _ => exact Or.inl (content_withTable s assigned).1
  | @written assigned _ hassigned _ hw =>
    exact Or.inr ⟨assigned, renumbered_written hassigned (legible_assigned hnumbering hstart hincrement hassigned) hw⟩

theorem renumbered_of_ok (hnumbering : s.numbering = .ok n) (hstart : 0 ≤ n.start) (hincrement : 1 ≤ n.increment)
    (hok : (renumber.runOn s).1 = .ok ()) (hne : s.program ≠ []) :
    ∃ assigned, Renumbered s (renumber.runOn s).2 assigned := by
  obtain ⟨assigned, hassigned, hw, hrun⟩ := of_renumber_eq_ok hok hne
  refine ⟨assigned, ?_⟩
  rw [hrun]
  exact renumbered_written hassigned (legible_assigned hnumbering hstart hincrement hassigned) hw

theorem Renumbered.read_again (h : Renumbered s t assigned) : t.assigned = .ok (renewed s.connected assigned) := by
  obtain ⟨n, lines, hnumbering, hlines, heq⟩ := of_assigned_eq_ok h.read
  rw [State.assigned, numbering_eq h.settings, hnumbering, programLines_program, h.text,
    programLines_newText h.legible s.connected h.writable, heq]
  exact congrArg Except.ok (assign_renewed s.connected n lines)

theorem Renumbered.getElem?_bodies (h : Renumbered s t assigned) {i : Nat} {body : List Char}
    (hbody : (bodies s.buffer.text)[i]? = some body) :
    (bodies t.buffer.text)[i]? = some (changeAll (newReference s.connected assigned) body) := by
  obtain ⟨n, lines, -, hlines, rfl⟩ := of_assigned_eq_ok h.read
  rw [bodies, ← body_of_programLines hlines, List.getElem?_map] at hbody
  obtain ⟨line, hline, rfl⟩ := Option.map_eq_some_iff.1 hbody
  rw [h.text, bodies_newText h.legible s.connected h.writable, List.getElem?_map, getElem?_assign, hline,
    Option.map_some, Option.map_some]

/-- The numbers of the renumbered program are the new numbers. -/
theorem Renumbered.mem_lineNumbers_iff (h : Renumbered s t assigned) (hnumbering : s.numbering = .ok n) {v : Nat} :
    v ∈ lineNumbers t.buffer.text ↔ ∃ k < (bodies s.buffer.text).length, n.number k = v := by
  obtain ⟨m, lines, hm, hlines, rfl⟩ := of_assigned_eq_ok h.read
  obtain rfl : n = m := Except.ok.inj (hnumbering.symm.trans hm)
  rw [h.text, lineNumbers_newText h.legible, length_bodies hlines, List.mem_map]
  constructor
  · rintro ⟨line, hline, rfl⟩
    obtain ⟨k, hk, hnumber⟩ := mem_assign_iff.1 hline
    exact ⟨k, (List.getElem?_eq_some_iff.1 hk).1, hnumber.trans (Int.toNat_of_nonneg (h.legible.nonneg line hline)).symm⟩
  · rintro ⟨k, hk, hnumber⟩
    refine ⟨(lines[k], n.number k), mem_assign_iff.2 ⟨k, List.getElem?_eq_getElem hk, rfl⟩, ?_⟩
    rw [hnumber, Int.toNat_natCast]

/-- Where every reference is to a line, another renumbering leaves the text as it is, whether it goes through or not. -/
theorem Renumbered.text_again (h : Renumbered s t assigned)
    (hrefs : ∀ d ∈ lineReferences assigned, newNumber? assigned (Text.digitsValue d) ≠ none) :
    (renumber.runOn t).2.buffer.text = t.buffer.text := by
  have hends := renumbers t
  generalize renumber.runOn t = result at hends ⊢
  cases hends with
  | blank _ => rfl
  | unread _ _ => rfl
  | refused _ _ _ _ _ => rfl
  | @unwritten lines _ _ _ _ _ => rw [(content_withTable t lines).1]
  | @written lines _ hlines _ _ =>
    have heq : lines = renewed s.connected assigned := Except.ok.inj (hlines.symm.trans h.read_again)
    rw [text_written, heq, h.connected, newText_renewed h.legible s.connected hrefs, h.text]

/-- And it goes through if the new numbers are small enough. -/
theorem Renumbered.writes_again (h : Renumbered s t assigned)
    (hrefs : ∀ d ∈ lineReferences assigned, newNumber? assigned (Text.digitsValue d) ≠ none) (hne : assigned ≠ [])
    (hdistinct : (assigned.map Prod.snd).Nodup) (hsmall : ∀ line ∈ assigned, fitsCell line.2 = true) :
    Writes t (renewed s.connected assigned) where
  nonblank := (assigned_eq_nil_iff h.read_again).not.1 (List.map_eq_nil_iff.not.2 hne)
  read := h.read_again
  fits _ := by
    rw [numberPairs_renewed h.legible]
    refine ⟨?_, fun p hp => ?_⟩
    · rw [List.map_map]
      exact hdistinct
    · obtain ⟨line, hline, rfl⟩ := List.mem_map.1 hp
      exact ⟨hsmall line hline, hsmall line hline⟩
  writable entry hentry := by
    obtain ⟨line, hline, rfl⟩ := List.mem_map.1 hentry
    exact h.writable line hline
  short hc := by
    rw [← h.connected, hc]
    exact length_of_mem_renewed h.legible h.writable hrefs

end

/-! ## Renumbering again -/

/-- A second run leaves the text of the first, whether that has written its new text or not. -/
theorem text_renumber_twice {s : State} (hlegible : ∀ assigned, s.assigned = .ok assigned → Legible assigned)
    (hrefs : ∀ assigned, s.assigned = .ok assigned →
      ∀ d ∈ lineReferences assigned, newNumber? assigned (Text.digitsValue d) ≠ none) :
    (renumber.runOn (renumber.runOn s).2).2.buffer.text = (renumber.runOn s).2.buffer.text := by
  have hends := renumbers s
  generalize renumber.runOn s = once at hends ⊢
  cases hends with
  | blank hnil => rw [renumber_blank hnil]
  | unread hne hassigned => rw [renumber_unread hne hassigned]
  | refused _ _ hassigned hc hno =>
    obtain ⟨refusal, hrun⟩ := exists_renumber_refused hc hassigned hno
    rw [hrun]
  | @unwritten assigned _ hne hassigned hfits herror =>
    -- the table is stored once more, and the same number is too long
    obtain ⟨hbuffer, hconnected, hsettings, -⟩ := content_withTable s assigned
    have hnext : (s.withTable assigned).assigned = .ok assigned := by
      rw [assigned_eq hsettings (by rw [hbuffer]), hassigned]
    have hstore : (s.withTable assigned).storeNumbers assigned = .ok (s.withTable assigned) :=
      storeNumbers_eq_ok_iff.2 ⟨hconnected ▸ hfits, (withTable_withTable s assigned).symm⟩
    have hprogram : (s.withTable assigned).program ≠ [] :=
      (assigned_eq_nil_iff hnext).not.1 ((assigned_eq_nil_iff hassigned).not.2 hne)
    rw [renumber_unwritten hprogram hnext hstore herror]
  | @written assigned _ hassigned _ hw =>
    exact (renumbered_written hassigned (hlegible assigned hassigned) hw).text_again (hrefs assigned hassigned)

/-- Renumbering once more with the same settings, where every reference is to a line. It leaves the text as it is. If the
first run went through, the lines are numbered from the first number on. If no part of the window fails and the new numbers
have 64 bits, the second run goes through too, and the store then keeps a table that gives every number itself. -/
theorem renumber_renumber {s : State} {n : Numbering} (hnumbering : s.numbering = .ok n) (hstart : 0 ≤ n.start)
    (hincrement : 1 ≤ n.increment)
    (hrefs : ∀ d ∈ allReferences s.buffer.text, Text.digitsValue d ∈ lineNumbers s.buffer.text) :
    let once := renumber.runOn s
    let twice := renumber.runOn once.2
    twice.2.buffer.text = once.2.buffer.text ∧
    (once.1 = .ok () → s.program ≠ [] →
      lineNumbers once.2.buffer.text =
        (List.range (bodies s.buffer.text).length).map (fun i => (n.number i).toNat) ∧
      (s.failing = [] → (∀ i < (bodies s.buffer.text).length, n.number i < 2 ^ 63) → twice.1 = .ok () ∧
        (s.connected = true → twice.2.store.renumbering =
          (lineNumbers once.2.buffer.text).map fun m : Nat => ((m : Int), (m : Int))))) := by
  dsimp only
  have hknown : ∀ assigned, s.assigned = .ok assigned →
      ∀ d ∈ lineReferences assigned, newNumber? assigned (Text.digitsValue d) ≠ none := by
    intro assigned hassigned d hd hnone
    obtain ⟨m, lines, -, hlines, rfl⟩ := of_assigned_eq_ok hassigned
    rw [lineReferences_assign hlines m] at hd
    exact (newNumber?_assign_eq_none_iff hlines m _).1 hnone (hrefs d hd)
  have hlegible : ∀ assigned, s.assigned = .ok assigned → Legible assigned :=
    fun _ => legible_assigned hnumbering hstart hincrement
  refine ⟨text_renumber_twice hlegible hknown, fun hok hne => ?_⟩
  obtain ⟨assigned, hrenumbered⟩ := renumbered_of_ok hnumbering hstart hincrement hok hne
  have hnonblank := (assigned_eq_nil_iff hrenumbered.read).not.2 hne
  have hreferences := hknown assigned hrenumbered.read
  obtain ⟨m, lines, hm, hlines, rfl⟩ := of_assigned_eq_ok hrenumbered.read
  obtain rfl : n = m := Except.ok.inj (hnumbering.symm.trans hm)
  refine ⟨?_, fun hfailing hsmall => ?_⟩
  · rw [hrenumbered.text]
    exact lineNumbers_newText_assign hlines (number_nonneg hstart hincrement) s.connected
  · have hcells : ∀ line ∈ n.assign lines, fitsCell line.2 = true := by
      refine forall_assign hlines (P := fun m => fitsCell m = true) fun i hi => ?_
      exact fitsCell_of_lt (number_nonneg hstart hincrement i) (hsmall i hi)
    have hdistinct : ((n.assign lines).map Prod.snd).Nodup := by
      rw [snd_assign]
      exact List.nodup_range.map fun i j => number_injective hincrement
    have hwrites := hrenumbered.writes_again hreferences hnonblank hdistinct hcells
    refine ⟨hwrites.result_eq (hrenumbered.failing hfailing), fun hc => ?_⟩
    have hlegible := hrenumbered.legible
    rw [hwrites.table_eq (hrenumbered.connected.trans hc), numberPairs_renewed hlegible, hrenumbered.text,
      lineNumbers_newText hlegible, List.map_map]
    refine List.map_congr_left fun line hline => ?_
    rw [Function.comp_apply, Int.toNat_of_nonneg (hlegible.nonneg line hline)]

/-- An editor on a program with a blank line, a line without number and a body that starts with a digit. -/
def mixedEditor : State := editorOn "7 GOTO 020 ,7\n\n  CLS\n20 5 END".toList true

/-- The lines of that program with their new numbers. -/
def mixedLines : List (Line × Int) :=
  [(⟨some 7, "GOTO 020 ,7".toList⟩, 10), (⟨none, "CLS".toList⟩, 20), (⟨some 20, "5 END".toList⟩, 30)]

theorem renumber_renumber_mixed :
    let once := renumber.runOn mixedEditor
    let twice := renumber.runOn once.2
    once.1 = .ok () ∧ once.2.buffer.text = "10 GOTO 30, 10\n20 CLS\n30 5 END".toList ∧
    twice.1 = .ok () ∧ twice.2.buffer.text = once.2.buffer.text ∧
    twice.2.store.renumbering = (lineNumbers once.2.buffer.text).map fun m : Nat => ((m : Int), (m : Int)) := by
  dsimp only
  have hcells : ∀ line ∈ mixedLines, fitsCell line.2 = true := by decide
  have hwrites : Writes mixedEditor mixedLines :=
    { nonblank := by decide
      read := rfl
      fits := fun _ => ⟨by decide, by decide⟩
      writable := fun line hline => natAbs_lt_of_fitsCell (hcells line hline)
      short := by simp [mixedEditor, editorOn] }
  have hok := hwrites.result_eq rfl
  have hrefs : ∀ d ∈ allReferences mixedEditor.buffer.text,
      Text.digitsValue d ∈ lineNumbers mixedEditor.buffer.text := by with_unfolding_all decide
  obtain ⟨htext, hmore⟩ := renumber_renumber (s := mixedEditor) (n := {}) rfl (by decide) (by decide) hrefs
  obtain ⟨hagain, htable⟩ := (hmore hok (by decide)).2 rfl (by decide)
  exact ⟨hok, hwrites.text_eq.trans (by with_unfolding_all decide), hagain, htext, htable rfl⟩

/-! ## References to no line -/

/-- A number in a reference, at a place in a line, that is not the number of any line. After a renumbering the same digits
stand at its place. If they are the number of a line then, it is a new number. Each new number is the number of a line if
the renumbering went through. -/
theorem renumber_dangling {s : State} {n : Numbering} (hnumbering : s.numbering = .ok n) (hstart : 0 ≤ n.start)
    (hincrement : 1 ≤ n.increment) {i j : Nat} {word body d : List Char} (hword : word ∈ referenceWords)
    (hbody : (bodies s.buffer.text)[i]? = some body) (hd : (referenceNumbers word body)[j]? = some d)
    (hdangling : Text.digitsValue d ∉ lineNumbers s.buffer.text) :
    let after := renumber.runOn s
    (∃ new, (bodies after.2.buffer.text)[i]? = some new ∧ (referenceNumbers word new)[j]? = some d) ∧
    (Text.digitsValue d ∈ lineNumbers after.2.buffer.text →
      ∃ k < (bodies s.buffer.text).length, n.number k = Text.digitsValue d) ∧
    (after.1 = .ok () → (∃ k < (bodies s.buffer.text).length, n.number k = Text.digitsValue d) →
      Text.digitsValue d ∈ lineNumbers after.2.buffer.text) := by
  dsimp only
  have hkept : ∀ assigned, Renumbered s (renumber.runOn s).2 assigned →
      ∃ new, (bodies (renumber.runOn s).2.buffer.text)[i]? = some new ∧ (referenceNumbers word new)[j]? = some d := by
    intro assigned h
    refine ⟨_, h.getElem?_bodies hbody, ?_⟩
    obtain ⟨m, lines, -, hlines, rfl⟩ := of_assigned_eq_ok h.read
    rw [referenceNumbers_changeAll (isNumber_newReference h.legible s.connected) hword, List.getElem?_map, hd,
      Option.map_some, newReference_of_none s.connected ((newNumber?_assign_eq_none_iff hlines m _).2 hdangling)]
  have hne : s.program ≠ [] := by
    intro hnil
    have hlines : programLines s.buffer.text = .ok [] := by
      rw [← programLines_program, hnil]
      rfl
    rw [List.eq_nil_of_length_eq_zero (length_bodies hlines)] at hbody
    cases hbody
  refine ⟨?_, ?_, fun hok hnew => ?_⟩
  · rcases renumber_leaves hnumbering hstart hincrement with hbuffer | ⟨assigned, h⟩
    · rw [hbuffer]
      exact ⟨body, hbody, hd⟩
    · exact hkept assigned h
  · rcases renumber_leaves hnumbering hstart hincrement with hbuffer | ⟨assigned, h⟩
    · rw [hbuffer]
      exact fun hmem => absurd hmem hdangling
    · exact (h.mem_lineNumbers_iff hnumbering).1
  · obtain ⟨assigned, h⟩ := renumbered_of_ok hnumbering hstart hincrement hok hne
    exact (h.mem_lineNumbers_iff hnumbering).2 hnew

theorem renumber_dangling_kept :
    let after := (renumber.runOn (editorOn "5 GOTO 020 , 99\n7 END".toList true)).2.buffer.text
    (∃ new, (bodies after)[0]? = some new ∧ (referenceNumbers "GOTO".toList new)[1]? = some "99".toList) ∧
    99 ∉ lineNumbers after := by
  dsimp only
  have hd : (referenceNumbers "GOTO".toList "GOTO 020 , 99".toList)[1]? = some "99".toList := by
    with_unfolding_all decide
  obtain ⟨hkept, hnew, -⟩ := renumber_dangling (s := editorOn "5 GOTO 020 , 99\n7 END".toList true) (n := {}) rfl
    (by decide) (by decide) (i := 0) (by decide) rfl hd (by decide)
  refine ⟨hkept, fun hmem => ?_⟩
  have hnone : ¬ ∃ k < 2, ({} : Numbering).number k = 99 := by decide
  exact hnone (hnew hmem)

/-- A jump to no line becomes a jump to the second line. -/
theorem renumber_dangling_redirected :
    let before := "5 GOTO 20\n7 END".toList
    let after := renumber.runOn (editorOn before true)
    20 ∉ lineNumbers before ∧ after.1 = .ok () ∧ after.2.buffer.text = "10 GOTO 20\n20 END".toList ∧
    20 ∈ lineNumbers after.2.buffer.text := by
  dsimp only
  have hwrites : Writes (editorOn "5 GOTO 20\n7 END".toList true)
      [(⟨some 5, "GOTO 20".toList⟩, 10), (⟨some 7, "END".toList⟩, 20)] :=
    { nonblank := by decide
      read := rfl
      fits := fun _ => ⟨by decide, by decide⟩
      writable := List.forall_mem_cons.2 ⟨Text.natAbs_lt_of_le (by decide),
        List.forall_mem_singleton.2 (Text.natAbs_lt_of_le (by decide))⟩
      short := by simp [editorOn] }
  have htext : (renumber.runOn (editorOn "5 GOTO 20\n7 END".toList true)).2.buffer.text =
      "10 GOTO 20\n20 END".toList := hwrites.text_eq.trans (by with_unfolding_all decide)
  refine ⟨by decide, hwrites.result_eq rfl, htext, ?_⟩
  rw [htext]
  decide

end MsxWorkbench.Editor
