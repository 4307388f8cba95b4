import MsxWorkbench.Proofs.Editor.RenumberReferences
import MsxWorkbench.Proofs.Editor.RenumberRuns
/-
# Renumbering and text that is not code

A renumbering changes the references in strings and remarks as it does in code. A string or a remark of a line is found
again in the new line, and its characters are the same exactly if every reference in it reads the same with the new
numbers (`renumber_not_code`).
-/
namespace MsxWorkbench.Editor

open Program Settings

/-! ## The new lines -/

/-- The line at a place of the text that a renumbering has left. -/
theorem row_of_renumber {s : State} (hrun : (renumber.runOn s).1 = .ok ()) {i : Nat} {row : List Char}
    (hrow : (filledRows s.buffer.text)[i]? = some row) :
    ∃ n assigned, s.numbering = .ok n ∧ s.assigned = .ok assigned ∧
      (Text.rows (renumber.runOn s).2.buffer.text)[i]? = some ((toString (n.number i)).toList ++
        ' ' :: changeAll (newReference s.connected assigned) (Text.trim (dropNumber row))) := by
  have hbodies : ∀ {lines}, programLines s.buffer.text = .ok lines →
      lines.map Line.body = (filledRows s.buffer.text).map fun row => Text.trim (dropNumber row) :=
    fun hlines => body_of_programLines hlines
  have hne : s.program ≠ [] := by
    intro hnil
    have hlines : programLines s.buffer.text = .ok [] := by
      rw [← programLines_program, hnil]
      rfl
    have hnone := hbodies hlines
    rw [List.map_nil, eq_comm, List.map_eq_nil_iff] at hnone
    rw [hnone] at hrow
    cases hrow
  obtain ⟨assigned, hassigned, htext⟩ := text_of_renumber hrun hne
  obtain ⟨n, lines, hnumbering, hlines, rfl⟩ := of_assigned_eq_ok hassigned
  refine ⟨n, _, hnumbering, hassigned, ?_⟩
  obtain ⟨line, hline, hbody⟩ : ∃ line, lines[i]? = some line ∧ line.body = Text.trim (dropNumber row) := by
    have hget := congrArg (fun bodies => bodies[i]?) (hbodies hlines)
    simp only [List.getElem?_map, hrow, Option.map_some] at hget
    exact Option.map_eq_some_iff.1 hget
  have hnew : ((n.assign lines).map (newRow (newReference s.connected (n.assign lines))))[i]? =
      some (newRow (newReference s.connected (n.assign lines)) (line, n.number i)) := by
    rw [List.getElem?_map, Numbering.assign, List.getElem?_map, List.getElem?_zipIdx, hline, Nat.zero_add]
    rfl
  have hfeeds : ∀ new ∈ (n.assign lines).map (newRow (newReference s.connected (n.assign lines))), '\n' ∉ new := by
    intro new hmem
    obtain ⟨entry, hentry, rfl⟩ := List.mem_map.1 hmem
    obtain ⟨k, hk, -⟩ := mem_assign_iff.1 hentry
    have hbody := of_mem_bodies (body_mem_bodies hlines (List.mem_of_getElem? hk))
    exact newline_notMem_newRow (numeric_newReference _ _) hbody.1
  rw [htext, newText, Text.rows_unrows (List.ne_nil_of_mem (List.mem_of_getElem? hnew)) hfeeds, hnew, newRow, hbody]

/-! ## Strings and remarks -/

theorem quote_notMem_number (n : Int) : '"' ∉ (toString n).toList ++ [' '] := by
  rw [List.mem_append, List.mem_singleton]
  rintro (hmem | hblank)
  · rcases Text.mem_toString hmem with hdigit | hsign
    · cases hdigit
    · cases hsign
  · cases hblank

/-- A string or a remark on any line of a program that is renumbered, without the blanks at the end of the line. The new
line has a string or a remark at its place, with the references in it changed as everywhere. It has the same characters
exactly if each of these references reads the same with the new numbers of the lines. -/
theorem renumber_not_code {s : State} (hrun : (renumber.runOn s).1 = .ok ()) {i : Nat} {row pre middle post : List Char}
    (hrow : (filledRows s.buffer.text)[i]? = some row) (hplace : Text.trimRight row = pre ++ (middle ++ post))
    (hnot : NotCode pre middle post) :
    ∃ n assigned, s.numbering = .ok n ∧ s.assigned = .ok assigned ∧
      let f := newReference s.connected assigned
      let front := (toString (n.number i)).toList ++ ' ' :: changeAll f (Text.trimLeft (dropNumber pre))
      (Text.rows (renumber.runOn s).2.buffer.text)[i]? = some (front ++ (changeAll f middle ++ changeAll f post)) ∧
      NotCode front (changeAll f middle) (changeAll f post) ∧
      (changeAll f middle = middle ↔ KeepsReferences f middle) := by
  obtain ⟨n, assigned, hnumbering, hassigned, hnew⟩ := row_of_renumber hrun hrow
  have hf := numeric_newReference s.connected assigned
  have hfeeds : '\n' ∉ row := fun hc =>
    (Text.mem_of_mem_rows (List.mem_of_mem_filter (List.mem_of_getElem? hrow)) hc).2 rfl
  obtain ⟨hbody, hinside⟩ := hnot.body hfeeds hplace
  refine ⟨n, assigned, hnumbering, hassigned, ?_, ?_, changeAll_eq_self_iff hf middle⟩
  · rw [hnew, hbody, hinside.changeAll_eq]
    simp only [List.append_assoc, List.cons_append]
  · have hlater := (hinside.changed hf).prepend (quote_notMem_number (n.number i))
    rwa [List.append_assoc, List.singleton_append] at hlater

/-- An editor on a program with a reference in a string, to a line that it does not have, and one in a remark. -/
def quotingEditor : State := editorOn "5 PRINT \"GOTO 9\":REM RUN 7\n7 END".toList true

/-- The lines of that program with their new numbers. -/
def quotingLines : List (Line × Int) :=
  [(⟨some 5, "PRINT \"GOTO 9\":REM RUN 7".toList⟩, 10), (⟨some 7, "END".toList⟩, 20)]

theorem renumber_not_code_string :
    (renumber.runOn quotingEditor).1 = .ok () ∧
    (Text.rows (renumber.runOn quotingEditor).2.buffer.text)[0]? = some "10 PRINT \"GOTO 9\":REM RUN 20".toList ∧
    NotCode "10 PRINT ".toList "\"GOTO 9\"".toList ":REM RUN 20".toList ∧
    KeepsReferences (newReference true quotingLines) "\"GOTO 9\"".toList := by
  have hok : (renumber.runOn quotingEditor).1.isOk = true := by decide +kernel
  have hrun : (renumber.runOn quotingEditor).1 = .ok () := by
    cases hresult : (renumber.runOn quotingEditor).1 with
    | ok _ => rfl
    | error e =>
      rw [hresult] at hok
      cases hok
  have hcode : OutsideStrings "5 PRINT ".toList := by decide
  have hquotes : '"' ∉ "GOTO 9".toList := by decide
  have hstring : NotCode "5 PRINT ".toList "\"GOTO 9\"".toList ":REM RUN 7".toList :=
    .string (.closed hcode hquotes)
  obtain ⟨n, assigned, hnumbering, hassigned, hrow, hnot, hsame⟩ :=
    renumber_not_code hrun (i := 0) rfl (by decide) hstring
  have hn : n = {} := (Except.ok.inj hnumbering).symm
  have hlines : assigned = quotingLines := (Except.ok.inj hassigned).symm
  have hstored : quotingEditor.connected = true := rfl
  rw [hn, hlines, hstored] at hrow hnot
  rw [hlines, hstored] at hsame
  have hfront : (toString (({} : Numbering).number 0)).toList ++ ' ' :: changeAll (newReference true quotingLines)
      (Text.trimLeft (dropNumber "5 PRINT ".toList)) = "10 PRINT ".toList := by decide +kernel
  have hmiddle : changeAll (newReference true quotingLines) "\"GOTO 9\"".toList = "\"GOTO 9\"".toList := by
    decide +kernel
  have hpost : changeAll (newReference true quotingLines) ":REM RUN 7".toList = ":REM RUN 20".toList := by
    decide +kernel
  have hkept := hsame.1 hmiddle
  rw [hfront, hmiddle, hpost] at hrow hnot
  exact ⟨hrun, hrow, hnot, hkept⟩

/-- The number in a string and the number in a remark are changed. -/
theorem renumber_quoted_reference :
    let result := renumber.runOn (editorOn "5 PRINT \"GOTO 5\":REM GOTO 5".toList true)
    result.1.isOk = true ∧ result.2.buffer.text = "10 PRINT \"GOTO 10\":REM GOTO 10".toList := by
  decide +kernel

end MsxWorkbench.Editor
