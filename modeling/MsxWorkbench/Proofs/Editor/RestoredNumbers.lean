import MsxWorkbench.Editor.Menu
import MsxWorkbench.Proofs.Editor.RenumberedAgain
/-
# Numbers taken away and given again

A renumbered program whose bodies can be told from numbers loses its numbers (`dropNumbers_newText`) and nothing else. Its
lines are then read as lines without numbers (`programLines_bareText`) and given the same numbers. No line has an old number
that a reference could be to, so the references stay as the first renumbering has written them (`newText_bare`).
-/
namespace MsxWorkbench.Program

open Text (isBlank isDigit)

/-! ## Lines without numbers -/

/-- The lines of the new text without their numbers, with the numbers that they get again. -/
def bare (stored : Bool) (assigned : List (Line × Int)) : List (Line × Int) :=
  assigned.map fun line => (⟨none, changeAll (newReference stored assigned) line.1.body⟩, line.2)

/-- The new text without the numbers of its lines. -/
def bareText (stored : Bool) (assigned : List (Line × Int)) : List Char :=
  Text.unrows (assigned.map fun line => changeAll (newReference stored assigned) line.1.body)

/-- A body that, alone on its line, is taken neither for a blank line nor for a number. -/
def StandsAlone (body : List Char) : Prop := body ≠ [] ∧ NoHead isDigit body

theorem numberPairs_bare (stored : Bool) (assigned : List (Line × Int)) : numberPairs (bare stored assigned) = [] := by
  rw [numberPairs, bare, List.filterMap_map, List.filterMap_eq_nil_iff]
  exact fun line _ => rfl

theorem assign_bare (stored : Bool) (n : Numbering) (lines : List Line) :
    n.assign ((bare stored (n.assign lines)).map Prod.fst) = bare stored (n.assign lines) := by
  rw [bare, List.map_map]
  exact assign_map n lines _

theorem newReference_bare (stored : Bool) (assigned : List (Line × Int)) (d : List Char) :
    newReference stored (bare stored assigned) d = d := by
  refine newReference_of_none stored (newNumber?_eq_none_iff.2 fun line hline hnumber => ?_)
  obtain ⟨old, -, rfl⟩ := List.mem_map.1 hline
  cases hnumber

theorem IsNumber.trim_eq {d : List Char} (h : IsNumber d) : Text.trim d = d := by
  have hvisible : ∀ c ∈ d, isBlank c = false := fun c hc => (Text.digit_classes (h.2 c hc)).1
  rw [Text.trim_eq_self_iff]
  exact ⟨fun c hc => hvisible c (List.mem_of_head? hc), fun c hc => hvisible c (List.mem_of_getLast? hc)⟩

section
variable {body : List Char}

theorem spanLineNumber?_of_standsAlone (hbody : StandsAlone body) (htrim : Text.trim body = body) :
    spanLineNumber? body = none := by
  obtain ⟨c, rest, rfl⟩ := List.exists_cons_of_ne_nil hbody.1
  have hblank : isBlank c = false := (Text.trim_eq_self_iff.1 htrim).1 c rfl
  have hdigit : isDigit c = false := hbody.2 c rfl
  rw [spanLineNumber?, Text.trimLeft, List.dropWhile_cons_of_neg (by simp [hblank]),
    List.takeWhile_cons_of_neg (by simp [hdigit])]
  rfl

theorem readRow?_of_standsAlone (hbody : StandsAlone body) (htrim : Text.trim body = body) :
    readRow? body = some (.ok ⟨none, body⟩) := by
  have hread : Line.read body = .ok ⟨none, body⟩ := by
    rw [Line.read, spanLineNumber?_of_standsAlone hbody htrim, htrim]
  have hfilled : Text.allBlank body = false := by
    obtain ⟨c, rest, rfl⟩ := List.exists_cons_of_ne_nil hbody.1
    rw [Text.allBlank, List.all_cons, (Text.trim_eq_self_iff.1 htrim).1 c rfl, Bool.false_and]
  rw [readRow?, hfilled, if_neg Bool.false_ne_true, hread]

end

section
variable {assigned : List (Line × Int)} (h : Legible assigned) (stored : Bool)
include h

/-- The references are already as the second renumbering writes them. -/
theorem newText_bare : newText stored (bare stored assigned) = newText stored assigned := by
  have hf := isNumber_newReference h stored
  have hsame : newReference stored (bare stored assigned) = id := funext (newReference_bare stored assigned)
  have hbody : ∀ line : Line × Int, changeAll id (changeAll (newReference stored assigned) line.1.body) =
      changeAll (newReference stored assigned) line.1.body := by
    intro line
    exact changeAll_changeAll hf (not_latin_of_isNumber fun _ hd => hd) line.1.body
  rw [newText, hsame, bare, List.map_map, newText]
  refine congrArg Text.unrows (List.map_congr_left fun line _ => ?_)
  simp only [Function.comp_apply, newRow, hbody]

theorem trim_changed {line : Line × Int} (hline : line ∈ assigned) :
    Text.trim (changeAll (newReference stored assigned) line.1.body) =
      changeAll (newReference stored assigned) line.1.body :=
  trim_changeAll (isNumber_newReference h stored) (h.trimmed line hline)

theorem dropNumber_newRow {line : Line × Int} (hline : line ∈ assigned) :
    dropNumber (newRow (newReference stored assigned) line) = changeAll (newReference stored assigned) line.1.body := by
  have htrim := Text.trim_eq_self_iff.1 (trim_changed h stored hline)
  rw [dropNumber, newRow, spanLineNumber?_number (isNumber_toString (h.nonneg line hline))]
  exact dropWhile_append_noHead (s := [' ']) (List.forall_mem_singleton.2 rfl) htrim.1

variable (hbodies : ∀ line ∈ assigned, StandsAlone (changeAll (newReference stored assigned) line.1.body))
include hbodies

theorem trim_newText : Text.trim (newText stored assigned) = newText stored assigned := by
  refine Text.trim_unrows fun row hrow => ?_
  obtain ⟨line, hline, rfl⟩ := List.mem_map.1 hrow
  have hnumber := isNumber_toString (h.nonneg line hline)
  have hends := Text.trim_between hnumber.1 (hbodies line hline).1 hnumber.trim_eq (trim_changed h stored hline) [' ']
  rw [List.singleton_append] at hends
  rw [newRow]
  exact ⟨List.append_ne_nil_of_left_ne_nil hnumber.1 _, hends⟩

theorem dropNumbers_newText (hne : assigned ≠ []) : dropNumbers (newText stored assigned) = bareText stored assigned := by
  rw [dropNumbers, trim_newText h stored hbodies, newText,
    Text.rows_unrows (List.map_eq_nil_iff.not.2 hne) (newline_notMem_map_newRow h stored), List.map_map]
  refine congrArg Text.unrows (List.map_congr_left fun line hline => ?_)
  rw [Function.comp_apply, dropNumber_newRow h stored hline]

theorem programLines_bareText : programLines (bareText stored assigned) = .ok ((bare stored assigned).map Prod.fst) := by
  have hfeeds : ∀ row ∈ assigned.map fun line => changeAll (newReference stored assigned) line.1.body, '\n' ∉ row := by
    intro row hrow
    obtain ⟨line, hline, rfl⟩ := List.mem_map.1 hrow
    have hnew := newline_notMem_newRow (numeric_newReference stored assigned) (h.feeds line hline)
    rw [newRow, List.mem_append, List.mem_cons, not_or, not_or] at hnew
    exact hnew.2.2
  have hrows : (assigned.map fun line => changeAll (newReference stored assigned) line.1.body).filterMap readRow? =
      ((bare stored assigned).map Prod.fst).map Except.ok := by
    rw [bare, List.map_map, List.map_map, List.filterMap_map, ← List.filterMap_eq_map]
    refine List.filterMap_congr fun line hline => ?_
    have hread := readRow?_of_standsAlone (hbodies line hline) (trim_changed h stored hline)
    rw [Function.comp_apply, hread]
    rfl
  rw [programLines_eq, bareText, Text.filterMap_rows_unrows rfl hfeeds, hrows, List.mapM_map]
  exact (mapM_ok fun _ _ => rfl).trans (congrArg Except.ok (List.map_id _))

end

end MsxWorkbench.Program

namespace MsxWorkbench.Editor

open Program Settings

/-! ## Runs -/

/-- Without the store, a text that could be renumbered has no reference that is too long. -/
theorem short_of_renumbered {s : State} {assigned : List (Line × Int)} {text : List Char} (hc : s.connected = false)
    (h : s.renumbered assigned = .ok text) : ∀ d ∈ lineReferences assigned, d.length ≤ Text.mostDigits := by
  have h := of_mapError_eq_ok h
  simp only [hc, Bool.false_eq_true, if_false] at h
  intro d hd
  obtain ⟨line, hline, hd⟩ := List.mem_flatMap.1 hd
  obtain ⟨word, hword, hd⟩ := List.mem_flatMap.1 hd
  have hfound := lookup_of_renumberLines (numeric_newReference false assigned)
    (fun d _ => lookupAssigned_cases assigned d) h line hline word hword d hd
  by_contra hlong
  have herror : ∃ e, lookupAssigned assigned d = .error e := lookupAssigned_error (Nat.lt_of_not_le hlong)
  obtain ⟨e, he⟩ := herror
  rw [he] at hfound
  cases hfound

/-- A renumbering that fails in the drawing at most had all that it needs. -/
theorem writes_of_drawn {s : State} (hne : s.program ≠ []) (hdrawn : ∀ e, (renumber.runOn s).1 = .error e → e = .window) :
    ∃ assigned, Writes s assigned := by
  have hends := renumbers s
  generalize hrun : renumber.runOn s = result at hends hdrawn
  cases hends with
  | blank hnil => exact absurd hnil hne
  | unread _ hassigned =>
    rcases of_assigned_eq_error hassigned with ⟨type, rfl⟩ | rfl | ⟨e', rfl⟩
    · cases hdrawn _ rfl
    · cases hdrawn _ rfl
    · cases hdrawn _ rfl
  | refused _ _ _ _ _ => cases hdrawn _ rfl
  | unwritten _ _ _ _ => cases hdrawn _ rfl
  | @written assigned _ hassigned hfits hw =>
    refine ⟨assigned, hne, hassigned, hfits, hw, fun hc => ?_⟩
    cases htext : (s.withTable assigned).renumbered assigned with
    | ok text => exact short_of_renumbered ((content_withTable s assigned).2.1.trans hc) htext
    | error e =>
      -- a number that is too long stops the command before it draws
      obtain ⟨e, rfl⟩ := of_renumbered_eq_error htext
      rw [renumber_unwritten hne hassigned (storeNumbers_eq_ok_iff.2 ⟨hfits, rfl⟩) htext] at hrun
      cases hdrawn (.number e) (congrArg Prod.fst hrun.symm)

theorem blind_dropNumbers : Text.Blind dropNumbers where
  cons b s hb := by rw [dropNumbers, dropNumbers, Text.blind_trim.cons b s hb]
  concat b s hb := by rw [dropNumbers, dropNumbers, Text.blind_trim.concat b s hb]

theorem dropNumbers_program (s : State) : dropNumbers s.program = dropNumbers s.buffer.text := by
  rw [State.program, blind_dropNumbers.trim_eq]
  exact blind_dropNumbers.concat '\n' s.buffer.text (by decide)

theorem removeNumbers_runOn {s : State} (hne : s.program ≠ []) :
    removeNumbers.runOn s = (.ok (), { s with buffer := s.buffer.replace (dropNumbers s.buffer.text) }) := by
  rw [removeNumbers, runOn_bind, runOn_get]
  simp only [isEmpty_eq_false hne, dropNumbers_program]
  rfl

theorem removeNumbers_blank {s : State} (hnil : s.program = []) : removeNumbers.runOn s = (.ok (), s) := by
  rw [removeNumbers, runOn_bind, runOn_get]
  simp only [hnil]
  rfl

/-- The state `t` holds the renumbered program of `s` without the numbers of its lines. -/
structure Stripped (s t : State) (assigned : List (Line × Int)) : Prop where
  settings : t.settings = s.settings
  connected : t.connected = s.connected
  failing : s.failing = [] → t.failing = []
  text : t.buffer.text = bareText s.connected assigned

section
variable {s t : State} {assigned : List (Line × Int)}
  (hbodies : ∀ line ∈ assigned, StandsAlone (changeAll (newReference s.connected assigned) line.1.body))
include hbodies

theorem Renumbered.removeNumbers (h : Renumbered s t assigned) (hne : assigned ≠ []) :
    (removeNumbers.runOn t).1 = .ok () ∧ Stripped s (removeNumbers.runOn t).2 assigned := by
  have hprogram : t.program ≠ [] := (assigned_eq_nil_iff h.read_again).not.1 (List.map_eq_nil_iff.not.2 hne)
  rw [removeNumbers_runOn hprogram, h.text, dropNumbers_newText h.legible s.connected hbodies hne]
  exact ⟨rfl, h.settings, h.connected, h.failing, replace_text _ _⟩

variable (h : Stripped s t assigned) (hlegible : Legible assigned)
include h hlegible

/-- The lines without numbers are read again, and get the numbers that they had. -/
theorem Stripped.read_again (hread : s.assigned = .ok assigned) : t.assigned = .ok (bare s.connected assigned) := by
  obtain ⟨n, lines, hnumbering, hlines, heq⟩ := of_assigned_eq_ok hread
  rw [State.assigned, numbering_eq h.settings, hnumbering, programLines_program, h.text,
    programLines_bareText hlegible s.connected hbodies, heq]
  exact congrArg Except.ok (assign_bare s.connected n lines)

theorem Stripped.lineNumbers_eq : lineNumbers t.buffer.text = [] := by
  have hlines := programLines_bareText hlegible s.connected hbodies
  rw [h.text, ← numbers_of_programLines hlines, bare, List.map_map, List.filterMap_map, List.filterMap_eq_nil_iff]
  exact fun line _ => rfl

/-- What a renumbering has written, it can write again when the numbers are gone. -/
theorem Stripped.writes_again (hwrites : Writes s assigned) : Writes t (bare s.connected assigned) where
  nonblank := by
    have hne := (assigned_eq_nil_iff hwrites.read).not.2 hwrites.nonblank
    exact (assigned_eq_nil_iff (h.read_again hbodies hlegible hwrites.read)).not.1 (List.map_eq_nil_iff.not.2 hne)
  read := h.read_again hbodies hlegible hwrites.read
  fits _ := by
    rw [numberPairs_bare]
    exact ⟨List.nodup_nil, List.forall_mem_nil _⟩
  writable entry hentry := by
    obtain ⟨line, hline, rfl⟩ := List.mem_map.1 hentry
    exact hwrites.writable line hline
  short hc := by
    have hc : s.connected = false := h.connected.symm.trans hc
    rw [hc]
    intro d hd
    obtain ⟨old, hold, rfl⟩ := exists_of_mem_changed hlegible false hd
    exact length_newReference hlegible hwrites.writable (.inr (hwrites.short hc old hold))

theorem Stripped.text_again (hwrites : Writes s assigned) :
    (renumber.runOn t).2.buffer.text = newText s.connected assigned := by
  rw [(h.writes_again hbodies hlegible hwrites).text_eq, h.connected, newText_bare hlegible]

end

/-- Removing the numbers of a renumbered program and adding them again with the same settings, where no line is empty or
starts with a digit behind its number. The renumbering may fail when it draws its text, not before. The numbers go, and the
text comes back as it was. If no part of the window fails, neither does the last command. -/
theorem addNumbers_removeNumbers (shelf : Contents.ManualShelf) {s : State} {n : Numbering}
    (hnumbering : s.numbering = .ok n) (hstart : 0 ≤ n.start) (hincrement : 0 ≤ n.increment)
    (hdrawn : ∀ e, (renumber.runOn s).1 = .error e → e = .window)
    (hbodies : ∀ body ∈ bodies (renumber.runOn s).2.buffer.text, body ≠ [] ∧ ∀ c ∈ body.head?, Text.isDigit c = false) :
    let once := renumber.runOn s
    let removed := removeNumbers.runOn once.2
    let again := (Command.addNumbers.run shelf).runOn removed.2
    removed.1 = .ok () ∧ lineNumbers removed.2.buffer.text = [] ∧
    again.2.buffer.text = once.2.buffer.text ∧ (s.failing = [] → again.1 = .ok ()) := by
  dsimp only [Command.run]
  by_cases hnil : s.program = []
  · have hlines : programLines s.buffer.text = .ok [] := by
      rw [← programLines_program, hnil]
      rfl
    rw [renumber_blank hnil, removeNumbers_blank hnil, renumber_blank hnil]
    exact ⟨rfl, (numbers_of_programLines hlines).symm, rfl, fun _ => rfl⟩
  · obtain ⟨assigned, hwrites⟩ := writes_of_drawn hnil hdrawn
    have hne := (assigned_eq_nil_iff hwrites.read).not.2 hwrites.nonblank
    obtain ⟨m, lines, hm, hlines, hassigned⟩ := of_assigned_eq_ok hwrites.read
    obtain rfl : n = m := Except.ok.inj (hnumbering.symm.trans hm)
    have hlegible : Legible assigned := hassigned ▸ legible_assign hlines (zero_le_number hstart hincrement)
    have hrenumbered : Renumbered s (renumber.runOn s).2 assigned := by
      rw [hwrites.runOn_eq]
      exact renumbered_written hwrites.read hlegible hwrites.writable
    have halone : ∀ line ∈ assigned, StandsAlone (changeAll (newReference s.connected assigned) line.1.body) := by
      intro line hline
      refine hbodies _ ?_
      rw [hrenumbered.text, bodies_newText hlegible s.connected hwrites.writable]
      exact List.mem_map_of_mem hline
    obtain ⟨hremoved, hstripped⟩ := hrenumbered.removeNumbers halone hne
    refine ⟨hremoved, hstripped.lineNumbers_eq halone hlegible, ?_, fun hfailing => ?_⟩
    · rw [hstripped.text_again halone hlegible hwrites, hrenumbered.text]
    · exact (hstripped.writes_again halone hlegible hwrites).result_eq (hstripped.failing hfailing)

/-- An editor on a program with a blank line, a line without number and a jump to no line. -/
def gappedEditor : State := editorOn "7 GOTO 020 ,10\n\n  CLS\n20 END".toList true

/-- The lines of that program with their new numbers. -/
def gappedLines : List (Line × Int) :=
  [(⟨some 7, "GOTO 020 ,10".toList⟩, 10), (⟨none, "CLS".toList⟩, 20), (⟨some 20, "END".toList⟩, 30)]

theorem addNumbers_removeNumbers_gapped :
    let once := renumber.runOn gappedEditor
    let removed := removeNumbers.runOn once.2
    let again := (Command.addNumbers.run {}).runOn removed.2
    once.2.buffer.text = "10 GOTO 30, 10\n20 CLS\n30 END".toList ∧ removed.1 = .ok () ∧
    lineNumbers removed.2.buffer.text = [] ∧ again.1 = .ok () ∧ again.2.buffer.text = once.2.buffer.text := by
  dsimp only
  have hcells : ∀ line ∈ gappedLines, fitsCell line.2 = true := by decide
  have hwrites : Writes gappedEditor gappedLines :=
    { nonblank := by decide
      read := rfl
      fits := fun _ => ⟨by decide, by decide⟩
      writable := fun line hline => natAbs_lt_of_fitsCell (hcells line hline)
      short := by simp [gappedEditor, editorOn] }
  have htext : (renumber.runOn gappedEditor).2.buffer.text = "10 GOTO 30, 10\n20 CLS\n30 END".toList :=
    hwrites.text_eq.trans (by with_unfolding_all decide)
  have hdrawn : ∀ e, (renumber.runOn gappedEditor).1 = .error e → e = .window := by
    intro e he
    rw [hwrites.result_eq rfl] at he
    cases he
  have hbodies : ∀ body ∈ bodies (renumber.runOn gappedEditor).2.buffer.text,
      body ≠ [] ∧ ∀ c ∈ body.head?, Text.isDigit c = false := by
    have hall : (bodies "10 GOTO 30, 10\n20 CLS\n30 END".toList).all
        (fun body => !body.isEmpty && body.head?.all fun c => !Text.isDigit c) = true := by decide
    rw [htext]
    intro body hbody
    simpa [Option.all_eq_true] using List.all_eq_true.1 hall body hbody
  obtain ⟨hremoved, hnone, hagain, hok⟩ := addNumbers_removeNumbers {} (s := gappedEditor) (n := {}) rfl
    (by decide) (by decide) hdrawn hbodies
  exact ⟨htext, hremoved, hnone, hok rfl, hagain⟩

end MsxWorkbench.Editor
