import MsxWorkbench.Proofs.Editor.ProgramMap
import MsxWorkbench.Proofs.Editor.Runs
/-
# The line of the cursor

A cursor inside the text is in a column of one of the lines (`CursorOn`, `exists_cursorOn`). The spot of such a cursor and
the text of its line are read off (`CursorOn.spot_eq`, `lineText_line`), and putting another text in the place of the line
leaves the lines around it (`text_replaceLine`, `cursorOn_replaceLine`).

After a key the blanks of the cursor's line are put in order and the cursor keeps its distance from the end of the line
(`respaceAfterKey_runOn`). So it stays behind the same characters just if as many of them are behind it as before
(`respaceAfterKey_keeps_iff`).
-/
namespace MsxWorkbench.Editor

open Program (kept kept_false_respace newline_notMem_respace respace)
open Text (count_ended ended ended_cons led led_cons takeWhile_reverse_ended unrows_append_cons unrows_cons unrows_rows)

/-! ## The cursor in its line -/

theorem foldl_sizeOfLines (n : Nat) (ls : List (List Char)) :
    ls.foldl (fun n l => n + l.length + 1) n = n + (ended ls).length := by
  induction ls generalizing n with
  | nil => rfl
  | cons l ls ih =>
    rw [List.foldl_cons, ih, ended_cons, List.length_append, List.length_cons]
    omega

theorem sizeOfLines_eq (ls : List (List Char)) : Buffer.sizeOfLines ls = (ended ls).length := by
  rw [Buffer.sizeOfLines, foldl_sizeOfLines, Nat.zero_add]

/-- The cursor is in a column of a line, between the lines above and below it. -/
structure CursorOn (b : Buffer) (above : List (List Char)) (line : List Char) (below : List (List Char))
    (column : Nat) : Prop where
  lines_eq : b.lines = above ++ line :: below
  column_le : column ≤ line.length
  cursor_eq : b.cursor = (ended above).length + column

/-- A position inside lines is in one of them. -/
theorem exists_line {n : Nat} (line : List Char) (below : List (List Char)) (h : n ≤ (line ++ led below).length) :
    ∃ above current rest column, line :: below = above ++ current :: rest ∧ column ≤ current.length ∧
      n = (ended above).length + column := by
  induction below generalizing line n with
  | nil => exact ⟨[], line, [], n, rfl, by simpa using h, by simp⟩
  | cons m below ih =>
    by_cases hn : n ≤ line.length
    · exact ⟨[], line, m :: below, n, rfl, hn, by simp⟩
    · have hrest : n - (line.length + 1) ≤ (m ++ led below).length := by
        rw [led_cons, List.length_append, List.length_cons] at h
        omega
      obtain ⟨above, current, rest, column, hsplit, hcolumn, hposition⟩ := ih m hrest
      refine ⟨line :: above, current, rest, column, by rw [hsplit, List.cons_append], hcolumn, ?_⟩
      rw [ended_cons, List.length_append, List.length_cons]
      omega

theorem exists_cursorOn {b : Buffer} (h : b.cursor ≤ b.text.length) :
    ∃ above line below column, CursorOn b above line below column := by
  obtain ⟨row, rest, hrows⟩ := Text.exists_rows b.text
  have htext := unrows_rows b.text
  rw [hrows, unrows_cons] at htext
  rw [← htext] at h
  obtain ⟨above, line, below, column, hsplit, hcolumn, hcursor⟩ := exists_line row rest h
  exact ⟨above, line, below, column, hrows.trans hsplit, hcolumn, hcursor⟩

section
variable {b : Buffer} {above below : List (List Char)} {line : List Char}

theorem text_of_lines (h : b.lines = above ++ line :: below) : b.text = ended above ++ (line ++ led below) := by
  rw [← unrows_append_cons, ← h, Buffer.lines, unrows_rows]

theorem newline_notMem_lines (h : b.lines = above ++ line :: below) : ∀ l ∈ above ++ line :: below, '\n' ∉ l := by
  rw [← h]
  exact fun l hl hmem => (Text.mem_of_mem_rows hl hmem).2 rfl

theorem lines_of_text (htext : b.text = ended above ++ (line ++ led below))
    (hlines : ∀ l ∈ above ++ line :: below, '\n' ∉ l) : b.lines = above ++ line :: below := by
  rw [Buffer.lines, htext, ← unrows_append_cons, Text.rows_unrows (by simp) hlines]

theorem position_line (h : b.lines = above ++ line :: below) (column : Int) :
    b.position (above.length + 1 : Nat) column = (ended above).length + min column.toNat line.length := by
  have hnot : ¬ ((above.length + 1 : Nat) : Int) < 1 := by omega
  have hindex : (((above.length + 1 : Nat) : Int) - 1).toNat = above.length := by omega
  rw [Buffer.position, if_neg hnot]
  simp only [hindex, h, List.getElem?_append_right (Nat.le_refl _), Nat.sub_self, List.getElem?_cons_zero, List.take_left,
    sizeOfLines_eq]

theorem lineEnd_line (h : b.lines = above ++ line :: below) :
    b.lineEnd (above.length + 1 : Nat) = (ended above).length + line.length := by
  have hnot : ¬ ((above.length + 1 : Nat) : Int) < 1 := by omega
  have hindex : (((above.length + 1 : Nat) : Int) - 1).toNat = above.length := by omega
  rw [Buffer.lineEnd, if_neg hnot, position_line h, hindex, h, List.getElem?_append_right (Nat.le_refl _), Nat.sub_self,
    List.getElem?_cons_zero, Option.getD_some, Int.toNat_natCast, Nat.min_self]

theorem lineText_line (h : b.lines = above ++ line :: below) : b.lineText (above.length + 1 : Nat) = line := by
  have hfull : b.full = ended above ++ line ++ (led below ++ ['\n']) := by
    rw [Buffer.full, text_of_lines h]
    simp
  rw [Buffer.lineText, Buffer.slice, position_line h, lineEnd_line h, hfull, ← List.length_append, List.take_left,
    Int.toNat_zero, Nat.zero_min, Nat.add_zero, List.drop_left]

theorem CursorOn.spot_eq {column : Nat} (h : CursorOn b above line below column) :
    b.spot b.cursor = ⟨above.length + 1, column⟩ := by
  have htext := text_of_lines h.lines_eq
  have hlines := newline_notMem_lines h.lines_eq
  have hline : '\n' ∉ line.take column := fun hmem => hlines line (by simp) (List.mem_of_mem_take hmem)
  have hinside : ¬ b.text.length < b.cursor := by
    rw [htext, h.cursor_eq, List.length_append, List.length_append]
    have := h.column_le
    omega
  have hbefore : b.text.take b.cursor = ended above ++ line.take column := by
    rw [htext, h.cursor_eq, List.take_length_add_append, List.take_append_of_le_length h.column_le]
  have hcount : (b.text.take b.cursor).count '\n' = above.length := by
    rw [hbefore, List.count_append, List.count_eq_zero.2 hline, Nat.add_zero]
    exact count_ended fun l hl => hlines l (List.mem_append_left _ hl)
  have hcolumn : ((b.text.take b.cursor).reverse.takeWhile (· != '\n')).length = column := by
    rw [hbefore, List.reverse_append, List.takeWhile_append_of_pos, takeWhile_reverse_ended, List.append_nil,
      List.length_reverse, List.length_take, Nat.min_eq_left h.column_le]
    intro c hc
    rw [bne_iff_ne]
    rintro rfl
    exact hline (List.mem_reverse.1 hc)
  simp only [Buffer.spot, if_neg hinside, hcount, hcolumn]

/-! ## Another text for the line -/

theorem text_delete {front old back : List Char} (h : b.text = front ++ (old ++ back)) :
    (b.delete front.length (front.length + old.length)).text = front ++ back := by
  have hlast : min (front.length + old.length) b.text.length = front.length + old.length := by
    rw [h, List.length_append, List.length_append]
    omega
  simp only [Buffer.delete, hlast]
  split
  · rename_i hle
    rw [h, List.eq_nil_of_length_eq_zero (by omega : old.length = 0), List.nil_append]
  · simp only [h, List.take_left, ← List.drop_drop, List.drop_left]

theorem text_insert {front back : List Char} (h : b.text = front ++ back) (new : List Char) :
    (b.insert front.length new).text = front ++ (new ++ back) := by
  have hplace : min front.length (front ++ back).length = front.length := by
    rw [List.length_append]
    omega
  rw [Buffer.insert]
  split
  · rename_i hempty
    rw [h, List.isEmpty_iff.1 hempty, List.nil_append]
  · simp only [h, hplace, List.take_left, List.drop_left, List.append_assoc]

/-- The lines with another one in the place of one of them. -/
theorem lines_of_text_of_lines {b' : Buffer} {new : List Char} (h : b.lines = above ++ line :: below)
    (htext : b'.text = ended above ++ (new ++ led below)) (hnew : '\n' ∉ new) : b'.lines = above ++ new :: below := by
  have hlines := newline_notMem_lines h
  simp only [List.forall_mem_append, List.forall_mem_cons] at hlines
  refine lines_of_text htext ?_
  simp only [List.forall_mem_append, List.forall_mem_cons]
  exact ⟨hlines.1, hnew, hlines.2.2⟩

theorem text_replaceLine (h : b.lines = above ++ line :: below) (new : List Char) :
    (b.replaceLine (above.length + 1 : Nat) new).text = ended above ++ (new ++ led below) := by
  have hstart : b.position (above.length + 1 : Nat) 0 = (ended above).length := by
    rw [position_line h, Int.toNat_zero, Nat.zero_min, Nat.add_zero]
  have hdelete := text_delete (text_of_lines h)
  rw [Buffer.replaceLine, hstart, lineEnd_line h]
  generalize b.delete (ended above).length ((ended above).length + line.length) = shorter at hdelete
  have hshorter : shorter.lines = above ++ [] :: below := lines_of_text_of_lines h hdelete (by simp)
  rw [position_line hshorter, Int.toNat_zero, Nat.zero_min, Nat.add_zero, text_insert hdelete]

/-- The line is replaced and the cursor set in it: at a column of the new line, or the nearest there is. -/
theorem cursorOn_replaceLine {new : List Char} (h : b.lines = above ++ line :: below) (hnew : '\n' ∉ new) (column : Int) :
    CursorOn ((b.replaceLine (above.length + 1 : Nat) new).setCursor
        ((b.replaceLine (above.length + 1 : Nat) new).position (above.length + 1 : Nat) column))
      above new below (min column.toNat new.length) := by
  have htext := text_replaceLine h new
  generalize b.replaceLine (above.length + 1 : Nat) new = longer at htext
  have hlonger : longer.lines = above ++ new :: below := lines_of_text_of_lines h htext hnew
  refine ⟨hlonger, Nat.min_le_right _ _, ?_⟩
  rw [position_line hlonger, Buffer.setCursor]
  simp only [htext, List.length_append]
  omega

end

/-! ## After a key -/

theorem runOn_indexOf {position : Buffer → Nat} {s : State} (h : .index ∉ s.failing) :
    (indexOf position).runOn s = (.ok (s.buffer.spot (position s.buffer)), s) := by
  rw [indexOf, runOn_bind, runOn_call h]
  rfl

/-- The editor with another buffer. -/
def State.withBuffer (s : State) (b : Buffer) : State := { s with buffer := b }

theorem runOn_setCursor {position : Buffer → Nat} {s : State} (h : .setMark ∉ s.failing) :
    (setCursor position).runOn s = (.ok (), s.withBuffer (s.buffer.setCursor (position s.buffer))) := by
  rw [setCursor, runOn_bind, runOn_call h]
  rfl

section
variable {s : State} {above below : List (List Char)} {old new : List Char} {column : Nat}

/-- **The cursor keeps its distance from the end of its line** when the blanks of the line are put in order, or goes to the
start of the line where that is too far. The other lines stay as they are. -/
theorem respaceAfterKey_runOn (hcursor : CursorOn s.buffer above old below column) (hindex : .index ∉ s.failing)
    (hmark : .setMark ∉ s.failing) (hquotes : insideString old column = false) (hnew : respace s.keepsCase old = new) :
    ∃ b, (respaceAfterKey false).runOn s = (.ok (), s.withBuffer b) ∧
      CursorOn b above new below (new.length - (old.length - column)) := by
  have hline : s.buffer.lineText (above.length + 1 : Nat) = old := lineText_line hcursor.lines_eq
  have hcolumn := hcursor.column_le
  rw [respaceAfterKey, runOn_bind, runOn_indexOf hindex, hcursor.spot_eq]
  simp only [runOn_bind, runOn_get, hline, hquotes, hnew, Bool.false_eq_true, if_false]
  by_cases hsame : new = old
  · refine ⟨s.buffer, by simp [hsame, State.withBuffer], ?_⟩
    rw [hsame, Nat.sub_sub_self hcolumn]
    exact hcursor
  · have hold : '\n' ∉ old := newline_notMem_lines hcursor.lines_eq old (by simp)
    have hplace := cursorOn_replaceLine hcursor.lines_eq (hnew ▸ newline_notMem_respace hold)
      (column + new.length - old.length)
    have hdistance : min (column + new.length - old.length : Int).toNat new.length = new.length - (old.length - column) := by
      omega
    rw [hdistance] at hplace
    refine ⟨_, ?_, hplace⟩
    rw [if_pos hsame, runOn_bind, edit, runOn_modify]
    exact runOn_setCursor hmark

/-- Of two lines with the same characters, the same are before a column of each if as many are behind it. -/
theorem kept_take_iff {m n : Nat} (h : kept false new = kept false old) :
    kept false (new.take m) = kept false (old.take n) ↔
      (kept false (new.drop m)).length = (kept false (old.drop n)).length := by
  have hsplit : kept false (new.take m) ++ kept false (new.drop m) = kept false (old.take n) ++ kept false (old.drop n) := by
    rw [← Program.kept_append, ← Program.kept_append, List.take_append_drop, List.take_append_drop, h]
  constructor
  · intro htake
    rw [htake] at hsplit
    rw [List.append_cancel_left hsplit]
  · exact List.append_inj_left' hsplit

/-- **The cursor stays behind the same characters** when the blanks of its line are put in order just if as many characters
that are no blanks are behind it as before, up to letter case. So it does where the line ends as before from the cursor on. -/
theorem respaceAfterKey_keeps_iff {line : Nat} (hinside : s.buffer.cursor ≤ s.buffer.text.length)
    (hspot : s.buffer.spot s.buffer.cursor = ⟨line, column⟩) (hold : s.buffer.lineText line = old)
    (hnew : respace s.keepsCase old = new) (hindex : .index ∉ s.failing) (hmark : .setMark ∉ s.failing)
    (hquotes : insideString old column = false) :
    ∃ above below b moved, moved = new.length - (old.length - column) ∧ CursorOn s.buffer above old below column ∧
      (respaceAfterKey false).runOn s = (.ok (), s.withBuffer b) ∧ CursorOn b above new below moved ∧
      (kept false (new.take moved) = kept false (old.take column) ↔
        (kept false (new.drop moved)).length = (kept false (old.drop column)).length) ∧
      (old.drop column <:+ new → kept false (new.take moved) = kept false (old.take column)) := by
  obtain ⟨above, current, below, place, hcursor⟩ := exists_cursorOn hinside
  obtain ⟨rfl, rfl⟩ := Spot.mk.inj (hcursor.spot_eq.symm.trans hspot)
  obtain rfl : current = old := (lineText_line hcursor.lines_eq).symm.trans hold
  obtain ⟨b, hrun, hafter⟩ := respaceAfterKey_runOn hcursor hindex hmark hquotes hnew
  have hfree : '\n' ∉ current := newline_notMem_lines hcursor.lines_eq current (by simp)
  have hsame : kept false new = kept false current := hnew ▸ kept_false_respace hfree
  refine ⟨above, below, b, _, rfl, hcursor, hrun, hafter, kept_take_iff hsame, ?_⟩
  rintro ⟨front, hfront⟩
  have hmoved : new.length - (current.length - place) = front.length := by
    have hlength := congrArg List.length hfront
    rw [List.length_append, List.length_drop] at hlength
    omega
  rw [kept_take_iff hsame, hmoved, ← hfront, List.drop_left]

end

/-- An editor with one line that has no blanks. -/
def gluedLine (cursor : Nat) : State :=
  { buffer := { text := "10GOTO20".toList, cursor }, gutter := { background := .null }, ruler := { background := .null } }

theorem respace_gluedLine (cursor : Nat) :
    respace (gluedLine cursor).keepsCase "10GOTO20".toList = "10 GOTO 20".toList := by
  rw [show "10GOTO20".toList = "10".toList ++ ("GOTO".toList ++ ([] ++ "20".toList)) by decide, respace_glued]

theorem respaceAfterKey_keeps_end : ∃ above below b,
    (respaceAfterKey false).runOn (gluedLine 8) = (.ok (), (gluedLine 8).withBuffer b) ∧
    CursorOn b above "10 GOTO 20".toList below 10 ∧
    kept false ("10 GOTO 20".toList.take 10) = kept false ("10GOTO20".toList.take 8) := by
  have hspot : (gluedLine 8).buffer.spot (gluedLine 8).buffer.cursor = ⟨1, 8⟩ := by decide
  have hline : (gluedLine 8).buffer.lineText (1 : Nat) = "10GOTO20".toList := by decide
  obtain ⟨above, below, b, moved, rfl, -, hrun, hcursor, -, hkeeps⟩ := respaceAfterKey_keeps_iff (by decide) hspot hline
    (respace_gluedLine 8) (List.not_mem_nil) (List.not_mem_nil) (by decide)
  exact ⟨above, below, b, hrun, hcursor, hkeeps ⟨"10 GOTO 20".toList, by decide⟩⟩

/-- From before the word the cursor goes into it. -/
theorem respaceAfterKey_enters_word : ∃ b,
    (respaceAfterKey false).runOn (gluedLine 2) = (.ok (), (gluedLine 2).withBuffer b) ∧
    CursorOn (gluedLine 2).buffer [] "10GOTO20".toList [] 2 ∧ CursorOn b [] "10 GOTO 20".toList [] 4 ∧
    insideString "10GOTO20".toList 2 = false ∧
    kept false ("10GOTO20".toList.take 2) = "10".toList ∧ kept false ("10 GOTO 20".toList.take 4) = "10G".toList := by
  have hcursor : CursorOn (gluedLine 2).buffer [] "10GOTO20".toList [] 2 := ⟨by decide, by decide, by decide⟩
  obtain ⟨b, hrun, hafter⟩ := respaceAfterKey_runOn hcursor (List.not_mem_nil) (List.not_mem_nil) (by decide)
    (respace_gluedLine 2)
  exact ⟨b, hrun, hcursor, hafter, by decide, by decide, by decide⟩

end MsxWorkbench.Editor
