import MsxWorkbench.Suite.TextBuffer
import MsxWorkbench.Proofs.Editor.CursorLine
/-
# The text of a buffer of lines

Whatever is inserted and deleted, a buffer has a line and its lines have no line feeds (`WellFormed`, `wellFormed_after`),
so they are the rows of its text and two buffers with one text are the same (`WellFormed.eq_of_text`).

A place inside a buffer cuts the text in two, `before` it and `behind` it. Inserting puts the new text between the two
(`text_insert`), deleting leaves what is before the first place and behind the last (`text_delete`), and reading gives the
text between (`before_get`). The part before a place has as many characters as the editor counts up to the same line and
column (`length_before`), so each edit is a splice of the text at the offsets of its places (`edits_splice`).
-/
namespace MsxWorkbench.Suite

open Text (ended led led_eq unrows_append_cons unrows_between unrows_cons unrows_rows)

/-- Places in the order of the text. -/
instance : LE Place := ⟨fun p q => p.line < q.line ∨ p.line = q.line ∧ p.column ≤ q.column⟩

theorem Place.line_le {p q : Place} (h : p ≤ q) : p.line ≤ q.line := by
  rcases h with h | h
  · exact Nat.le_of_lt h
  · exact Nat.le_of_eq h.1

namespace TextBuffer

variable {b : TextBuffer} {p q : Place}

/-! ## Well-formed buffers -/

/-- There is a line, and no line has a line feed. -/
structure WellFormed (b : TextBuffer) : Prop where
  nonempty : b.lines ≠ []
  unbroken : ∀ l ∈ b.lines, '\n' ∉ l

theorem WellFormed.rows_text (h : b.WellFormed) : Text.rows b.text = b.lines :=
  Text.rows_unrows h.nonempty h.unbroken

theorem WellFormed.eq_of_text {c : TextBuffer} (hb : b.WellFormed) (hc : c.WellFormed) (h : b.text = c.text) :
    b = c := by
  have hlines : b.lines = c.lines := by rw [← hb.rows_text, h, hc.rows_text]
  cases b
  cases c
  exact congrArg TextBuffer.mk hlines

theorem WellFormed.lineAt (h : b.WellFormed) (line : Nat) : '\n' ∉ b.lineAt line := by
  rw [TextBuffer.lineAt, List.getD_eq_getElem?_getD]
  cases hline : b.lines[line]? with
  | none => simp
  | some l => exact h.unbroken l (List.mem_of_getElem? hline)

theorem WellFormed.front (h : b.WellFormed) (p : Place) : '\n' ∉ b.front p := fun hmem =>
  h.lineAt p.line (List.mem_of_mem_take hmem)

theorem WellFormed.back (h : b.WellFormed) (p : Place) : '\n' ∉ b.back p := fun hmem =>
  h.lineAt p.line (List.mem_of_mem_drop hmem)

theorem WellFormed.replaceLines (h : b.WellFormed) {new : List (List Char)} (hne : new ≠ [])
    (hnew : ∀ l ∈ new, '\n' ∉ l) (first last : Nat) : (b.replaceLines first last new).WellFormed where
  nonempty := by simp [TextBuffer.replaceLines, hne]
  unbroken l hl := by
    rw [TextBuffer.replaceLines, List.mem_append, List.mem_append] at hl
    rcases hl with (hl | hl) | hl
    · exact h.unbroken l (List.mem_of_mem_take hl)
    · exact hnew l hl
    · exact h.unbroken l (List.mem_of_mem_drop hl)

theorem spliced_ne_nil (before after : List Char) (rows : List (List Char)) : spliced before after rows ≠ [] := by
  rw [spliced.eq_def]
  split <;> simp

theorem newline_notMem_spliced {before after : List Char} {rows : List (List Char)} (hbefore : '\n' ∉ before)
    (hafter : '\n' ∉ after) (hrows : ∀ l ∈ rows, '\n' ∉ l) : ∀ l ∈ spliced before after rows, '\n' ∉ l := by
  fun_induction spliced before after rows with
  | case1 before => simp [hbefore, hafter]
  | case2 before row => simp_all
  | case3 before row rest hrest ih =>
    rw [List.forall_mem_cons] at hrows ⊢
    exact ⟨by simp [hbefore, hrows.1], ih (by simp) hrows.2⟩

theorem WellFormed.insert (h : b.WellFormed) (p : Place) (t : List Char) : (b.insert p t).WellFormed := by
  rw [TextBuffer.insert]
  split
  · exact h
  · refine h.replaceLines (spliced_ne_nil _ _ _) ?_ _ _
    exact newline_notMem_spliced (h.front p) (h.back p) fun l hl hmem => (Text.mem_of_mem_rows hl hmem).2 rfl

theorem WellFormed.delete (h : b.WellFormed) (p q : Place) : (b.delete p q).WellFormed := by
  refine h.replaceLines (by simp) ?_ _ _
  simp [h.front p, h.back q]

/-! ## The text around a place -/

/-- The text before a place. -/
def before (b : TextBuffer) (p : Place) : List Char := ended (b.lines.take p.line) ++ b.front p

/-- The text behind a place. -/
def behind (b : TextBuffer) (p : Place) : List Char := b.back p ++ led (b.lines.drop (p.line + 1))

theorem front_append_back (b : TextBuffer) (p : Place) : b.front p ++ b.back p = b.lineAt p.line :=
  List.take_append_drop _ _

theorem lines_eq (h : p.line < b.lines.length) :
    b.lines = b.lines.take p.line ++ b.lineAt p.line :: b.lines.drop (p.line + 1) := by
  have hline : b.lineAt p.line = b.lines[p.line] := by
    rw [lineAt, List.getD_eq_getElem?_getD, List.getElem?_eq_getElem h, Option.getD_some]
  rw [hline, List.getElem_cons_drop, List.take_append_drop]

theorem before_append_behind (h : p.line < b.lines.length) : b.before p ++ b.behind p = b.text := by
  rw [text, lines_eq h, unrows_append_cons, before, behind, ← front_append_back]
  simp

theorem unrows_spliced (front back : List Char) (rows : List (List Char)) :
    Text.unrows (spliced front back rows) = front ++ (Text.unrows rows ++ back) := by
  fun_induction spliced front back rows with
  | case1 front => simp [Text.unrows]
  | case2 front row => simp [Text.unrows]
  | case3 front row rest hrest ih =>
    rw [unrows_cons, led_eq (spliced_ne_nil _ _ _), ih, unrows_cons, led_eq hrest]
    simp

theorem text_insert (h : p.line < b.lines.length) (t : List Char) :
    (b.insert p t).text = b.before p ++ (t ++ b.behind p) := by
  rw [insert]
  split
  · rename_i hempty
    rw [List.isEmpty_iff.1 hempty, List.nil_append, before_append_behind h]
  · rw [text, replaceLines, unrows_between _ (spliced_ne_nil _ _ _), unrows_spliced, unrows_rows, before, behind,
      Nat.max_eq_right (Nat.le_succ _)]
    simp only [List.append_assoc]

theorem text_delete (h : p.line ≤ q.line) : (b.delete p q).text = b.before p ++ b.behind q := by
  rw [delete, text, replaceLines, unrows_between _ (by simp), before, behind, Nat.max_eq_right (by omega)]
  simp [Text.unrows]

/-! ## Places inside the text -/

/-- The line is one of the buffer, and the column is inside the line or at its end. -/
structure Inside (b : TextBuffer) (p : Place) : Prop where
  line_lt : p.line < b.lines.length
  column_nonneg : 0 ≤ p.column
  column_le : p.column ≤ (b.lineAt p.line).length

theorem Inside.columnIn_eq (h : b.Inside p) : columnIn (b.lineAt p.line) p.column = p.column.toNat := by
  have hnonneg := h.column_nonneg
  have hle := h.column_le
  rw [columnIn, if_neg (by omega)]
  omega

theorem Inside.length_front (h : b.Inside p) : (b.front p).length = p.column.toNat := by
  have hle := h.column_le
  rw [TextBuffer.front, h.columnIn_eq, List.length_take]
  omega

theorem before_get (hp : b.Inside p) (hq : b.Inside q) (h : p ≤ q) : b.before p ++ b.get p q = b.before q := by
  rcases h with hline | ⟨hline, hcolumn⟩
  · -- the lines above the last place are those above the first, its own and those between
    have habove : b.lines.take q.line =
        b.lines.take p.line ++ (b.front p ++ b.back p) :: (b.lines.take q.line).drop (p.line + 1) := by
      have hlt : p.line < (b.lines.take q.line).length := by
        rw [List.length_take]
        exact Nat.lt_min.2 ⟨hline, hp.line_lt⟩
      have hsplit := lines_eq (b := ⟨b.lines.take q.line⟩) hlt
      have hown : lineAt ⟨b.lines.take q.line⟩ p.line = b.lineAt p.line := by simp [lineAt, hline]
      rwa [hown, List.take_take, Nat.min_eq_left (Nat.le_of_lt hline), ← front_append_back] at hsplit
    rw [get, if_neg (Nat.ne_of_lt hline), unrows_append_cons, before, before]
    generalize (b.lines.take q.line).drop (p.line + 1) = between at habove
    rw [habove]
    simp [ended]
  · have hfront : b.front p <+: b.front q := by
      rw [front, front, hp.columnIn_eq, hq.columnIn_eq, hline]
      exact List.take_prefix_take_left (by omega)
    rw [get, if_pos hline, before, before, hline, List.append_assoc, List.prefix_iff_eq_append.1 hfront]

/-! ## Deleting and inserting again -/

/-- A deletion leaves the place at which it starts and the text before it. -/
theorem Inside.delete (hp : b.Inside p) (q : Place) :
    (b.delete p q).Inside p ∧ (b.delete p q).before p = b.before p := by
  have hlength : (b.lines.take p.line).length = p.line := List.length_take_of_le (Nat.le_of_lt hp.line_lt)
  have hline : (b.delete p q).lines[p.line]? = some (b.front p ++ b.back q) := by
    rw [TextBuffer.delete, replaceLines, List.append_assoc, List.getElem?_append_right (Nat.le_of_eq hlength), hlength,
      Nat.sub_self]
    rfl
  have hown : (b.delete p q).lineAt p.line = b.front p ++ b.back q := by
    rw [lineAt, List.getD_eq_getElem?_getD, hline, Option.getD_some]
  have hinside : (b.delete p q).Inside p := by
    refine ⟨(List.getElem?_eq_some_iff.1 hline).1, hp.column_nonneg, ?_⟩
    have hnonneg := hp.column_nonneg
    rw [hown, List.length_append, hp.length_front]
    omega
  refine ⟨hinside, ?_⟩
  have habove : (b.delete p q).lines.take p.line = b.lines.take p.line := by
    rw [TextBuffer.delete, replaceLines, List.append_assoc, List.take_left' hlength]
  rw [before, before, habove, front, hinside.columnIn_eq, hown, ← hp.length_front, List.take_left]

/-- What was deleted can be put back. -/
theorem insert_get_delete (hb : b.WellFormed) (hp : b.Inside p) (hq : b.Inside q) (h : p ≤ q) :
    (b.delete p q).insert p (b.get p q) = b := by
  refine ((hb.delete p q).insert p _).eq_of_text hb ?_
  obtain ⟨hinside, hbefore⟩ := hp.delete q
  have hbehind : (b.delete p q).behind p = b.behind q := by
    have htext := before_append_behind hinside.line_lt
    rw [hbefore, text_delete (Place.line_le h)] at htext
    exact List.append_cancel_left htext
  rw [text_insert hinside.line_lt, hbefore, hbehind, ← List.append_assoc, before_get hp hq h,
    before_append_behind hq.line_lt]

/-! ## Offsets -/

/-- The offset of a place in the text, as the editor counts it. -/
def offset (b : TextBuffer) (p : Place) : Nat :=
  ({ text := b.text } : Editor.Buffer).position (p.line + 1 : Nat) p.column

theorem length_before (hb : b.WellFormed) (hp : b.Inside p) : (b.before p).length = b.offset p := by
  have hlines : ({ text := b.text } : Editor.Buffer).lines =
      b.lines.take p.line ++ b.lineAt p.line :: b.lines.drop (p.line + 1) := by
    rw [← lines_eq hp.line_lt]
    exact hb.rows_text
  have hlength : (b.lines.take p.line).length = p.line := List.length_take_of_le (Nat.le_of_lt hp.line_lt)
  have hposition := Editor.position_line hlines p.column
  have hle := hp.column_le
  rw [hlength] at hposition
  rw [before, List.length_append, hp.length_front, offset, hposition]
  omega

theorem take_offset (hb : b.WellFormed) (hp : b.Inside p) : b.text.take (b.offset p) = b.before p := by
  rw [← length_before hb hp, ← before_append_behind hp.line_lt, List.take_left]

theorem drop_offset (hb : b.WellFormed) (hp : b.Inside p) : b.text.drop (b.offset p) = b.behind p := by
  rw [← length_before hb hp, ← before_append_behind hp.line_lt, List.drop_left]

/-! ## Indices -/

/-- A text names a place inside the buffer: it consists of the number of the line, counted from one, and the column, with a
dot between them. -/
structure Names (b : TextBuffer) (index : List Char) (p : Place) : Prop where
  inside : b.Inside p
  parts : ∃ line column : List Char, Text.splitAt '.' index = [line, column] ∧
    Text.readInteger 10 line = .ok (p.line + 1 : Nat) ∧ Text.readInteger 10 column = .ok p.column

theorem Names.place_eq {index : List Char} (h : b.Names index p) : b.place index = p := by
  obtain ⟨line, column, hparts, hline, hcolumn⟩ := h.parts
  -- the line's number is read, so the text does not start with a word
  have hword : ∀ (c : Char) (word : List Char), c ≠ '.' →
      (∀ s, Text.readInteger 10 (c :: s) = .error (.invalid 10 (c :: s))) → (c :: word).isPrefixOf index = false := by
    intro c word hdot hletter
    rw [← Bool.not_eq_true, List.isPrefixOf_iff_prefix]
    rintro ⟨rest, rfl⟩
    obtain ⟨part, parts, hrest⟩ := List.exists_cons_of_ne_nil (Text.splitAt_ne_nil '.' (word ++ rest))
    rw [List.cons_append, Text.splitAt_cons hdot hrest] at hparts
    obtain ⟨rfl, -⟩ := List.cons.inj hparts
    rw [hletter] at hline
    cases hline
  have hend : "end".toList.isPrefixOf index = false := hword 'e' ['n', 'd'] (by decide) fun _ => rfl
  have hinsert : "insert".toList.isPrefixOf index = false :=
    hword 'i' ['n', 's', 'e', 'r', 't'] (by decide) fun _ => rfl
  have hnumber : min (((p.line + 1 : Nat) : Int) - 1).toNat (b.lines.length - 1) = p.line := by
    have hlt := h.inside.line_lt
    omega
  have hnumeral : (Text.readInteger 10 line).toOption = some ((p.line + 1 : Nat) : Int) := congrArg Except.toOption hline
  rw [place, hend, hinsert, hparts]
  simp only [hnumeral, hcolumn, Option.getD_some, hnumber, Int.min_eq_left h.inside.column_le, Bool.or_self,
    if_neg Bool.false_ne_true]

/-! ## Edits -/

/-- A call that changes the text, with the texts that name its places. -/
inductive Edit where
  | insert (index text : List Char)
  | delete (first last : List Char)

/-- The buffer after a call. -/
def Edit.apply (b : TextBuffer) : Edit → TextBuffer
  | .insert index text => b.insert (b.place index) text
  | .delete first last => b.delete (b.place first) (b.place last)

/-- The buffer after calls one after the other, from the empty text on. -/
def after (edits : List Edit) : TextBuffer := edits.foldl Edit.apply {}

theorem WellFormed.apply (h : b.WellFormed) (e : Edit) : (e.apply b).WellFormed := by
  cases e with
  | insert index text => exact h.insert (b.place index) text
  | delete first last => exact h.delete (b.place first) (b.place last)

theorem WellFormed.foldl (h : b.WellFormed) (edits : List Edit) : (edits.foldl Edit.apply b).WellFormed := by
  induction edits generalizing b with
  | nil => exact h
  | cons e edits ih => exact ih (h.apply e)

theorem wellFormed_after (edits : List Edit) : (after edits).WellFormed :=
  WellFormed.foldl ⟨by decide, by simp⟩ edits

/-- After any calls the buffer has a line and no line has a line feed. Inserting at a place puts the new text into the old
one at the offset of the place. Deleting from one place up to another takes out the text between their offsets, reading
gives that text, and when it is inserted again at the first place the buffer is as it was. -/
theorem edits_splice {edits : List Edit} {b : TextBuffer} (hb : after edits = b) :
    (b.lines ≠ [] ∧ ∀ l ∈ b.lines, '\n' ∉ l) ∧
    (∀ (i t : List Char) (p : Place), b.Names i p →
      ((Edit.insert i t).apply b).text = b.text.take (b.offset p) ++ (t ++ b.text.drop (b.offset p))) ∧
    ∀ (i k : List Char) (p q : Place), b.Names i p → b.Names k q → p ≤ q →
      ((Edit.delete i k).apply b).text = b.text.take (b.offset p) ++ b.text.drop (b.offset q) ∧
      b.get (b.place i) (b.place k) = (b.text.take (b.offset q)).drop (b.offset p) ∧
      (Edit.insert i (b.get (b.place i) (b.place k))).apply ((Edit.delete i k).apply b) = b := by
  have hwell : b.WellFormed := hb ▸ wellFormed_after edits
  refine ⟨⟨hwell.nonempty, hwell.unbroken⟩, ?_, ?_⟩
  · intro i t p hi
    rw [Edit.apply, hi.place_eq, take_offset hwell hi.inside, drop_offset hwell hi.inside,
      text_insert hi.inside.line_lt]
  · intro i k p q hi hk h
    have hi' : (b.delete p q).Names i p := ⟨(hi.inside.delete q).1, hi.parts⟩
    rw [Edit.apply, Edit.apply, hi.place_eq, hk.place_eq, hi'.place_eq, take_offset hwell hi.inside,
      take_offset hwell hk.inside, drop_offset hwell hk.inside]
    refine ⟨text_delete (Place.line_le h), ?_, insert_get_delete hwell hi.inside hk.inside h⟩
    rw [← before_get hi.inside hk.inside h, ← length_before hwell hi.inside, List.drop_left]

/-- Three lines, of which the last two were one. -/
def brokenLine : TextBuffer :=
  after [.insert "1.0".toList "abc\ndef".toList, .insert "2.1".toList "X\nY".toList]

theorem edits_splice_brokenLine :
    brokenLine.Names "1.2".toList ⟨0, 2⟩ ∧ brokenLine.Names "3.1".toList ⟨2, 1⟩ ∧ (⟨0, 2⟩ : Place) ≤ ⟨2, 1⟩ ∧
    ((Edit.delete "1.2".toList "3.1".toList).apply brokenLine).text = "abef".toList ∧
    brokenLine.get (brokenLine.place "1.2".toList) (brokenLine.place "3.1".toList) = "c\ndX\nY".toList := by
  have hfirst : brokenLine.Names "1.2".toList ⟨0, 2⟩ :=
    ⟨⟨by decide, by decide, by decide⟩, ['1'], ['2'], rfl, rfl, rfl⟩
  have hlast : brokenLine.Names "3.1".toList ⟨2, 1⟩ :=
    ⟨⟨by decide, by decide, by decide⟩, ['3'], ['1'], rfl, rfl, rfl⟩
  have hle : (⟨0, 2⟩ : Place) ≤ ⟨2, 1⟩ := Or.inl (by decide)
  obtain ⟨htext, hget, -⟩ := (edits_splice rfl).2.2 _ _ _ _ hfirst hlast hle
  exact ⟨hfirst, hlast, hle, htext.trans (by decide), hget.trans (by decide)⟩

end TextBuffer

end MsxWorkbench.Suite
