import Mathlib.Data.List.Basic
import MsxWorkbench.Proofs.Program.LineFacts
import MsxWorkbench.Proofs.Text.Numerals
/-
# The renumbered program

A program is renumbered line by line: the new number, a blank and the body with its references changed
(`renumberLines_eq_ok`). If all its lines have numbers, a reference to a line becomes the number that this
line gets, and any other number stays (`newDigits`).
-/
namespace MsxWorkbench.Program

open Text (isBlank isDigit Blind)

/-! ## The lines of a program -/

/-- The line read from a row; a blank row has none. -/
def readRow? (row : List Char) : Option (Except Text.IntegerError Line) :=
  if Text.allBlank row then none else some (Line.read row)

theorem blind_read : Blind Line.read where
  cons b s hb := by
    rw [Line.read, Line.read, spanLineNumber?_cons hb, Text.blind_trim.cons b s hb]
  concat b s hb := by
    rw [Line.read, Line.read, spanLineNumber?_concat hb, Text.blind_trim.concat b s hb]
    cases spanLineNumber? s with
    | none => rfl
    | some span =>
      obtain ⟨digits, rest⟩ := span
      simp only [Option.map_some, Text.blind_trim.concat b rest hb]

theorem blind_readRow? : Blind readRow? where
  cons b s hb := by rw [readRow?, readRow?, Text.blind_allBlank.cons b s hb, blind_read.cons b s hb]
  concat b s hb := by rw [readRow?, readRow?, Text.blind_allBlank.concat b s hb, blind_read.concat b s hb]

theorem mapM_filter_eq (rows : List (List Char)) :
    (rows.filter fun row => !Text.allBlank row).mapM Line.read = (rows.filterMap readRow?).mapM id := by
  induction rows with
  | nil => rfl
  | cons row rows ih =>
    cases hblank : Text.allBlank row with
    | true => rw [List.filter_cons_of_neg (by simp [hblank]), List.filterMap_cons_none (by simp [readRow?, hblank]), ih]
    | false =>
      rw [List.filter_cons_of_pos (by simp [hblank]),
        List.filterMap_cons_some (b := Line.read row) (by simp [readRow?, hblank]), List.mapM_cons, List.mapM_cons, ih]
      rfl

theorem programLines_eq (text : List Char) :
    programLines text = ((Text.rows text).filterMap readRow?).mapM id := by
  rw [programLines, mapM_filter_eq]
  exact congrArg (List.mapM id) ((blind_readRow?.filterMap_rows rfl).trim_eq text)

theorem blind_programLines : Blind programLines where
  cons b s hb := by
    rw [programLines_eq, programLines_eq, blind_readRow?.filterMap_cons rfl hb]
  concat b s hb := by
    rw [programLines_eq, programLines_eq, blind_readRow?.filterMap_concat rfl hb]

/-- Every line of the text that is not blank has a number. -/
def AllNumbered (text : List Char) : Prop :=
  ∀ row ∈ Text.rows text, Text.allBlank row = false → (spanLineNumber? row).isSome = true

/-- The line of a program with a number and a body. -/
def Line.ofNumbered (line : List Char × List Char) : Line := ⟨some (Text.digitsValue line.1), line.2⟩

theorem spanLineNumber?_of_allBlank {row : List Char} (h : Text.allBlank row = true) :
    spanLineNumber? row = none := by
  rw [spanLineNumber?, Text.trimLeft, List.dropWhile_eq_nil_iff.2 (List.all_eq_true.1 h)]
  rfl

theorem readRow?_eq {row : List Char} (hall : Text.allBlank row = false → (spanLineNumber? row).isSome = true)
    (hshort : ∀ line ∈ numberAndBody? row, line.1.length ≤ Text.mostDigits) :
    readRow? row = (numberAndBody? row).map fun line => .ok (.ofNumbered line) := by
  cases hblank : Text.allBlank row with
  | true => simp [readRow?, hblank, numberAndBody?, spanLineNumber?_of_allBlank hblank]
  | false =>
    obtain ⟨⟨digits, body⟩, hspan⟩ := Option.isSome_iff_exists.1 (hall hblank)
    have hlen := hshort (digits, Text.trim body) (by simp [numberAndBody?, hspan])
    have hread : Text.readDigits digits = .ok (Text.digitsValue digits) := if_neg (Nat.not_lt_of_le hlen)
    simp only [readRow?, hblank, numberAndBody?, hspan, Option.map_some, Line.read, hread]
    rfl

theorem programLines_eq_ok {text : List Char} (hall : AllNumbered text)
    (hshort : ∀ line ∈ numbered text, line.1.length ≤ Text.mostDigits) :
    programLines text = .ok ((numbered text).map .ofNumbered) := by
  have hrows : (Text.rows text).filterMap readRow? =
      (numbered text).map fun line => .ok (.ofNumbered line) := by
    rw [numbered, List.map_filterMap]
    refine List.filterMap_congr fun row hrow => readRow?_eq (hall row hrow) fun line hline => ?_
    exact hshort line (List.mem_filterMap.2 ⟨row, hrow, hline⟩)
  rw [programLines_eq, hrows, List.mapM_map]
  exact mapM_ok fun line _ => rfl

/-! ## New numbers -/

/-- The number that a line gets, given the numbers that lines had; other numbers stay. -/
def Numbering.target (n : Numbering) (numbers : List Nat) (old : Nat) : Nat :=
  if old ∈ numbers then (n.number (numbers.idxOf old)).toNat else old

/-- The digits of a reference after renumbering. -/
def newDigits (n : Numbering) (numbers : List Nat) (digits : List Char) : List Char :=
  if Text.digitsValue digits ∈ numbers then
    (toString (n.number (numbers.idxOf (Text.digitsValue digits)))).toList
  else digits

section
variable {n : Numbering}

theorem zero_le_number (hstart : 0 ≤ n.start) (hincrement : 0 ≤ n.increment) (i : Nat) : 0 ≤ n.number i := by
  rw [Numbering.number]
  have := Int.mul_nonneg (Int.natCast_nonneg i) hincrement
  omega

theorem number_nonneg (hstart : 0 ≤ n.start) (hincrement : 1 ≤ n.increment) (i : Nat) : 0 ≤ n.number i :=
  zero_le_number hstart (by omega) i

theorem number_injective (hincrement : 1 ≤ n.increment) {i j : Nat} (h : n.number i = n.number j) : i = j := by
  rw [Numbering.number, Numbering.number] at h
  have hprod : (i : Int) * n.increment = j * n.increment := by omega
  have hidx : (i : Int) = j := Int.eq_of_mul_eq_mul_right (by omega : n.increment ≠ 0) hprod
  omega

end

theorem isNumber_toString {n : Int} (h : 0 ≤ n) : IsNumber (toString n).toList :=
  ⟨Text.toString_ne_nil h, fun _ hc => Text.isDigit_of_ascii (Text.isDigit_of_mem_toString h hc)⟩

/-- What may take the place of numbers: texts without letters and line breaks. -/
structure Plain (f : List Char → List Char) : Prop where
  not_latin : ∀ d, IsNumber d → ∀ c ∈ f d, Text.isLatin c = false
  not_break : ∀ d, IsNumber d → ∀ c ∈ f d, Text.isLineBreak c = false

theorem plain_newDigits (n : Numbering) (numbers : List Nat) : Plain (newDigits n numbers) where
  not_latin d hd c hc := by
    rw [newDigits] at hc
    split at hc
    · exact Text.isLatin_of_mem_toString hc
    · exact Text.isLatin_of_isDigit (hd.2 c hc)
  not_break d hd c hc := by
    rw [newDigits] at hc
    split at hc
    · exact Text.isLineBreak_of_mem_toString hc
    · exact Text.isLineBreak_of_isDigit (hd.2 c hc)

theorem lookup_zipIdx (h : Nat → Int) (v : Nat) : ∀ (numbers : List Nat) (k : Nat),
    ((numbers.zipIdx k).map fun (m, i) => ((m : Int), h i)).lookup (v : Int) =
      if v ∈ numbers then some (h (k + numbers.idxOf v)) else none
  | [], k => by simp
  | m :: numbers, k => by
    have ih := lookup_zipIdx h v numbers (k + 1)
    rw [List.zipIdx_cons, List.map_cons, List.lookup_cons]
    by_cases hv : v = m
    · subst hv
      simp
    · have hne : ((v : Int) == (m : Int)) = false := by
        rw [beq_eq_false_iff_ne]
        omega
      rw [hne]
      simp only [ih, List.mem_cons, hv, false_or]
      rw [List.idxOf_cons_ne numbers (Ne.symm hv), Nat.succ_eq_add_one, Nat.add_right_comm, Nat.add_assoc]

theorem find?_zipIdx (n : Numbering) (v : Nat) : ∀ (lines : List (List Char × List Char)) (k : Nat),
    (((lines.map Line.ofNumbered).zipIdx k).map fun (l, i) => (l, n.number i)).find?
        (fun (l, _) => l.number == some v) =
      if v ∈ lines.map (fun line => Text.digitsValue line.1) then
        ((lines.map Line.ofNumbered)[(lines.map fun line => Text.digitsValue line.1).idxOf v]?).map fun l =>
          (l, n.number (k + (lines.map fun line => Text.digitsValue line.1).idxOf v))
      else none
  | [], k => by simp
  | line :: lines, k => by
    have ih := find?_zipIdx n v lines (k + 1)
    rw [List.map_cons, List.map_cons, List.zipIdx_cons, List.map_cons]
    by_cases hv : Text.digitsValue line.1 = v
    · rw [List.find?_cons_of_pos (by simp [Line.ofNumbered, hv]), if_pos (by simp [hv]), hv, List.idxOf_cons_self]
      rfl
    · rw [List.find?_cons_of_neg (by simp [Line.ofNumbered, hv]), ih]
      simp only [List.mem_cons, Ne.symm hv, false_or]
      rw [List.idxOf_cons_ne _ hv, Nat.succ_eq_add_one, List.getElem?_cons_succ, Nat.add_right_comm,
        Nat.add_assoc]

/-- The new lines can be written. -/
def Writable (n : Numbering) (count : Nat) : Prop := ∀ i < count, (n.number i).natAbs < 10 ^ Text.mostDigits

/-- Among the lines themselves every reference of at most 4300 digits is found by its value. -/
theorem lookupAssigned_eq_ok {n : Numbering} {lines : List (List Char × List Char)} {d : List Char}
    (hw : Writable n lines.length) (hd : d.length ≤ Text.mostDigits) :
    lookupAssigned (n.assign (lines.map .ofNumbered)) d =
      .ok (newDigits n (lines.map fun line => Text.digitsValue line.1) d) := by
  have hread : Text.readDigits d = .ok (Text.digitsValue d) := if_neg (Nat.not_lt_of_le hd)
  have hfind := find?_zipIdx n (Text.digitsValue d) lines 0
  rw [lookupAssigned, hread, newDigits]
  simp only [bind, Except.bind, Numbering.assign, hfind]
  by_cases hmem : Text.digitsValue d ∈ lines.map fun line => Text.digitsValue line.1
  · have hlt := List.idxOf_lt_length_iff.2 hmem
    rw [List.length_map] at hlt
    rw [if_pos hmem, if_pos hmem, Nat.zero_add, List.getElem?_eq_getElem (by simpa using hlt)]
    exact Text.writeInteger_eq (hw _ hlt)
  · rw [if_neg hmem, if_neg hmem]
    rfl

/-- A reference of more digits is refused. -/
theorem lookupAssigned_error {assigned : List (Line × Int)} {d : List Char} (hd : Text.mostDigits < d.length) :
    ∃ e, lookupAssigned assigned d = .error e :=
  ⟨.tooLong d.length, by rw [lookupAssigned, Text.readDigits, if_pos hd]; rfl⟩

/-! ## New lines -/

/-- The row that a line becomes, with the numbers of references changed by `f`. -/
def newRow (f : List Char → List Char) (line : Line × Int) : List Char :=
  (toString line.2).toList ++ ' ' :: changeAll f line.1.body

theorem mem_assign_iff {n : Numbering} {lines : List Line} {line : Line × Int} :
    line ∈ n.assign lines ↔ ∃ i, lines[i]? = some line.1 ∧ n.number i = line.2 := by
  rw [Numbering.assign, List.mem_map]
  constructor
  · rintro ⟨entry, hentry, rfl⟩
    exact ⟨entry.2, List.mem_zipIdx_iff_getElem?.1 hentry, rfl⟩
  · rintro ⟨i, hi, hnumber⟩
    exact ⟨(line.1, i), List.mem_zipIdx_iff_getElem?.2 hi, by simp only [hnumber]⟩

/-- The new numbers of the lines can be written. -/
def AllWritable (assigned : List (Line × Int)) : Prop := ∀ line ∈ assigned, line.2.natAbs < 10 ^ Text.mostDigits

theorem Writable.assign {n : Numbering} {lines : List Line} (h : Writable n lines.length) :
    AllWritable (n.assign lines) := by
  intro line hline
  obtain ⟨i, hi, hnumber⟩ := mem_assign_iff.1 hline
  rw [← hnumber]
  exact h i (List.getElem?_eq_some_iff.1 hi).1

/-- Where every look-up succeeds and every number can be written, each line becomes its new row. -/
theorem renumberLines_eq_ok {lookup : List Char → Except Text.IntegerError (List Char)} {f : List Char → List Char}
    (hf : ∀ d, IsNumber d → ∀ c ∈ f d, Text.isLatin c = false) {assigned : List (Line × Int)}
    (hw : AllWritable assigned)
    (h : ∀ line ∈ assigned, ∀ word ∈ referenceWords, ∀ d ∈ referenceNumbers word line.1.body, lookup d = .ok (f d)) :
    renumberLines lookup assigned = .ok (Text.unrows (assigned.map (newRow f))) := by
  have hrow : ∀ line ∈ assigned,
      (do
        let body ← updateReferences lookup line.1.body
        return (← Text.writeInteger line.2) ++ ' ' :: body : Except Text.IntegerError (List Char)) =
      .ok (newRow f line) := by
    intro line hline
    rw [updateReferences_eq_ok hf (h line hline), Text.writeInteger_eq (hw line hline)]
    rfl
  rw [renumberLines]
  exact congrArg (fun r => r.map Text.unrows) (mapM_ok hrow)

/-- The rows of the renumbered program, with the numbers of references changed by `f`. -/
def newRows (f : List Char → List Char) (n : Numbering) (text : List Char) : List (List Char) :=
  (numbered text).zipIdx.map fun (line, i) => (toString (n.number i)).toList ++ ' ' :: changeAll f line.2

theorem map_newRow_assign (f : List Char → List Char) (n : Numbering) (text : List Char) :
    (n.assign ((numbered text).map .ofNumbered)).map (newRow f) = newRows f n text := by
  rw [Numbering.assign, List.zipIdx_map, List.map_map, List.map_map]
  rfl

section
variable {f : List Char → List Char} (hf : Plain f) {n : Numbering} {text : List Char}
include hf

/-- A new row has line breaks only where the text has. -/
theorem isLineBreak_of_mem_newRows {row : List Char} (hrow : row ∈ newRows f n text) {c : Char} (hc : c ∈ row)
    (hbreak : Text.isLineBreak c = true) : c ∈ text ∧ c ≠ '\n' := by
  obtain ⟨⟨line, i⟩, hmem, rfl⟩ := List.mem_map.1 hrow
  have hline : line ∈ numbered text := (List.mem_zipIdx' hmem).2 ▸ List.getElem_mem _
  have hnot : ∀ {P : Prop}, Text.isLineBreak c = false → P := fun h => by rw [h] at hbreak; cases hbreak
  simp only [List.mem_append, List.mem_cons] at hc
  rcases hc with hc | hc | hc
  · exact hnot (Text.isLineBreak_of_mem_toString hc)
  · exact hnot (by rw [hc]; decide)
  · rcases mem_changeAll hc with hc | ⟨d, hd, hc⟩ | hc | hc
    · exact (mem_of_mem_numbered hline).2.2 c hc
    · exact hnot (hf.not_break d hd c hc)
    · exact hnot (by rw [hc]; decide)
    · exact hnot (by rw [hc]; decide)

theorem newline_notMem_newRows : ∀ row ∈ newRows f n text, '\n' ∉ row :=
  fun _ hrow hc => (isLineBreak_of_mem_newRows hf hrow hc (by decide)).2 rfl

theorem onlyFeeds_newRows (h : Text.OnlyFeeds text) : Text.OnlyFeeds (Text.unrows (newRows f n text)) := by
  intro c hc hbreak
  rcases Text.mem_unrows hc with ⟨row, hrow, hc⟩ | hc
  · exact h c (isLineBreak_of_mem_newRows hf hrow hc hbreak).1 hbreak
  · exact hc

end

/-- Without a store one reference that is too long makes the whole renumbering fail. -/
theorem renumberLines_error {n : Numbering} {text : List Char} (hw : Writable n (numbered text).length)
    {line : List Char × List Char} (hline : line ∈ numbered text) {word d : List Char}
    (hword : word ∈ referenceWords) (hd : d ∈ referenceNumbers word line.2) (hlong : Text.mostDigits < d.length) :
    ∃ e, renumberLines (lookupAssigned (n.assign ((numbered text).map .ofNumbered)))
      (n.assign ((numbered text).map .ofNumbered)) = .error e := by
  have hlookup : ∀ d, IsNumber d → lookupAssigned (n.assign ((numbered text).map .ofNumbered)) d =
      .ok (newDigits n (lineNumbers text) d) ∨
      ∃ e, lookupAssigned (n.assign ((numbered text).map .ofNumbered)) d = .error e := by
    intro d _
    by_cases hlen : Text.mostDigits < d.length
    · exact Or.inr (lookupAssigned_error hlen)
    · exact Or.inl (lookupAssigned_eq_ok hw (Nat.le_of_not_lt hlen))
  obtain ⟨e, he⟩ := updateReferences_error (plain_newDigits n _).not_latin hlookup hword hd (lookupAssigned_error hlong)
  obtain ⟨i, hi, hline⟩ := List.getElem_of_mem hline
  have hmem : (Line.ofNumbered line, n.number i) ∈ n.assign ((numbered text).map .ofNumbered) := by
    rw [Numbering.assign, List.zipIdx_map, List.map_map, List.mem_map]
    exact ⟨(line, i), List.mem_zipIdx_iff_getElem?.2 (by rw [List.getElem?_eq_getElem hi, hline]), rfl⟩
  obtain ⟨e', he'⟩ := mapM_error (g := fun x : Line × Int => do
    let body ← updateReferences (lookupAssigned (n.assign ((numbered text).map .ofNumbered))) x.1.body
    return (← Text.writeInteger x.2) ++ ' ' :: body) ⟨_, hmem, e, congrArg (· >>= _) he⟩
  exact ⟨e', congrArg (fun r => r.map Text.unrows) he'⟩

end MsxWorkbench.Program
