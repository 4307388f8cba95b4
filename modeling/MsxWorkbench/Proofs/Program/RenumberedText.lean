import MsxWorkbench.Proofs.Program.ChangedReferences
import MsxWorkbench.Proofs.Program.RenumberedLines
/-
# Reading a renumbered program

The lines of a program as they were read, with numbers or without (`bodies`, `numbers_of_programLines`), and what is read
from the text that a renumbering has written: the new numbers and the bodies with their references changed
(`programLines_newText`). The new numbers are their own new numbers, so a reference that has become one of them stays
when the text is renumbered again (`newReference_renewed`).
-/
namespace MsxWorkbench.Program

/-! ## The lines of a text -/

/-- The bodies of the lines of a text that are not blank. -/
def bodies (text : List Char) : List (List Char) :=
  ((Text.rows text).filter fun row => !Text.allBlank row).map fun row => Text.trim (dropNumber row)

/-- The numbers in the references of a text, on lines with numbers and without. -/
def allReferences (text : List Char) : List (List Char) :=
  (bodies text).flatMap fun body => referenceWords.flatMap fun word => referenceNumbers word body

/-- The numbers in the references of lines. -/
def lineReferences (assigned : List (Line × Int)) : List (List Char) :=
  assigned.flatMap fun line => referenceWords.flatMap fun word => referenceNumbers word line.1.body

theorem mem_lineReferences {assigned : List (Line × Int)} {line : Line × Int} {word d : List Char}
    (hline : line ∈ assigned) (hw : word ∈ referenceWords) (hd : d ∈ referenceNumbers word line.1.body) :
    d ∈ lineReferences assigned :=
  List.mem_flatMap.2 ⟨line, hline, List.mem_flatMap.2 ⟨word, hw, hd⟩⟩

theorem mem_of_mem_body {row : List Char} (hrow : '\n' ∉ row) {c : Char} (h : c ∈ Text.trim (dropNumber row)) : c ∈ row := by
  rw [dropNumber_eq hrow] at h
  obtain ⟨lead, gap, heq, -⟩ := exists_splitNumber hrow
  rw [heq]
  simp [Text.mem_of_mem_trim h]

theorem number_of_read {row : List Char} {line : Line} (h : Line.read row = .ok line) :
    line.number = (numberAndBody? row).map fun line => Text.digitsValue line.1 := by
  unfold Line.read at h
  unfold numberAndBody?
  cases hspan : spanLineNumber? row with
  | none =>
    rw [hspan] at h
    cases h
    rfl
  | some span =>
    obtain ⟨digits, rest⟩ := span
    rw [hspan] at h
    simp only [Text.readDigits] at h
    split at h
    · cases h
    · cases h
      rfl

/-- The numbers of the lines are the line numbers of the text. -/
theorem numbers_of_programLines {text : List Char} {lines : List Line} (h : programLines text = .ok lines) :
    lines.filterMap Line.number = lineNumbers text := by
  rw [programLines_eq, ← mapM_filter_eq] at h
  have hnumbers := map_eq_of_mapM (fun _ _ => number_of_read) h
  have hrows : lines.filterMap Line.number = (lines.map Line.number).filterMap id := by
    rw [List.filterMap_map]
    rfl
  rw [hrows, hnumbers, List.filterMap_map, List.filterMap_filter, lineNumbers, numbered, List.map_filterMap]
  refine List.filterMap_congr fun row _ => ?_
  cases hblank : Text.allBlank row with
  | true => simp [numberAndBody?, spanLineNumber?_of_allBlank hblank]
  | false => rfl

theorem body_mem_bodies {text : List Char} {lines : List Line} (h : programLines text = .ok lines) {line : Line}
    (hline : line ∈ lines) : line.body ∈ bodies text := by
  rw [bodies, ← body_of_programLines h]
  exact List.mem_map_of_mem hline

theorem getElem?_assign (n : Numbering) (lines : List Line) (i : Nat) :
    (n.assign lines)[i]? = lines[i]?.map fun line => (line, n.number i) := by
  rw [Numbering.assign, List.getElem?_map, List.getElem?_zipIdx, Option.map_map, Nat.zero_add]
  rfl

/-- Lines that take the places of others get their new numbers. -/
theorem assign_map (n : Numbering) (lines : List Line) (g : Line × Int → Line) :
    n.assign ((n.assign lines).map g) = (n.assign lines).map fun line => (g line, line.2) := by
  refine List.ext_getElem? fun i => ?_
  rw [getElem?_assign, List.getElem?_map, List.getElem?_map, getElem?_assign]
  cases lines[i]? with
  | none => rfl
  | some line => rfl

theorem snd_assign (n : Numbering) (lines : List Line) :
    (n.assign lines).map Prod.snd = (List.range lines.length).map n.number := by
  rw [Numbering.assign, List.map_map, List.range_eq_range', ← List.zipIdx_map_snd 0 lines, List.map_map]
  rfl

theorem length_bodies {text : List Char} {lines : List Line} (h : programLines text = .ok lines) :
    (bodies text).length = lines.length := by
  rw [bodies, ← body_of_programLines h, List.length_map]

/-- What holds of the new numbers of all places in a text holds of the new numbers of its lines. -/
theorem forall_assign {text : List Char} {lines : List Line} (h : programLines text = .ok lines) {n : Numbering}
    {P : Int → Prop} (hP : ∀ i < (bodies text).length, P (n.number i)) : ∀ line ∈ n.assign lines, P line.2 := by
  intro line hline
  obtain ⟨i, hi, hnumber⟩ := mem_assign_iff.1 hline
  rw [← hnumber]
  exact hP i (length_bodies h ▸ (List.getElem?_eq_some_iff.1 hi).1)

theorem lineReferences_assign {text : List Char} {lines : List Line} (h : programLines text = .ok lines) (n : Numbering) :
    lineReferences (n.assign lines) = allReferences text := by
  have hbodies : bodies text = (n.assign lines).map fun line => line.1.body := by
    rw [bodies, ← body_of_programLines h, Numbering.assign, List.map_map]
    conv => lhs; rw [← List.zipIdx_map_fst 0 lines, List.map_map]
    rfl
  rw [allReferences, hbodies, List.flatMap_map]
  rfl

/-- The bodies of a text have no line feeds, no blanks around them and no characters that the text does not have. -/
theorem of_mem_bodies {text body : List Char} (h : body ∈ bodies text) :
    '\n' ∉ body ∧ Text.trim body = body ∧ ∀ c ∈ body, c ∈ text := by
  obtain ⟨row, hrow, rfl⟩ := List.mem_map.1 h
  have hchar : ∀ c ∈ row, c ∈ text ∧ c ≠ '\n' := fun c hc => Text.mem_of_mem_rows (List.mem_of_mem_filter hrow) hc
  have hfeeds : '\n' ∉ row := fun hc => (hchar '\n' hc).2 rfl
  refine ⟨fun hc => hfeeds (mem_of_mem_body hfeeds hc), Text.blind_trim.trim_eq _, fun c hc => ?_⟩
  exact (hchar c (mem_of_mem_body hfeeds hc)).1

theorem fst_numberPairs (n : Numbering) (lines : List Line) :
    (numberPairs (n.assign lines)).map Prod.fst = (lines.filterMap Line.number).map Int.ofNat := by
  have hzip : lines.filterMap Line.number = lines.zipIdx.filterMap fun entry => entry.1.number := by
    conv => lhs; rw [← List.zipIdx_map_fst 0 lines, List.filterMap_map]
    rfl
  rw [hzip, numberPairs, Numbering.assign, List.filterMap_map, List.map_filterMap, List.map_filterMap]
  refine List.filterMap_congr fun entry _ => ?_
  cases hnumber : entry.1.number with
  | none => simp [hnumber]
  | some old => simp [hnumber]

/-- The numbers in references are runs of digits of the text. -/
theorem of_mem_allReferences {text d : List Char} (h : d ∈ allReferences text) : IsNumber d ∧ ∀ c ∈ d, c ∈ text := by
  obtain ⟨body, hbody, h⟩ := List.mem_flatMap.1 h
  obtain ⟨word, hw, hd⟩ := List.mem_flatMap.1 h
  obtain ⟨hnumber, hchars⟩ := mem_referenceNumbers hw hd
  exact ⟨hnumber, fun c hc => (of_mem_bodies hbody).2.2 c (hchars c hc)⟩

/-! ## New numbers of old ones -/

theorem mem_of_newNumber? {assigned : List (Line × Int)} {v : Nat} {m : Int} (h : newNumber? assigned v = some m) :
    ∃ line ∈ assigned, line.1.number = some v ∧ line.2 = m := by
  obtain ⟨line, hline, rfl⟩ := Option.map_eq_some_iff.1 h
  have hnumber := List.find?_some hline
  exact ⟨line, List.mem_of_find?_eq_some hline, beq_iff_eq.1 hnumber, rfl⟩

theorem newNumber?_eq_none_iff {assigned : List (Line × Int)} {v : Nat} :
    newNumber? assigned v = none ↔ ∀ line ∈ assigned, line.1.number ≠ some v := by
  rw [newNumber?, Option.map_eq_none_iff, List.find?_eq_none]
  exact forall₂_congr fun line _ => not_congr beq_iff_eq

/-- A number has no new one just if the text has no line with it. -/
theorem newNumber?_assign_eq_none_iff {text : List Char} {lines : List Line} (h : programLines text = .ok lines)
    (n : Numbering) (v : Nat) : newNumber? (n.assign lines) v = none ↔ v ∉ lineNumbers text := by
  rw [← numbers_of_programLines h, newNumber?_eq_none_iff, List.mem_filterMap]
  constructor
  · rintro hnone ⟨line, hline, hnumber⟩
    obtain ⟨i, hi⟩ := List.getElem?_of_mem hline
    exact hnone (line, n.number i) (mem_assign_iff.2 ⟨i, hi, rfl⟩) hnumber
  · intro hnone line hline hnumber
    obtain ⟨i, hi, -⟩ := mem_assign_iff.1 hline
    exact hnone ⟨line.1, List.mem_of_getElem? hi, hnumber⟩

/-- A reference to no line stays. -/
theorem newReference_of_none (stored : Bool) {assigned : List (Line × Int)} {d : List Char}
    (h : newNumber? assigned (Text.digitsValue d) = none) : newReference stored assigned d = d := by
  rw [newReference, h, Option.map_none, Option.getD_none, ite_self]

/-- In a reference with ASCII digits it makes no difference where its number is looked up. -/
theorem newReference_of_ascii (stored : Bool) (assigned : List (Line × Int)) {d : List Char}
    (h : ∀ c ∈ d, c.isDigit = true) : newReference stored assigned d = newReference false assigned d := by
  rw [newReference, newReference, List.all_eq_true.2 h, Bool.not_true, Bool.and_false, Bool.and_false]

/-- Where every number can be written, a reference of at most 4300 digits is looked up among the lines. -/
theorem lookupAssigned_eq_newReference {assigned : List (Line × Int)} {d : List Char}
    (hw : AllWritable assigned) (hd : d.length ≤ Text.mostDigits) :
    lookupAssigned assigned d = .ok (newReference false assigned d) := by
  rcases lookupAssigned_cases assigned d with hok | ⟨e, he⟩
  · exact hok
  · have hread : Text.readDigits d = .ok (Text.digitsValue d) := if_neg (Nat.not_lt_of_le hd)
    rw [lookupAssigned, hread] at he
    simp only [bind, Except.bind] at he
    split at he
    · rename_i hfind
      rw [Text.writeInteger_eq (hw _ (List.mem_of_find?_eq_some hfind))] at he
      cases he
    · cases he

/-! ## The new text -/

/-- The text that the lines become, with the references looked up in a store or among the lines. -/
def newText (stored : Bool) (assigned : List (Line × Int)) : List Char :=
  Text.unrows (assigned.map (newRow (newReference stored assigned)))

theorem newText_of_ascii {assigned : List (Line × Int)} (h : ∀ d ∈ lineReferences assigned, ∀ c ∈ d, c.isDigit = true)
    (stored : Bool) : newText stored assigned = newText false assigned := by
  refine congrArg Text.unrows (List.map_congr_left fun line hline => ?_)
  have hbody : changeAll (newReference stored assigned) line.1.body = changeAll (newReference false assigned) line.1.body :=
    changeAll_congr (numeric_newReference _ _).not_latin (numeric_newReference _ _).not_latin
      fun word hw d hd => newReference_of_ascii stored assigned (h d (mem_lineReferences hline hw hd))
  simp only [newRow, hbody]

/-- Lines that a renumbering can write and read: bodies without line feeds and without blanks around them, and new numbers
that are not negative. -/
structure Legible (assigned : List (Line × Int)) : Prop where
  feeds : ∀ line ∈ assigned, '\n' ∉ line.1.body
  trimmed : ∀ line ∈ assigned, Text.trim line.1.body = line.1.body
  nonneg : ∀ line ∈ assigned, 0 ≤ line.2

theorem legible_assign {text : List Char} {lines : List Line} (h : programLines text = .ok lines) {n : Numbering}
    (hnonneg : ∀ i, 0 ≤ n.number i) : Legible (n.assign lines) := by
  have hbody : ∀ line ∈ n.assign lines, line.1.body ∈ bodies text := by
    intro line hline
    obtain ⟨i, hi, -⟩ := mem_assign_iff.1 hline
    exact body_mem_bodies h (List.mem_of_getElem? hi)
  refine ⟨fun line hline => (of_mem_bodies (hbody line hline)).1,
    fun line hline => (of_mem_bodies (hbody line hline)).2.1, fun line hline => ?_⟩
  obtain ⟨i, -, hnumber⟩ := mem_assign_iff.1 hline
  rw [← hnumber]
  exact hnonneg i

theorem newline_notMem_newRow {f : List Char → List Char} (hf : Numeric f) {line : Line × Int}
    (hbody : '\n' ∉ line.1.body) : '\n' ∉ newRow f line := by
  rw [newRow, List.mem_append, List.mem_cons]
  rintro (hmem | hblank | hmem)
  · have hbreak := Text.isLineBreak_of_mem_toString hmem
    revert hbreak
    decide
  · cases hblank
  · rcases mem_changeAll hmem with hmem | ⟨d, hd, hmem⟩ | hcomma | hblank
    · exact hbody hmem
    · rcases hf.mem hd hmem with hdigit | hsign
      · revert hdigit
        decide
      · cases hsign
    · cases hcomma
    · cases hblank

section
variable {assigned : List (Line × Int)} (h : Legible assigned) (stored : Bool)
include h

theorem isNumber_newReference : ∀ d, IsNumber d → IsNumber (newReference stored assigned d) := by
  intro d hd
  rw [newReference]
  split
  · exact hd
  · cases hnew : newNumber? assigned (Text.digitsValue d) with
    | none => exact hd
    | some m =>
      obtain ⟨line, hline, -, rfl⟩ := mem_of_newNumber? hnew
      exact isNumber_toString (h.nonneg line hline)

theorem newline_notMem_map_newRow :
    ∀ row ∈ assigned.map (newRow (newReference stored assigned)), '\n' ∉ row := by
  intro row hrow
  obtain ⟨line, hline, rfl⟩ := List.mem_map.1 hrow
  exact newline_notMem_newRow (numeric_newReference stored assigned) (h.feeds line hline)

/-- All lines of the new text have numbers. -/
theorem numbered_newText : numbered (newText stored assigned) =
    assigned.map fun line => ((toString line.2).toList, changeAll (newReference stored assigned) line.1.body) := by
  have hf := isNumber_newReference h stored
  rw [numbered, newText, Text.filterMap_rows_unrows rfl (newline_notMem_map_newRow h stored),
    List.filterMap_map, ← List.filterMap_eq_map]
  refine List.filterMap_congr fun line hline => ?_
  rw [Function.comp_apply, numberAndBody?, newRow, spanLineNumber?_number (isNumber_toString (h.nonneg line hline)),
    Option.map_some]
  simp only [Text.blind_trim.cons ' ' _ rfl, trim_changeAll hf (h.trimmed line hline), Function.comp_apply]

theorem lineNumbers_newText : lineNumbers (newText stored assigned) = assigned.map fun line => line.2.toNat := by
  rw [lineNumbers, numbered_newText h, List.map_map]
  exact List.map_congr_left fun line hline => Text.digitsValue_toString (h.nonneg line hline)

theorem allNumbered_newText : AllNumbered (newText stored assigned) := by
  intro row hrow hfilled
  by_cases hne : assigned = []
  · subst hne
    rw [List.mem_singleton.1 hrow] at hfilled
    cases hfilled
  · rw [newText, Text.rows_unrows (List.map_eq_nil_iff.not.2 hne) (newline_notMem_map_newRow h stored)] at hrow
    obtain ⟨line, hline, rfl⟩ := List.mem_map.1 hrow
    rw [newRow, spanLineNumber?_number (isNumber_toString (h.nonneg line hline)), Option.isSome_some]

end

/-! ## Renumbering again -/

/-- The lines as they stand in the new text, where they keep their numbers. -/
def renewed (stored : Bool) (assigned : List (Line × Int)) : List (Line × Int) :=
  assigned.map fun line => (⟨some line.2.toNat, changeAll (newReference stored assigned) line.1.body⟩, line.2)

theorem assign_renewed (stored : Bool) (n : Numbering) (lines : List Line) :
    n.assign ((renewed stored (n.assign lines)).map Prod.fst) = renewed stored (n.assign lines) := by
  rw [renewed, List.map_map]
  exact assign_map n lines _

section
variable {assigned : List (Line × Int)} (h : Legible assigned) (stored : Bool)
include h

theorem numberPairs_renewed : numberPairs (renewed stored assigned) = assigned.map fun line => (line.2, line.2) := by
  rw [numberPairs, renewed, List.filterMap_map, ← List.filterMap_eq_map]
  refine List.filterMap_congr fun line hline => ?_
  simp only [Function.comp_apply, Option.map_some, Int.toNat_of_nonneg (h.nonneg line hline)]

/-- A new number is the new number of itself. -/
theorem newNumber?_renewed {line : Line × Int} (hline : line ∈ assigned) :
    newNumber? (renewed stored assigned) line.2.toNat = some line.2 := by
  cases hnew : newNumber? (renewed stored assigned) line.2.toNat with
  | none => exact absurd rfl (newNumber?_eq_none_iff.1 hnew _ (List.mem_map_of_mem hline))
  | some m =>
    obtain ⟨entry, hentry, hnumber, rfl⟩ := mem_of_newNumber? hnew
    obtain ⟨other, hother, rfl⟩ := List.mem_map.1 hentry
    have hsame : other.2.toNat = line.2.toNat := Option.some.inj hnumber
    have hleft := h.nonneg other hother
    have hright := h.nonneg line hline
    exact congrArg some (by omega : other.2 = line.2)

/-- A reference that has got the new number of a line keeps it. -/
theorem newReference_renewed {d : List Char} (hd : newNumber? assigned (Text.digitsValue d) ≠ none) :
    newReference stored (renewed stored assigned) (newReference stored assigned d) = newReference stored assigned d := by
  cases hstored : stored && !d.all Char.isDigit with
  | true => simp only [newReference, hstored, if_true]
  | false =>
    obtain ⟨m, hm⟩ := Option.ne_none_iff_exists'.1 hd
    obtain ⟨line, hline, -, rfl⟩ := mem_of_newNumber? hm
    have hnonneg := h.nonneg line hline
    have hself : newReference stored assigned d = (toString line.2).toList := by
      simp only [newReference, hstored, Bool.false_eq_true, if_false, hm, Option.map_some, Option.getD_some]
    have hascii : (toString line.2).toList.all Char.isDigit = true :=
      List.all_eq_true.2 fun c hc => Text.isDigit_of_mem_toString hnonneg hc
    rw [hself, newReference, hascii, Text.digitsValue_toString hnonneg, newNumber?_renewed h stored hline]
    simp

/-- Where every reference is to a line, the new lines become the same text when they are renumbered again. -/
theorem newText_renewed (hrefs : ∀ d ∈ lineReferences assigned, newNumber? assigned (Text.digitsValue d) ≠ none) :
    newText stored (renewed stored assigned) = newText stored assigned := by
  have hf := isNumber_newReference h stored
  have hagain := numeric_newReference stored (renewed stored assigned)
  have hbody : ∀ line ∈ assigned,
      changeAll (newReference stored (renewed stored assigned)) (changeAll (newReference stored assigned) line.1.body) =
        changeAll (newReference stored assigned) line.1.body := by
    intro line hline
    rw [changeAll_changeAll hf hagain.not_latin]
    refine changeAll_congr (fun d hd => hagain.not_latin _ (hf d hd)) (not_latin_of_isNumber hf) fun word hw d hd => ?_
    exact newReference_renewed h stored (hrefs d (mem_lineReferences hline hw hd))
  have hrows : (renewed stored assigned).map (newRow (newReference stored (renewed stored assigned))) =
      assigned.map (newRow (newReference stored assigned)) := by
    generalize newReference stored (renewed stored assigned) = g at hbody ⊢
    rw [renewed, List.map_map]
    exact List.map_congr_left fun line hline => by simp only [Function.comp_apply, newRow, hbody line hline]
  rw [newText, hrows, newText]

/-- The references of lines with changed bodies are the changed references, whatever numbers the lines have. -/
theorem exists_of_mem_changed {number : Line × Int → Option Nat} {d : List Char}
    (hd : d ∈ lineReferences (assigned.map fun line =>
      (⟨number line, changeAll (newReference stored assigned) line.1.body⟩, line.2))) :
    ∃ old ∈ lineReferences assigned, d = newReference stored assigned old := by
  obtain ⟨entry, hentry, hd⟩ := List.mem_flatMap.1 hd
  obtain ⟨word, hword, hd⟩ := List.mem_flatMap.1 hd
  obtain ⟨line, hline, rfl⟩ := List.mem_map.1 hentry
  dsimp only at hd
  rw [referenceNumbers_changeAll (isNumber_newReference h stored) hword] at hd
  obtain ⟨old, hold, rfl⟩ := List.mem_map.1 hd
  exact ⟨old, mem_lineReferences hline hword hold, rfl⟩

variable (hw : AllWritable assigned)
include hw

/-- The new text is read as the new lines. -/
theorem programLines_newText : programLines (newText stored assigned) = .ok ((renewed stored assigned).map Prod.fst) := by
  rw [programLines_eq_ok (allNumbered_newText h stored), numbered_newText h, renewed, List.map_map, List.map_map]
  · refine congrArg Except.ok (List.map_congr_left fun line hline => ?_)
    simp only [Function.comp_apply, Line.ofNumbered, Text.digitsValue_toString (h.nonneg line hline)]
  · rw [numbered_newText h]
    intro entry hentry
    obtain ⟨line, hline, rfl⟩ := List.mem_map.1 hentry
    exact Text.length_toString_le (h.nonneg line hline) (hw line hline)

theorem bodies_newText : bodies (newText stored assigned) =
    assigned.map fun line => changeAll (newReference stored assigned) line.1.body := by
  rw [bodies, ← body_of_programLines (programLines_newText h stored hw), renewed, List.map_map, List.map_map]
  simp only [Function.comp_def]

/-- Without the store, a reference that gets the new number of a line is not too long. -/
theorem length_newReference {d : List Char}
    (hd : newNumber? assigned (Text.digitsValue d) ≠ none ∨ d.length ≤ Text.mostDigits) :
    (newReference false assigned d).length ≤ Text.mostDigits := by
  cases hm : newNumber? assigned (Text.digitsValue d) with
  | none =>
    rw [newReference_of_none false hm]
    exact hd.resolve_left fun hne => hne hm
  | some m =>
    obtain ⟨target, htarget, -, rfl⟩ := mem_of_newNumber? hm
    simp only [newReference, Bool.false_and, Bool.false_eq_true, if_false, hm, Option.map_some, Option.getD_some]
    exact Text.length_toString_le (h.nonneg target htarget) (hw target htarget)

theorem length_of_mem_renewed (hrefs : ∀ d ∈ lineReferences assigned, newNumber? assigned (Text.digitsValue d) ≠ none) :
    ∀ d ∈ lineReferences (renewed false assigned), d.length ≤ Text.mostDigits := by
  intro d hd
  obtain ⟨old, hold, rfl⟩ := exists_of_mem_changed h false hd
  exact length_newReference h hw (.inl (hrefs old hold))

end

/-- The numbers of the new text are the new numbers, from the first place on. -/
theorem lineNumbers_newText_assign {text : List Char} {lines : List Line} (hlines : programLines text = .ok lines)
    {n : Numbering} (hnonneg : ∀ i, 0 ≤ n.number i) (stored : Bool) :
    lineNumbers (newText stored (n.assign lines)) = (List.range (bodies text).length).map fun i => (n.number i).toNat := by
  have hnew := congrArg (List.map Int.toNat) (snd_assign n lines)
  rw [List.map_map, List.map_map] at hnew
  rw [lineNumbers_newText (legible_assign hlines hnonneg), length_bodies hlines]
  exact hnew

end MsxWorkbench.Program
