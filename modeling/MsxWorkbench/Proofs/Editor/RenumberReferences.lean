import MsxWorkbench.Proofs.Editor.Renumber
import MsxWorkbench.Proofs.Program.Occurrences
/-
# Renumbering and the references of a program

What becomes of a word of references with a list of numbers behind it, on any line of a program. With a
blank between them each number of a line becomes the new number of that line; without a blank the list
stays as it was (`renumber_reference`).
-/
namespace MsxWorkbench.Editor

open Program Settings
open Text (isBlank isDigit capital)

/-- The lines of a text that are not blank. -/
def filledRows (text : List Char) : List (List Char) :=
  (Text.rows text).filter fun row => !Text.allBlank row

/-- The numbered lines are the lines that are not blank, if all of these have numbers. -/
theorem getElem?_numbered {text : List Char} (hall : AllNumbered text) (i : Nat) :
    (numbered text)[i]? = (filledRows text)[i]?.bind numberAndBody? := by
  have hrows : ∀ (rows : List (List Char)),
      (∀ row ∈ rows, Text.allBlank row = false → (spanLineNumber? row).isSome = true) → ∀ i : Nat,
      (rows.filterMap numberAndBody?)[i]? =
        (rows.filter fun row => !Text.allBlank row)[i]?.bind numberAndBody? := by
    intro rows
    induction rows with
    | nil => intro _ i; simp
    | cons row rows ih =>
      intro h i
      have ih := ih fun r hr => h r (List.mem_cons_of_mem _ hr)
      cases hblank : Text.allBlank row with
      | true =>
        rw [List.filterMap_cons_none (by rw [numberAndBody?, spanLineNumber?_of_allBlank hblank]; rfl),
          List.filter_cons_of_neg (by simp [hblank]), ih]
      | false =>
        obtain ⟨line, hspan⟩ := Option.isSome_iff_exists.1 (h row List.mem_cons_self hblank)
        have hsome : numberAndBody? row = some (line.1, Text.trim line.2) := by rw [numberAndBody?, hspan]; rfl
        rw [List.filterMap_cons_some hsome, List.filter_cons_of_pos (by simp [hblank])]
        cases i with
        | zero => exact hsome.symm
        | succ i => exact ih i
  exact hrows _ hall i

/-- The lines of the renumbered text, one for each numbered line. -/
theorem Renumberable.getElem?_rows {s : State} {n : Numbering} (h : Renumberable s n) {i : Nat}
    {digits body : List Char} (hline : (numbered s.buffer.text)[i]? = some (digits, body)) :
    (Text.rows (renumber.runOn s).2.buffer.text)[i]? =
      some ((toString (n.number i)).toList ++ ' ' :: changeAll (s.newDigits n) body) := by
  have hmem := List.mem_of_getElem? hline
  have hprogram : s.program ≠ [] := by
    intro hnil
    rw [← numbered_program, hnil] at hmem
    cases hmem
  have hrows : newRows (s.newDigits n) n s.buffer.text ≠ [] := by
    intro hnil
    rw [newRows, List.map_eq_nil_iff, List.zipIdx_eq_nil_iff] at hnil
    rw [hnil] at hmem
    cases hmem
  have hplain := plain_stateDigits s n
  rw [h.text_renumber hprogram hplain fun _ _ => rfl, Text.rows_unrows hrows (newline_notMem_newRows hplain), newRows,
    List.getElem?_map, List.getElem?_zipIdx, hline, Nat.zero_add]
  rfl

/-- The number of the line at a place becomes the new number of that line. -/
theorem newDigits_of_getElem? {s : State} {n : Numbering} (hnodup : (lineNumbers s.buffer.text).Nodup)
    {d : List Char} (hascii : s.connected = true → ∀ c ∈ d, c.isDigit = true) {k : Nat}
    (hk : (lineNumbers s.buffer.text)[k]? = some (Text.digitsValue d)) :
    s.newDigits n d = (toString (n.number k)).toList := by
  obtain ⟨hlt, hget⟩ := List.getElem?_eq_some_iff.1 hk
  rw [State.newDigits, if_neg fun h => h.2 (List.all_eq_true.2 (hascii h.1)), newDigits,
    if_pos (hget ▸ List.getElem_mem hlt), ← hget, hnodup.idxOf_getElem]

/-- The blanks around a body do not touch an occurrence of a word with a list. -/
theorem trim_occurrence {word form gap list pre post : List Char} {numbers : List (List Char)}
    (hword : word ∈ referenceWords) (hform : form.map capital = word) (hlist : ListText numbers list) :
    Text.trim (pre ++ (form ++ (gap ++ (list ++ post)))) =
      Text.trimLeft pre ++ (form ++ (gap ++ (list ++ Text.trimRight post))) := by
  obtain ⟨c, letters, hletters⟩ := List.exists_cons_of_ne_nil (form_ne_nil hword hform)
  obtain ⟨front, d, hfront, hd⟩ := hlist.exists_last
  have hc : isBlank c = false := by
    have hlatin := isLatin_of_form hword hform (hletters ▸ List.mem_cons_self : c ∈ form)
    cases hb : isBlank c with
    | false => rfl
    | true => rw [Text.isLatin_of_isBlank hb] at hlatin; cases hlatin
  have hfirst : form ++ (gap ++ list) = c :: (letters ++ (gap ++ list)) := by rw [hletters]; rfl
  have hlast : form ++ (gap ++ list) = (form ++ (gap ++ front)) ++ [d] := by rw [hfront]; simp
  simpa only [List.append_assoc] using Text.trim_append hc (Text.isBlank_of_isDigit hd) hfirst hlast

/-- A word of references and a list of numbers behind it, on the line at a place of the program. If there
are blanks between them, the line at that place of the renumbered program has the word, the blanks and the
new numbers, and if there are none, the word and the same list. A number that was the number of a line,
wherever that line is, becomes the one that the same line now starts with; if the store is in use, it has
to be in ASCII digits. -/
theorem renumber_reference {s : State} {n : Numbering} (h : Renumberable s n)
    (hnodup : (lineNumbers s.buffer.text).Nodup) {i : Nat} {row digits pre form gap list post word : List Char}
    {numbers : List (List Char)} (hrow : (filledRows s.buffer.text)[i]? = some row)
    (hspan : spanLineNumber? row = some (digits, pre ++ (form ++ (gap ++ (list ++ post)))))
    (hword : word ∈ referenceWords) (hform : form.map capital = word) (hgap : ∀ c ∈ gap, isBlank c = true)
    (hlist : ListText numbers list) (hstops : ¬ GoesOn post) :
    let f := s.newDigits n
    let after := Text.rows (renumber.runOn s).2.buffer.text
    after[i]? = some ((toString (n.number i)).toList ++ ' ' :: (changeAll f (Text.trimLeft pre) ++
      (form ++ (gap ++ ((if gap = [] then list else [',', ' '].intercalate (numbers.map f)) ++
        changeAll f (Text.trimRight post)))))) ∧
    ∀ d ∈ numbers, (s.connected = true → ∀ c ∈ d, c.isDigit = true) →
      ∀ k : Nat, (lineNumbers s.buffer.text)[k]? = some (Text.digitsValue d) →
        ∃ body, after[k]? = some (f d ++ ' ' :: body) := by
  intro f after
  have hline : (numbered s.buffer.text)[i]? =
      some (digits, Text.trimLeft pre ++ (form ++ (gap ++ (list ++ Text.trimRight post)))) := by
    rw [getElem?_numbered h.all, hrow, Option.bind_some, numberAndBody?, hspan, Option.map_some,
      ← trim_occurrence hword hform hlist]
  have hstops' : ¬ GoesOn (Text.trimRight post) := by
    obtain ⟨tail, htail⟩ := Text.trimRight_prefix post
    intro hgoes
    exact hstops (htail ▸ hgoes.append tail)
  refine ⟨?_, fun d _ hascii k hk => ?_⟩
  · rw [h.getElem?_rows hline]
    by_cases hglued : gap = []
    · rw [if_pos hglued, hglued, List.nil_append, List.nil_append, changeAll_glued hword hform hlist]
    · rw [if_neg hglued, changeAll_spaced hword (plain_stateDigits s n).not_latin
        ⟨⟨hform, hglued, hgap⟩, hlist, hstops'⟩]
  · have hnew : f d = (toString (n.number k)).toList := newDigits_of_getElem? hnodup hascii hk
    rw [lineNumbers, List.getElem?_map] at hk
    obtain ⟨⟨old, body⟩, hold, -⟩ := Option.map_eq_some_iff.1 hk
    exact ⟨changeAll f body, by rw [hnew]; exact h.getElem?_rows hold⟩

theorem writable_start {count : Nat} (h : count ≤ 100) : Writable {} count := fun i hi => by
  have hnumber : ({} : Numbering).number i = 10 + i * 10 := rfl
  rw [hnumber]
  exact Text.natAbs_lt_of_lt (by omega) (by omega)

/-- The two numbers behind a word in small letters, one of a later line and one of the line itself, follow
their lines. -/
theorem renumber_reference_list :
    let text := "5 on x goto 7 ,5:x\n7 END".toList
    (Text.rows (renumber.runOn (editorOn text true)).2.buffer.text)[0]? =
        some "10 on x goto 20, 10:x".toList ∧
      (∃ body, (Text.rows (renumber.runOn (editorOn text true)).2.buffer.text)[1]? =
        some ("20".toList ++ ' ' :: body)) := by
  intro text
  have hrenumberable : Renumberable (editorOn text true) {} :=
    { numbering := rfl
      all := by unfold AllNumbered; decide
      short := by decide
      writable := writable_start (by decide)
      stored := fun _ => ⟨by decide, by decide, by decide⟩
      unstored := fun h => by cases h }
  have hspan : spanLineNumber? "5 on x goto 7 ,5:x".toList =
      some (['5'], " on x ".toList ++ ("goto".toList ++ ([' '] ++ ("7 ,5".toList ++ ":x".toList)))) := by decide
  have hmore : MoreText [['5']] ([' '] ++ ',' :: ([] ++ (['5'] ++ []))) :=
    .cons (List.all_eq_true.1 (by decide)) (by simp) ⟨by decide, List.all_eq_true.1 (by decide)⟩ .nil
  have hlist : ListText [['7'], ['5']] "7 ,5".toList :=
    .mk ⟨by decide, List.all_eq_true.1 (by decide)⟩ hmore
  have hstops : ¬ GoesOn ":x".toList :=
    not_goesOn fun c hc => by rw [← Option.some.inj hc]; decide
  have hrow := renumber_reference hrenumberable (by decide) (i := 0) rfl hspan (by decide) rfl
    (List.all_eq_true.1 (by decide)) hlist hstops
  have htarget := hrow.2 ['7'] (by decide) (fun _ => List.all_eq_true.1 (by decide)) 1 (by decide)
  have hnew : (editorOn text true).newDigits {} ['7'] = "20".toList := by decide
  exact ⟨hrow.1.trans (by decide), by rwa [hnew] at htarget⟩

/-- Right behind its word a number stays, though its line gets another one. -/
theorem renumber_glued_reference :
    (renumber.runOn (editorOn "5 GOTO7\n7 END".toList true)).2.buffer.text = "10 GOTO7\n20 END".toList := by
  decide +kernel

end MsxWorkbench.Editor
