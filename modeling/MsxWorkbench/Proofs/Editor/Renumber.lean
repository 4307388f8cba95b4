import Mathlib.Data.List.Nodup
import MsxWorkbench.Proofs.Editor.Runs
import MsxWorkbench.Proofs.Program.Renaming
import MsxWorkbench.Proofs.Program.Renumbered
import MsxWorkbench.Proofs.Settings.Renumbering
/-
# Renumbering in the editor

What the command needs to go through (`Renumberable`) and the text it then leaves
(`Renumberable.text_renumber`), with the store in use or without it. Without the store a reference that is
too long to be read stops it (`renumber_stops`).
-/
namespace MsxWorkbench.Editor

open Program Settings

/-- The numbers in the references of a program. -/
def references (text : List Char) : List (List Char) :=
  (numbered text).flatMap fun line => referenceWords.flatMap fun word => referenceNumbers word line.2

theorem mem_references {text : List Char} {line : List Char × List Char} {word d : List Char}
    (hline : line ∈ numbered text) (hw : word ∈ referenceWords) (hd : d ∈ referenceNumbers word line.2) :
    d ∈ references text :=
  List.mem_flatMap.2 ⟨line, hline, List.mem_flatMap.2 ⟨word, hw, hd⟩⟩

/-- The store takes the old and the new numbers. -/
structure Storable (n : Numbering) (text : List Char) : Prop where
  nodup : (lineNumbers text).Nodup
  old : ∀ m ∈ lineNumbers text, m < 2 ^ 63
  new : ∀ i < (numbered text).length, fitsCell (n.number i) = true

/-- What a renumbering needs to go through: settings that are numbers, a number on each line, numbers
short enough to be read and written, and what the store needs if it is in use. -/
structure Renumberable (s : State) (n : Numbering) : Prop where
  numbering : s.numbering = .ok n
  all : AllNumbered s.buffer.text
  short : ∀ line ∈ numbered s.buffer.text, line.1.length ≤ Text.mostDigits
  writable : Writable n (numbered s.buffer.text).length
  stored : s.connected = true → Storable n s.buffer.text
  unstored : s.connected = false → ∀ d ∈ references s.buffer.text, d.length ≤ Text.mostDigits

/-- An editor with a text, opened on an empty store that is in use or not. -/
def editorOn (text : List Char) (connected : Bool) : State :=
  { State.start {} with buffer := { text }, connected }

/-- The digits of a reference after renumbering. A store in use knows numbers in ASCII digits only. -/
def State.newDigits (s : State) (n : Numbering) (digits : List Char) : List Char :=
  if s.connected ∧ ¬ digits.all Char.isDigit then digits
  else Program.newDigits n (lineNumbers s.buffer.text) digits

theorem plain_stateDigits (s : State) (n : Numbering) : Plain (s.newDigits n) where
  not_latin d hd c hc := by
    rw [State.newDigits] at hc
    split at hc
    · exact Text.isLatin_of_isDigit (hd.2 c hc)
    · exact (plain_newDigits n _).not_latin d hd c hc
  not_break d hd c hc := by
    rw [State.newDigits] at hc
    split at hc
    · exact Text.isLineBreak_of_isDigit (hd.2 c hc)
    · exact (plain_newDigits n _).not_break d hd c hc

/-! ## The table -/

theorem numberPairs_assign (n : Numbering) (lines : List (List Char × List Char)) :
    numberPairs (n.assign (lines.map .ofNumbered)) =
      (lines.map fun line => Text.digitsValue line.1).zipIdx.map fun (m, i) => ((m : Int), n.number i) := by
  rw [numberPairs, Numbering.assign, List.zipIdx_map, List.zipIdx_map, List.map_map, List.map_map,
    List.filterMap_map, ← List.filterMap_eq_map]
  rfl

theorem Storable.setRenumbering {n : Numbering} {text : List Char} (h : Storable n text) (store : Store) :
    store.setRenumbering (numberPairs (n.assign ((numbered text).map .ofNumbered))) =
      .ok { store with renumbering :=
        (lineNumbers text).zipIdx.map fun (m, i) => ((m : Int), n.number i) } := by
  rw [numberPairs_assign]
  refine setRenumbering_eq_ok store (fun p hp => ?_) ?_
  · obtain ⟨⟨m, i⟩, hmem, rfl⟩ := List.mem_map.1 hp
    obtain ⟨hi, hm⟩ := List.mem_zipIdx' hmem
    rw [List.length_map] at hi
    refine ⟨?_, h.new i hi⟩
    rw [fitsCell_natCast, decide_eq_true_eq]
    exact h.old m (hm ▸ List.getElem_mem _)
  · have hfst : ((lineNumbers text).zipIdx.map fun (m, i) => ((m : Int), n.number i)).map Prod.fst =
        (lineNumbers text).map Int.ofNat := by
      conv => rhs; rw [← List.zipIdx_map_fst 0 (lineNumbers text), List.map_map]
      rw [List.map_map]
      rfl
    rw [← lineNumbers, hfst]
    exact h.nodup.map fun _ _ => Int.ofNat.inj

/-- The store finds for a reference in ASCII digits what the lines themselves would give. -/
theorem Storable.lookupStored_eq {n : Numbering} {text : List Char} (h : Storable n text) {store : Store}
    (hstore : store.renumbering = (lineNumbers text).zipIdx.map fun (m, i) => ((m : Int), n.number i))
    {d : List Char} (hd : IsNumber d) :
    lookupStored store d = .ok (if d.all Char.isDigit then newDigits n (lineNumbers text) d else d) := by
  rw [lookupStored, newNumber?_eq store hd.1 hd.2, hstore, lookup_zipIdx, newDigits]
  by_cases hall : d.all Char.isDigit = true
  · rw [if_pos hall]
    by_cases hmem : Text.digitsValue d ∈ lineNumbers text
    · rw [if_pos ⟨hall, h.old _ hmem⟩, if_pos hmem, if_pos hmem, Nat.zero_add]
      rfl
    · rw [if_neg hmem, if_neg hmem, ite_self]
      rfl
  · rw [if_neg hall, if_neg fun h => hall h.1]
    rfl

/-! ## The run -/

theorem numbered_program (s : State) : numbered s.program = numbered s.buffer.text := by
  rw [State.program, blind_numbered.trim_eq]
  exact blind_numbered.concat '\n' s.buffer.text (by decide)

theorem programLines_program (s : State) : programLines s.program = programLines s.buffer.text := by
  rw [State.program, blind_programLines.trim_eq]
  exact blind_programLines.concat '\n' s.buffer.text (by decide)

theorem assigned_eq_ok {s : State} {n : Numbering} (hnumbering : s.numbering = .ok n)
    (hall : AllNumbered s.buffer.text) (hshort : ∀ line ∈ numbered s.buffer.text, line.1.length ≤ Text.mostDigits) :
    s.assigned = .ok (n.assign ((numbered s.buffer.text).map .ofNumbered)) := by
  rw [State.assigned, hnumbering, programLines_program, programLines_eq_ok hall hshort]
  rfl

theorem isEmpty_eq_false {s : List Char} (h : s ≠ []) : s.isEmpty = false := by
  cases s with
  | nil => exact absurd rfl h
  | cons c s => rfl

/-- There is nothing to renumber in a blank text. -/
theorem renumber_blank {s : State} (h : s.program = []) : renumber.runOn s = (.ok (), s) := by
  rw [renumber, runOn_bind, runOn_get]
  simp only [h, List.isEmpty_nil, if_true]
  rfl

section
variable {s s₁ : State} {assigned : List (Line × Int)} {text : List Char} {e : EditorError}

/-- Settings that are no numbers, or a line number that is too long, stop a renumbering before anything is done. -/
theorem renumber_unread (hne : s.program ≠ []) (h : s.assigned = .error e) : renumber.runOn s = (.error e, s) := by
  rw [renumber, runOn_bind, runOn_get]
  simp only [isEmpty_eq_false hne, Bool.false_eq_true, if_false, runOn_bind, runOn_get, runOn_ofExcept, h]

variable (hne : s.program ≠ []) (hassigned : s.assigned = .ok assigned)
include hne hassigned

/-- So does a store that refuses the table. -/
theorem renumber_refused (h : s.storeNumbers assigned = .error e) : renumber.runOn s = (.error e, s) := by
  rw [renumber, runOn_bind, runOn_get]
  simp only [isEmpty_eq_false hne, Bool.false_eq_true, if_false, runOn_bind, runOn_get, runOn_ofExcept, hassigned, h]

/-- A number that cannot be read or written stops it when the table is stored. -/
theorem renumber_unwritten (hstore : s.storeNumbers assigned = .ok s₁) (h : s₁.renumbered assigned = .error e) :
    renumber.runOn s = (.error e, s₁) := by
  rw [renumber, runOn_bind, runOn_get]
  simp only [isEmpty_eq_false hne, Bool.false_eq_true, if_false, runOn_bind, runOn_get, runOn_ofExcept, runOn_set,
    hassigned, hstore, h]

/-- Otherwise the new text takes the place of the old one and is highlighted. -/
theorem renumber_written (hstore : s.storeNumbers assigned = .ok s₁) (h : s₁.renumbered assigned = .ok text) :
    renumber.runOn s = highlight.runOn { s₁ with buffer := s₁.buffer.replace text } := by
  rw [renumber, runOn_bind, runOn_get]
  simp only [isEmpty_eq_false hne, Bool.false_eq_true, if_false, runOn_bind, runOn_get, runOn_ofExcept, runOn_set,
    hassigned, hstore, h, edit, runOn_modify]

theorem text_renumber_written (hstore : s.storeNumbers assigned = .ok s₁) (h : s₁.renumbered assigned = .ok text) :
    (renumber.runOn s).2.buffer.text = text := by
  rw [renumber_written hne hassigned hstore h, keepsBuffer_highlight]
  exact replace_text _ _

end

theorem storeNumbers_unconnected {s : State} (hc : s.connected = false) (assigned : List (Line × Int)) :
    s.storeNumbers assigned = .ok s := by
  rw [State.storeNumbers, hc]
  rfl

/-- The text that a renumbering leaves, with the references changed by a function that agrees with the
command on the numbers in them. -/
theorem Renumberable.text_renumber {s : State} {n : Numbering} (h : Renumberable s n) (hne : s.program ≠ [])
    {f : List Char → List Char} (hf : Plain f) (hagrees : ∀ d ∈ references s.buffer.text, s.newDigits n d = f d) :
    (renumber.runOn s).2.buffer.text = Text.unrows (newRows f n s.buffer.text) := by
  have hassigned := assigned_eq_ok h.numbering h.all h.short
  have hlength : ((numbered s.buffer.text).map Line.ofNumbered).length = (numbered s.buffer.text).length :=
    List.length_map _
  -- a look-up that answers as the command does gives the new rows
  have hrows : ∀ lookup : List Char → Except Text.IntegerError (List Char),
      (∀ d ∈ references s.buffer.text, IsNumber d → lookup d = .ok (s.newDigits n d)) →
      renumberLines lookup (n.assign ((numbered s.buffer.text).map .ofNumbered)) =
        .ok (Text.unrows (newRows f n s.buffer.text)) := by
    intro lookup hlookup
    rw [← map_newRow_assign]
    refine renumberLines_eq_ok hf.not_latin (Writable.assign (hlength ▸ h.writable)) fun line hline word hw d hd => ?_
    obtain ⟨i, hi, -⟩ := mem_assign_iff.1 hline
    obtain ⟨old, hold, heq⟩ := List.mem_map.1 (List.mem_of_getElem? hi)
    rw [← heq] at hd
    have hmem := mem_references hold hw hd
    rw [hlookup d hmem (mem_referenceNumbers hw hd).1, hagrees d hmem]
  -- the numbers are stored, or there is no store and the state stays
  cases hc : s.connected with
  | true =>
    have hstored := h.stored hc
    obtain ⟨s₁, hstore, htext⟩ : ∃ s₁, s.storeNumbers (n.assign ((numbered s.buffer.text).map .ofNumbered)) = .ok s₁ ∧
        s₁.renumbered (n.assign ((numbered s.buffer.text).map .ofNumbered)) =
          .ok (Text.unrows (newRows f n s.buffer.text)) := by
      refine ⟨_, by rw [State.storeNumbers, hc, hstored.setRenumbering s.store]; rfl, ?_⟩
      rw [State.renumbered]
      simp only [if_true]
      rw [hrows _ fun d _ hd => ?_]
      · rfl
      · rw [hstored.lookupStored_eq rfl hd, State.newDigits, hc]
        by_cases hall : d.all Char.isDigit = true <;> simp [hall]
    exact text_renumber_written hne hassigned hstore htext
  | false =>
    refine text_renumber_written hne hassigned (storeNumbers_unconnected hc _) ?_
    rw [State.renumbered, hc]
    simp only [Bool.false_eq_true, if_false]
    rw [hrows _ fun d hmem _ => ?_]
    · rfl
    · rw [lookupAssigned_eq_ok h.writable (h.unstored hc d hmem), State.newDigits, hc]
      rfl

/-- Without the store, a reference of more than 4300 digits stops a renumbering, which then has changed
nothing. -/
theorem renumber_stops {s : State} {n : Numbering} (hnumbering : s.numbering = .ok n)
    (hall : AllNumbered s.buffer.text) (hshort : ∀ line ∈ numbered s.buffer.text, line.1.length ≤ Text.mostDigits)
    (hwritable : Writable n (numbered s.buffer.text).length) (hc : s.connected = false) {d : List Char}
    (hd : d ∈ references s.buffer.text) (hlong : Text.mostDigits < d.length) :
    ∃ e, renumber.runOn s = (.error (.number e), s) := by
  obtain ⟨line, hline, hd⟩ := List.mem_flatMap.1 hd
  obtain ⟨word, hword, hd⟩ := List.mem_flatMap.1 hd
  obtain ⟨e, he⟩ := renumberLines_error hwritable hline hword hd hlong
  have hne : s.program ≠ [] := by
    intro h
    rw [← numbered_program, h] at hline
    cases hline
  refine ⟨e, renumber_unwritten hne (assigned_eq_ok hnumbering hall hshort) (storeNumbers_unconnected hc _) ?_⟩
  rw [State.renumbered, hc]
  simp only [Bool.false_eq_true, if_false, he]
  rfl

end MsxWorkbench.Editor
