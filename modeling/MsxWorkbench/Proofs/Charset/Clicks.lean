import Mathlib.Data.List.Infix
import MsxWorkbench.Charset.Picker
import MsxWorkbench.Proofs.Text.Hexadecimal
/-
# Clicks in the table of characters

A click in a cell adds its text to the buffer, or an escape with the code of the cell if it holds no character. A table
has two ways to say so, an empty text and the replacement character U+FFFD. The picker knows the first one. In place of
the second one it looks for the six characters of its escape, so that a replacement character is added as it stands, and
the six characters are not (`clicks_add_iff`).
-/
namespace MsxWorkbench.Charset

/-! ## The cells of the table -/

/-- A pixel of the table, which is 32 cells wide and 8 cells high. -/
structure Pixel where
  x : Fin 512
  y : Fin 128

/-- The code of the cell in which a pixel is. -/
def Pixel.code (pixel : Pixel) : Nat := 32 * (pixel.y.val / 16) + pixel.x.val / 16

theorem Pixel.code_lt (pixel : Pixel) : pixel.code < 256 := by
  have hx := pixel.x.isLt
  have hy := pixel.y.isLt
  rw [Pixel.code]
  omega

theorem Pixel.exists_cell {table : List String} (hsize : table.length = 256) (pixel : Pixel) :
    ∃ cell, table[pixel.code]? = some cell :=
  ⟨_, List.getElem?_eq_getElem (hsize ▸ pixel.code_lt)⟩

/-- The character that stands for one that is not there. -/
def replacement : String := String.ofList (single 0xFFFD)

/-- What a click should add: the text of the cell, or an escape with two hexadecimal digits for its code if the cell is
empty or holds the replacement character. -/
def Adds (cell : String) (code : Nat) (added : String) : Prop :=
  if cell = "" ∨ cell = replacement then ∃ digits, added.toList = ['\\', 'x'] ++ digits ∧ Text.IsHex 2 code digits
  else added = cell

/-- What a click adds. -/
def written (cell : String) (code : Nat) : String :=
  if cell = "" ∨ cell = "\\uFFFD" then Picker.codeText code else cell

theorem toList_codeText (code : Nat) :
    (Picker.codeText code).toList = ['\\', 'x'] ++ Text.upper (Text.hexDigits 2 code) := by
  rw [Picker.codeText, String.toList_ofList]
  rfl

theorem codeText_ne (code : Nat) : Picker.codeText code ≠ "\\uFFFD" := by
  intro h
  have hlist := congrArg String.toList h
  rw [toList_codeText] at hlist
  simp at hlist

/-- A click adds what it should unless the cell holds the replacement character or the characters of its escape. -/
theorem adds_written_iff (cell : String) {code : Nat} (hcode : code < 256) :
    Adds cell code (written cell code) ↔ cell ≠ replacement ∧ cell ≠ "\\uFFFD" := by
  have hescape : ∃ digits, (Picker.codeText code).toList = ['\\', 'x'] ++ digits ∧ Text.IsHex 2 code digits :=
    ⟨_, toList_codeText code, Text.isHex_upper_hexDigits 2 code hcode⟩
  by_cases hempty : cell = ""
  · subst hempty
    rw [Adds, if_pos (Or.inl rfl), written, if_pos (Or.inl rfl)]
    exact iff_of_true hescape (by decide)
  by_cases hreplacement : cell = replacement
  · subst hreplacement
    rw [Adds, if_pos (Or.inr rfl), written, if_neg (by decide)]
    refine iff_of_false ?_ fun h => h.1 rfl
    rintro ⟨digits, hdigits, -⟩
    exact absurd (List.cons.inj hdigits).1 (by decide)
  rw [Adds, if_neg (not_or.2 ⟨hempty, hreplacement⟩), written]
  by_cases hsix : cell = "\\uFFFD"
  · rw [if_pos (Or.inr hsix), hsix]
    exact iff_of_false (codeText_ne code) fun h => h.2 rfl
  · rw [if_neg (not_or.2 ⟨hempty, hsix⟩)]
    exact iff_of_true rfl ⟨hreplacement, hsix⟩

/-! ## Clicks -/

namespace Picker

/-- The picker after a click. -/
def clicked (p : Picker) (pixel : Pixel) : Picker := (p.click pixel.x.val pixel.y.val).1

/-- The picker after several clicks. -/
def after (p : Picker) (pixels : List Pixel) : Picker := pixels.foldl clicked p

theorem after_concat (p : Picker) (pixels : List Pixel) (pixel : Pixel) :
    p.after (pixels ++ [pixel]) = (p.after pixels).clicked pixel := by
  rw [after, List.foldl_append]
  rfl

theorem fdiv_pixel (pixel : Pixel) :
    (pixel.y.val : Int).fdiv 16 * 32 + (pixel.x.val : Int).fdiv 16 = (pixel.code : Int) := by
  rw [Int.fdiv_eq_ediv_of_nonneg _ (by decide), Int.fdiv_eq_ediv_of_nonneg _ (by decide), Pixel.code]
  omega

section
variable {p : Picker} {table : List String} (htable : p.table = .arr (table.map .str))
include htable

/-- A click changes the buffer only, and it does not fail. -/
theorem click_eq {pixel : Pixel} {cell : String} (hcell : table[pixel.code]? = some cell) :
    p.click pixel.x.val pixel.y.val = ({ p with buffer := p.buffer ++ written cell pixel.code }, none) := by
  have hcode := pixel.code_lt
  have hitem : itemAt pixel.code p.table = .ok (.str cell) := by
    rw [htable, itemAt, List.getElem?_map, hcell]
    rfl
  have hmark : (Json.isNothing (.str cell) || Json.str cell == unmapped) = true ↔ cell = "" ∨ cell = "\\uFFFD" := by
    change (cell.isEmpty || cell == "\\uFFFD") = true ↔ _
    simp
  unfold click
  rw [fdiv_pixel]
  dsimp only
  rw [if_neg (by simp; omega), Int.toNat_natCast, hitem]
  dsimp only
  rw [written]
  by_cases hcase : cell = "" ∨ cell = "\\uFFFD"
  · rw [if_pos (hmark.2 hcase), if_pos hcase]
  · rw [if_neg fun h => hcase (hmark.1 h), if_neg hcase]

/-- Clicks leave the table as it is. -/
theorem table_after (hsize : table.length = 256) (pixels : List Pixel) :
    (p.after pixels).table = .arr (table.map .str) := by
  induction pixels generalizing p with
  | nil => exact htable
  | cons pixel pixels ih =>
    obtain ⟨cell, hcell⟩ := pixel.exists_cell hsize
    refine ih ?_
    rw [clicked, click_eq htable hcell]
    exact htable

/-- **Clicks add the texts of cells.** Each of several clicks in a table of 256 texts adds the text of its cell, or an
escape if that is empty or consists of the six characters `\uFFFD`. So the buffer grows click by click by what should be
added exactly if no click is in a cell with these characters or with the replacement character. -/
theorem clicks_add_iff (hsize : table.length = 256) (pixels : List Pixel) :
    (∀ front pixel, front ++ [pixel] <+: pixels → ∃ cell, table[pixel.code]? = some cell ∧
      ((p.after front).click pixel.x.val pixel.y.val).2 = none ∧
      (p.after (front ++ [pixel])).buffer = (p.after front).buffer ++ written cell pixel.code) ∧
    ((∀ front pixel, front ++ [pixel] <+: pixels → ∃ cell added, table[pixel.code]? = some cell ∧
      (p.after (front ++ [pixel])).buffer = (p.after front).buffer ++ added ∧ Adds cell pixel.code added) ↔
      ∀ pixel ∈ pixels, table[pixel.code]? ≠ some replacement ∧ table[pixel.code]? ≠ some "\\uFFFD") := by
  -- what one click does, whichever came before
  have hstep : ∀ front pixel, ∃ cell, table[pixel.code]? = some cell ∧
      ((p.after front).click pixel.x.val pixel.y.val).2 = none ∧
      (p.after (front ++ [pixel])).buffer = (p.after front).buffer ++ written cell pixel.code := by
    intro front pixel
    obtain ⟨cell, hcell⟩ := pixel.exists_cell hsize
    have hclick := click_eq (table_after htable hsize front) hcell
    exact ⟨cell, hcell, by rw [hclick], by rw [after_concat, clicked, hclick]⟩
  refine ⟨fun front pixel _ => hstep front pixel, ?_, ?_⟩
  · intro hall pixel hpixel
    obtain ⟨front, rest, rfl⟩ := List.append_of_mem hpixel
    obtain ⟨cell, added, hcell, hgrown, hadds⟩ := hall front pixel ⟨rest, by rw [List.append_assoc]; rfl⟩
    obtain ⟨cell', hcell', -, hwritten⟩ := hstep front pixel
    obtain rfl : cell = cell' := Option.some.inj (hcell.symm.trans hcell')
    obtain rfl : added = written cell pixel.code := String.append_right_inj _ |>.1 (hgrown.symm.trans hwritten)
    have hcases := (adds_written_iff cell pixel.code_lt).1 hadds
    rw [hcell]
    exact ⟨fun h => hcases.1 (Option.some.inj h), fun h => hcases.2 (Option.some.inj h)⟩
  · intro hcells front pixel hfront
    obtain ⟨cell, hcell, -, hwritten⟩ := hstep front pixel
    have hmem : pixel ∈ pixels := hfront.subset (by simp)
    have hcases := hcells pixel hmem
    rw [hcell] at hcases
    refine ⟨cell, _, hcell, hwritten, (adds_written_iff cell pixel.code_lt).2 ⟨?_, ?_⟩⟩
    · rintro rfl
      exact hcases.1 rfl
    · rintro rfl
      exact hcases.2 rfl

end

/-! ## The table without a file -/

/-- The texts of the table that is used if there is no other. -/
def asciiCells : List String :=
  (List.range 256).map fun n => String.ofList (single (if 0x20 ≤ n && n < 0x7F then n else 0xFFFD))

theorem asciiTable_eq : asciiTable = .arr (asciiCells.map .str) := by
  rw [asciiTable, asciiCells, List.map_map]
  rfl

theorem length_asciiCells : asciiCells.length = 256 := by
  rw [asciiCells, List.length_map, List.length_range]

theorem getElem?_asciiCells {n : Nat} (h : n < 256) :
    asciiCells[n]? = some (String.ofList (single (if 0x20 ≤ n && n < 0x7F then n else 0xFFFD))) := by
  rw [asciiCells, List.getElem?_map, List.getElem?_range h, Option.map_some]

/-- A table in which a cell is empty. -/
theorem clicks_add_empty :
    let table := asciiCells.set 0 ""
    let p : Picker := { tables := [], table := .arr (table.map .str) }
    table.length = 256 ∧ (p.after [⟨0, 0⟩, ⟨31, 47⟩]).buffer = "\\x00A" := by
  intro table p
  have hsize : table.length = 256 := by rw [List.length_set, length_asciiCells]
  have hempty : table[0]? = some "" := List.getElem?_set_self (by rw [length_asciiCells]; decide)
  have hletter : table[65]? = some "A" := by
    rw [List.getElem?_set_ne (by decide), getElem?_asciiCells (by decide)]
    decide
  obtain ⟨hgrown, -⟩ := clicks_add_iff (p := p) rfl hsize [⟨0, 0⟩, ⟨31, 47⟩]
  obtain ⟨first, hfirst, -, hone⟩ := hgrown [] ⟨0, 0⟩ ⟨[⟨31, 47⟩], rfl⟩
  obtain ⟨second, hsecond, -, htwo⟩ := hgrown [⟨0, 0⟩] ⟨31, 47⟩ ⟨[], rfl⟩
  obtain rfl : "" = first := Option.some.inj (hempty.symm.trans hfirst)
  obtain rfl : "A" = second := Option.some.inj (hletter.symm.trans hsecond)
  refine ⟨hsize, htwo.trans ?_⟩
  rw [List.nil_append] at hone
  rw [hone]
  change "" ++ written "" 0 ++ written "A" 65 = "\\x00A"
  decide

/-- A table is used as it is if it has 256 items. -/
theorem choose_eq {p : Picker} {version : String} {table item : Json} (hversion : version ≠ "Korean")
    (hfound : p.tables.lookup version = some table) (hsome : table.isNothing = false) (hsize : itemCount table = .ok 256)
    (hitem : itemAt 0 table = .ok item) : p.choose version = ({ p with table, images := 256 }, none) := by
  have hfits : (Except.ok 256 : Except PickerError Nat).map (· == 256) = .ok true := rfl
  unfold choose
  rw [if_neg (by simpa using hversion), hfound, Option.getD_some]
  dsimp only
  rw [hsome, hsize, if_neg Bool.false_ne_true, hfits]
  dsimp only
  rw [if_pos rfl, hitem]

theorem start_eq {file : Json} {connected : Bool} {tables : List (String × Json)} {p : Picker}
    (htables : tablesIn file = .ok tables) (hchosen : choose { tables, connected } "International" = (p, none)) :
    start file connected = .ok p := by
  have hbind : ∀ f : List (String × Json) → Except PickerError Picker, (Except.ok tables >>= f) = f tables := fun _ => rfl
  unfold start
  rw [htables, hbind, hchosen]

theorem start_empty : start (.obj []) true =
    .ok { tables := [("International", asciiTable)], table := asciiTable, images := 256 } := by
  have hsize : itemCount asciiTable = .ok 256 := by
    rw [asciiTable_eq, itemCount, List.length_map, length_asciiCells]
  have hsome : asciiTable.isNothing = false := by
    rw [asciiTable_eq, Json.isNothing]
    simp [asciiCells]
  have htables : tablesIn (.obj []) = .ok [("International", asciiTable)] := rfl
  exact start_eq htables (choose_eq (by decide) rfl hsome hsize rfl)

/-- Without a file of tables, a click in the first cell adds the replacement character and no escape. -/
theorem click_replacement :
    ∃ p : Picker, Picker.start (.obj []) true = .ok p ∧ p.table = .arr (asciiCells.map .str) ∧
      asciiCells.length = 256 ∧ asciiCells[0]? = some replacement ∧ p.buffer = "" ∧
      (p.after [⟨0, 0⟩]).buffer = replacement ∧ ¬ Adds replacement 0 replacement := by
  have hcell : asciiCells[0]? = some replacement := getElem?_asciiCells (by decide)
  refine ⟨_, start_empty, asciiTable_eq, length_asciiCells, hcell, rfl, ?_, ?_⟩
  · change (Picker.after _ ([] ++ [_])).buffer = _
    rw [after_concat, clicked, click_eq asciiTable_eq hcell]
    decide
  · have hcases := (adds_written_iff replacement (by decide : 0 < 256)).not.2 fun h => h.1 rfl
    rwa [written, if_neg (by decide)] at hcases

end Picker

end MsxWorkbench.Charset
