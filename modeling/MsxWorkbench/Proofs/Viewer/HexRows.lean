import Mathlib.Data.List.Forall2
import MsxWorkbench.HexDump
import MsxWorkbench.Proofs.Text.Hexadecimal
import MsxWorkbench.Proofs.Text.Numerals
import MsxWorkbench.Proofs.Text.Rows
/-
# What a dump shows

A dump has one line for each sixteen bytes, of fixed columns: the number of its first byte, the digits of the bytes and
their characters (`IsRow`). The digits stand in columns of their own, so they are read back whatever the characters
behind them look like (`IsRow.readRow?`). From the closed form of the rows (`rows_eq`) it follows that a dump holds
exactly the first 4096 bytes of a file, and says how many more there are (`render_faithful`).
-/
namespace MsxWorkbench.HexDump

open Text (IsHex readHex?)

/-! ## The form of a line -/

/-- The digits of bytes, two for each with a blank between them, and blanks behind them. -/
def IsColumns (bytes : List UInt8) (columns : List Char) : Prop :=
  ∃ (pairs : List (List Char)) (blanks : Nat), List.Forall₂ (fun b pair => IsHex 2 b.toNat pair) bytes pairs ∧
    columns = [' '].intercalate pairs ++ List.replicate blanks ' '

/-- A line of a dump: the number of its first byte in eight digits, 47 columns with the digits of its bytes, and a
character for each byte, a point for one that cannot be shown. -/
def IsRow (offset : Nat) (bytes : List UInt8) (line : List Char) : Prop :=
  ∃ number columns chars : List Char, line = number ++ [' ', ' '] ++ columns ++ [' ', ' '] ++ chars ∧
    IsHex 8 offset number ∧ columns.length = 47 ∧ IsColumns bytes columns ∧
    List.Forall₂ (fun b c => if 32 ≤ b ∧ b ≤ 126 then c.toNat = b.toNat else c = '.') bytes chars

theorem length_columns (bytes : List UInt8) :
    ([' '].intercalate (bytes.map hexByte)).length = 3 * bytes.length - 1 := by
  induction bytes with
  | nil => rfl
  | cons b bytes ih =>
    cases bytes with
    | nil => rfl
    | cons b' bytes =>
      rw [List.map_cons] at ih
      rw [List.map_cons, List.map_cons, List.intercalate_cons_cons, List.length_append, List.length_append, ih,
        (Text.isHex_hexByte b).length]
      simp only [List.length_cons, List.length_nil]
      omega

theorem isColumns_padRight (width : Nat) (bytes : List UInt8) :
    IsColumns bytes (padRight width ([' '].intercalate (bytes.map hexByte))) := by
  refine ⟨bytes.map hexByte, _, ?_, rfl⟩
  rw [List.forall₂_map_right_iff]
  exact List.forall₂_same.2 fun b _ => Text.isHex_hexByte b

theorem toNat_shown (b : UInt8) : if 32 ≤ b ∧ b ≤ 126 then (shown b).toNat = b.toNat else shown b = '.' := by
  unfold shown
  split
  · rename_i hvisible
    have hle : b.toNat ≤ 126 := UInt8.le_iff_toNat_le.1 hvisible.2
    exact Text.toNat_ofNat_of_lt (by omega)
  · rfl

theorem isRow_row {offset : Nat} {bytes : List UInt8} (hoffset : offset < 16 ^ 8) (hbytes : bytes.length ≤ 16) :
    IsRow offset bytes (row offset bytes) := by
  refine ⟨_, _, _, rfl, Text.isHex_hexNumber 8 offset hoffset, ?_, isColumns_padRight 47 bytes, ?_⟩
  · rw [padRight, List.length_append, List.length_replicate, length_columns]
    omega
  · rw [List.forall₂_map_right_iff]
    exact List.forall₂_same.2 fun b _ => toNat_shown b

/-! ## Reading the columns -/

/-- The bytes whose digits stand in a text, in pairs with blanks around them. -/
def readPairs? : List Char → Option (List UInt8)
  | [] => some []
  | [c] => if c = ' ' then some [] else none
  | c :: d :: rest =>
    if c = ' ' then readPairs? (d :: rest)
    else (readHex? [c, d]).bind fun n => (readPairs? rest).map fun bytes => UInt8.ofNat n :: bytes

/-- The bytes of a line: their digits start in the eleventh column and have 47 columns. -/
def readRow? (line : List Char) : Option (List UInt8) := readPairs? ((line.drop 10).take 47)

/-- The bytes of a dump, from its lines before an empty one. -/
def readDump? (text : List Char) : Option (List UInt8) :=
  (((Text.lines text).takeWhile fun line => !line.isEmpty).mapM readRow?).map List.flatten

theorem readPairs?_blank (s : List Char) : readPairs? (' ' :: s) = readPairs? s := by
  cases s with
  | nil => rfl
  | cons c s => rw [readPairs?, if_pos rfl]

theorem readPairs?_blanks (n : Nat) : readPairs? (List.replicate n ' ') = some [] := by
  induction n with
  | zero => rfl
  | succ n ih => rw [List.replicate_succ, readPairs?_blank, ih]

theorem readPairs?_pair {b : UInt8} {pair : List Char} (h : IsHex 2 b.toNat pair) (s : List Char) :
    readPairs? (pair ++ s) = (readPairs? s).map fun bytes => b :: bytes := by
  obtain ⟨c, d, rfl⟩ := List.length_eq_two.1 h.length
  have hblank : c ≠ ' ' := by
    rintro rfl
    cases h.value
  rw [List.cons_append, List.singleton_append, readPairs?, if_neg hblank, h.value, Option.bind_some, UInt8.ofNat_toNat]

theorem IsColumns.readPairs? {bytes : List UInt8} {columns : List Char} (h : IsColumns bytes columns) :
    readPairs? columns = some bytes := by
  obtain ⟨pairs, blanks, hpairs, rfl⟩ := h
  induction hpairs with
  | nil => exact readPairs?_blanks blanks
  | @cons b pair bytes pairs hpair hpairs ih =>
    cases pairs with
    | nil =>
      cases hpairs
      rw [List.intercalate_singleton, readPairs?_pair hpair, readPairs?_blanks, Option.map_some]
    | cons next pairs =>
      rw [List.intercalate_cons_cons, List.append_assoc, List.append_assoc, readPairs?_pair hpair, List.singleton_append,
        readPairs?_blank, ih, Option.map_some]

/-- The bytes of a line are read back. -/
theorem IsRow.readRow? {offset : Nat} {bytes : List UInt8} {line : List Char} (h : IsRow offset bytes line) :
    readRow? line = some bytes := by
  obtain ⟨number, columns, chars, rfl, hnumber, hcolumns, hbytes, -⟩ := h
  have hfront : (number ++ [' ', ' ']).length = 10 := by rw [List.length_append, hnumber.length]; rfl
  rw [HexDump.readRow?, List.append_assoc, List.append_assoc, List.drop_left' hfront, List.take_left' hcolumns]
  exact hbytes.readPairs?

/-! ## All lines -/

/-- The k-th row shows the sixteen bytes from `16 * k` on, and there are as many rows as there are bytes to show. -/
theorem rows_eq (offset : Nat) (bytes : List UInt8) : rows offset bytes =
    (List.range ((bytes.length + 15) / 16)).map fun k => row (offset + 16 * k) ((bytes.drop (16 * k)).take 16) := by
  induction offset, bytes using rows.induct with
  | case1 offset => rw [rows]; rfl
  | case2 offset b rest ih =>
    have hcount : ((b :: rest).length + 15) / 16 = (((b :: rest).drop 16).length + 15) / 16 + 1 := by
      rw [List.length_drop, List.length_cons]
      omega
    rw [rows, ih, hcount, List.range_succ_eq_map, List.map_cons, List.map_map]
    refine congrArg (_ :: ·) (List.map_congr_left fun k _ => ?_)
    rw [Function.comp_apply, List.drop_drop]
    have hnext : rowBytes + 16 * k = 16 * (k + 1) := by
      rw [rowBytes]
      omega
    rw [Nat.add_assoc, hnext]

theorem length_take_rowBytes (bytes : List UInt8) : (bytes.take rowBytes).length ≤ 16 := by
  rw [List.length_take]
  exact Nat.min_le_left _ _

/-- All bytes are read back from the rows, as long as eight digits are enough for the number of each row. -/
theorem readRows_rows (offset : Nat) (bytes : List UInt8) (h : ∀ k, 16 * k < bytes.length → offset + 16 * k < 16 ^ 8) :
    ((rows offset bytes).mapM readRow?).map List.flatten = some bytes := by
  induction offset, bytes using rows.induct with
  | case1 offset => rw [rows]; rfl
  | case2 offset b rest ih =>
    have hfirst : IsRow offset ((b :: rest).take rowBytes) (row offset ((b :: rest).take rowBytes)) :=
      isRow_row (h 0 (Nat.succ_pos _)) (length_take_rowBytes _)
    have ih := ih fun k hk => by
      rw [List.length_drop] at hk
      rw [rowBytes] at hk ⊢
      have := h (k + 1) (by omega)
      omega
    obtain ⟨chunks, hchunks, hflatten⟩ := Option.map_eq_some_iff.1 ih
    rw [rows, List.mapM_cons, hfirst.readRow?, hchunks]
    change some (_ ++ chunks.flatten) = _
    rw [hflatten, List.take_append_drop]

/-! ## Lines of the text -/

/-- All characters are visible ASCII characters or blanks. -/
def IsVisible (s : List Char) : Prop := ∀ c ∈ s, 32 ≤ c.toNat ∧ c.toNat ≤ 126

theorem IsVisible.append {s t : List Char} (hs : IsVisible s) (ht : IsVisible t) : IsVisible (s ++ t) :=
  fun c hc => (List.mem_append.1 hc).elim (hs c) (ht c)

theorem IsVisible.isLineBreak {s : List Char} (h : IsVisible s) : ∀ c ∈ s, Text.isLineBreak c = false := by
  intro c hc
  obtain ⟨hlow, hhigh⟩ := h c hc
  simp [Text.isLineBreak]
  omega

theorem isVisible_blanks (n : Nat) : IsVisible (List.replicate n ' ') := by
  intro c hc
  rw [List.eq_of_mem_replicate hc]
  decide

theorem isVisible_hexNumber (width n : Nat) : IsVisible (hexNumber width n) := by
  induction width generalizing n with
  | zero => exact fun c hc => by cases hc
  | succ width ih =>
    have hdigits : ∀ d < 16, 32 ≤ (Nat.digitChar d).toUpper.toNat ∧ (Nat.digitChar d).toUpper.toNat ≤ 126 := by decide
    refine (ih (n / 16)).append fun c hc => ?_
    rw [List.mem_singleton.1 hc]
    exact hdigits _ (Nat.mod_lt n (by decide))

theorem isVisible_columns (bytes : List UInt8) : IsVisible ([' '].intercalate (bytes.map hexByte)) := by
  induction bytes with
  | nil => exact fun c hc => by cases hc
  | cons b bytes ih =>
    have hbyte : IsVisible (hexByte b) := isVisible_hexNumber 2 b.toNat
    cases bytes with
    | nil => exact hbyte
    | cons b' bytes =>
      rw [List.map_cons] at ih
      rw [List.map_cons, List.map_cons, List.intercalate_cons_cons]
      exact (hbyte.append (isVisible_blanks 1)).append ih

theorem isVisible_row (offset : Nat) (bytes : List UInt8) : IsVisible (row offset bytes) := by
  have hchars : IsVisible (bytes.map shown) := by
    intro c hc
    obtain ⟨b, -, rfl⟩ := List.mem_map.1 hc
    have hshown := toNat_shown b
    split at hshown
    · rename_i hvisible
      rw [hshown]
      exact ⟨UInt8.le_iff_toNat_le.1 hvisible.1, UInt8.le_iff_toNat_le.1 hvisible.2⟩
    · rw [hshown]
      decide
  have hcolumns : IsVisible (padRight 47 ([' '].intercalate (bytes.map hexByte))) :=
    (isVisible_columns bytes).append (isVisible_blanks _)
  exact ((((isVisible_hexNumber 8 offset).append (isVisible_blanks 2)).append hcolumns).append
    (isVisible_blanks 2)).append hchars

theorem row_ne_nil (offset : Nat) (bytes : List UInt8) : row offset bytes ≠ [] := by
  simp [row]

theorem notice_eq (hidden : Nat) :
    notice hidden = "... ".toList ++ Nat.toDigits 10 hidden ++ " bytes nao exibidos".toList := by
  change ("... " ++ toString hidden ++ " bytes nao exibidos").toList = _
  rw [String.toList_append, String.toList_append, Nat.toString_eq_repr, Nat.toList_repr]

theorem isVisible_notice (hidden : Nat) : IsVisible (notice hidden) := by
  have hstart : IsVisible "... ".toList := by simp [IsVisible]
  have hend : IsVisible " bytes nao exibidos".toList := by simp [IsVisible]
  rw [notice_eq]
  refine (hstart.append fun c hc => ?_).append hend
  have hdigit : c.isDigit = true := Nat.isDigit_of_mem_toDigits (by decide) (by decide) hc
  rw [Text.isDigit_iff_toNat] at hdigit
  omega

theorem notice_ne_nil (hidden : Nat) : notice hidden ≠ [] := by
  rw [notice_eq]
  simp

/-- What stands behind the rows: an empty line and the notice, if there are more bytes than are shown. -/
def notes (bytes : List UInt8) : List (List Char) :=
  if 4096 < bytes.length then [[], notice (bytes.length - 4096)] else []

theorem render_eq (bytes : List UInt8) : render bytes = Text.unrows (rows 0 (bytes.take 4096) ++ notes bytes) := by
  unfold render notes previewBytes Text.unrows
  rfl

theorem mem_rows {offset : Nat} {bytes : List UInt8} {line : List Char} (h : line ∈ rows offset bytes) :
    IsVisible line ∧ line ≠ [] := by
  rw [rows_eq] at h
  obtain ⟨k, -, rfl⟩ := List.mem_map.1 h
  exact ⟨isVisible_row _ _, row_ne_nil _ _⟩

theorem isVisible_of_mem_notes {bytes : List UInt8} {line : List Char} (h : line ∈ notes bytes) : IsVisible line := by
  unfold notes at h
  split at h
  · rcases List.mem_pair.1 h with rfl | rfl
    · exact fun c hc => absurd hc List.not_mem_nil
    · exact isVisible_notice _
  · exact absurd h List.not_mem_nil

theorem getLast?_notes_ne (bytes : List UInt8) : (notes bytes).getLast? ≠ some [] := by
  by_cases hmore : 4096 < bytes.length
  · rw [notes, if_pos hmore, List.getLast?_cons_cons, List.getLast?_singleton]
    exact fun h => notice_ne_nil _ (Option.some.inj h)
  · rw [notes, if_neg hmore]
    simp

/-- The lines of a dump are its rows and what stands behind them. -/
theorem lines_render (bytes : List UInt8) :
    Text.lines (render bytes) = rows 0 (bytes.take 4096) ++ notes bytes := by
  rw [render_eq]
  apply Text.lines_unrows
  · intro line hline
    rcases List.mem_append.1 hline with hrow | hnote
    · exact (mem_rows hrow).1.isLineBreak
    · exact (isVisible_of_mem_notes hnote).isLineBreak
  · rw [List.getLast?_append]
    cases hnotes : (notes bytes).getLast? with
    | some line =>
      rw [Option.some_or, ← hnotes]
      exact getLast?_notes_ne bytes
    | none =>
      rw [Option.none_or]
      intro hlast
      exact (mem_rows (List.mem_of_getLast? hlast)).2 rfl

/-- **A dump is faithful.** Its lines are one for each sixteen of the first 4096 bytes, and an empty one and a notice with
the number of all further bytes exactly if there are any. The k-th line shows the bytes from `16 * k` on, and the digits of
all lines are read back as the first 4096 bytes. -/
theorem render_faithful (bytes : List UInt8) :
    ∃ shownRows : List (List Char),
      let lines := shownRows ++ if 4096 < bytes.length then
        [[], "... ".toList ++ Nat.toDigits 10 (bytes.length - 4096) ++ " bytes nao exibidos".toList] else []
      render bytes = Text.unrows lines ∧ Text.lines (render bytes) = lines ∧
      shownRows.length = (min bytes.length 4096 + 15) / 16 ∧
      (∀ k line, shownRows[k]? = some line → IsRow (16 * k) (((bytes.take 4096).drop (16 * k)).take 16) line) ∧
      readDump? (render bytes) = some (bytes.take 4096) := by
  have hnotes : notes bytes = if 4096 < bytes.length then
      [[], "... ".toList ++ Nat.toDigits 10 (bytes.length - 4096) ++ " bytes nao exibidos".toList] else [] := by
    rw [notes, notice_eq]
  refine ⟨rows 0 (bytes.take 4096), ?_⟩
  rw [← hnotes]
  refine ⟨render_eq bytes, lines_render bytes, ?_, ?_, ?_⟩
  · rw [rows_eq, List.length_map, List.length_range, List.length_take, Nat.min_comm]
  · intro k line hline
    rw [rows_eq, List.getElem?_map, Option.map_eq_some_iff] at hline
    obtain ⟨i, hi, rfl⟩ := hline
    obtain ⟨hk, rfl⟩ := List.getElem?_eq_some_iff.1 hi
    rw [List.length_range, List.length_take] at hk
    rw [List.getElem_range, Nat.zero_add]
    exact isRow_row (by omega) (length_take_rowBytes _)
  · have hfront : ((rows 0 (bytes.take 4096) ++ notes bytes).takeWhile fun line => !line.isEmpty) =
        rows 0 (bytes.take 4096) := by
      rw [List.takeWhile_append_of_pos fun line hline => by simpa using (mem_rows hline).2]
      unfold notes
      split <;> simp
    rw [readDump?, lines_render, hfront]
    refine readRows_rows 0 _ fun k hk => ?_
    rw [List.length_take] at hk
    omega

end MsxWorkbench.HexDump
