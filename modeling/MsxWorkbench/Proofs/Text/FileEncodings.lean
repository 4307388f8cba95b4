import Mathlib.Data.List.Forall2
import MsxWorkbench.Proofs.Text.Bytes
/-
# Text files without loss

The text of a file is read in one of three encodings, and written in that encoding it gives the bytes of the file again
(`decodeFile?_lossless`). Which encoding that is depends on the bytes alone.

The bytes of a character in UTF-8 have one of nine forms, each given by the values that its bytes may have (`utf8Forms`).
The forms leave out sequences that are longer than needed, surrogates, and numbers above U+10FFFF. Bytes made of such
sequences are exactly those that a text is written with (`wellFormedUtf8_iff`). In code page 1252 five bytes are no
character, and every other byte is the byte of its character (`windowsChar?_eq_some_iff`).
-/
namespace MsxWorkbench.Text

/-! ## The forms of a character -/

/-- The least and the greatest value of each byte of a character. -/
def utf8Forms : List (List (Nat × Nat)) := [
  [(0x00, 0x7F)],
  [(0xC2, 0xDF), (0x80, 0xBF)],
  [(0xE0, 0xE0), (0xA0, 0xBF), (0x80, 0xBF)],
  [(0xE1, 0xEC), (0x80, 0xBF), (0x80, 0xBF)],
  [(0xED, 0xED), (0x80, 0x9F), (0x80, 0xBF)],
  [(0xEE, 0xEF), (0x80, 0xBF), (0x80, 0xBF)],
  [(0xF0, 0xF0), (0x90, 0xBF), (0x80, 0xBF), (0x80, 0xBF)],
  [(0xF1, 0xF3), (0x80, 0xBF), (0x80, 0xBF), (0x80, 0xBF)],
  [(0xF4, 0xF4), (0x80, 0x8F), (0x80, 0xBF), (0x80, 0xBF)]]

/-- Each byte is in its range. -/
def Fits (form : List (Nat × Nat)) (bytes : List UInt8) : Prop :=
  List.Forall₂ (fun range b => range.1 ≤ b.toNat ∧ b.toNat ≤ range.2) form bytes

/-- Bytes that follow each other in the forms of characters. -/
inductive WellFormedUtf8 : List UInt8 → Prop
  | nil : WellFormedUtf8 []
  | cons {form : List (Nat × Nat)} {char rest : List UInt8} :
    form ∈ utf8Forms → Fits form char → WellFormedUtf8 rest → WellFormedUtf8 (char ++ rest)

theorem fits_nil : Fits [] [] ↔ True := iff_true_intro List.Forall₂.nil

theorem fits_ofNat_cons {low high n : Nat} {form : List (Nat × Nat)} {bytes : List UInt8} :
    Fits ((low, high) :: form) (UInt8.ofNat n :: bytes) ↔ (low ≤ n % 256 ∧ n % 256 ≤ high) ∧ Fits form bytes :=
  List.forall₂_cons

theorem exists_of_fits_cons {low high : Nat} {form : List (Nat × Nat)} {bytes : List UInt8}
    (h : Fits ((low, high) :: form) bytes) :
    ∃ b rest, bytes = b :: rest ∧ low ≤ b.toNat ∧ b.toNat ≤ high ∧ Fits form rest := by
  cases h with
  | cons hb hrest => exact ⟨_, _, rfl, hb.1, hb.2, hrest⟩

theorem eq_nil_of_fits {bytes : List UInt8} (h : Fits [] bytes) : bytes = [] := by
  cases h
  rfl

/-! ## The bytes of a character -/

/-- The bytes that a character is written with have one of the forms, which one depends on its number. -/
theorem exists_fits_utf8EncodeChar (c : Char) : ∃ form ∈ utf8Forms, Fits form (String.utf8EncodeChar c) := by
  have hvalid : c.val.toNat < 0xD800 ∨ 0xDFFF < c.val.toNat ∧ c.val.toNat < 0x110000 := c.valid
  rw [String.utf8EncodeChar]
  generalize c.val.toNat = n at hvalid ⊢
  split
  · exact ⟨[(0x00, 0x7F)], by decide,
      by simp only [fits_ofNat_cons, fits_nil, and_true]; omega⟩
  split
  · exact ⟨[(0xC2, 0xDF), (0x80, 0xBF)], by decide,
      by simp only [fits_ofNat_cons, fits_nil, and_true]; omega⟩
  split
  · rcases Nat.lt_or_ge n 0x1000 with h | hlow
    · exact ⟨[(0xE0, 0xE0), (0xA0, 0xBF), (0x80, 0xBF)], by decide,
        by simp only [fits_ofNat_cons, fits_nil, and_true]; omega⟩
    rcases Nat.lt_or_ge n 0xD000 with h | hmiddle
    · exact ⟨[(0xE1, 0xEC), (0x80, 0xBF), (0x80, 0xBF)], by decide,
        by simp only [fits_ofNat_cons, fits_nil, and_true]; omega⟩
    -- between U+D000 and U+E000 there are characters up to the surrogates only
    rcases Nat.lt_or_ge n 0xE000 with h | hhigh
    · exact ⟨[(0xED, 0xED), (0x80, 0x9F), (0x80, 0xBF)], by decide,
        by simp only [fits_ofNat_cons, fits_nil, and_true]; omega⟩
    · exact ⟨[(0xEE, 0xEF), (0x80, 0xBF), (0x80, 0xBF)], by decide,
        by simp only [fits_ofNat_cons, fits_nil, and_true]; omega⟩
  · rcases Nat.lt_or_ge n 0x40000 with h | hlow
    · exact ⟨[(0xF0, 0xF0), (0x90, 0xBF), (0x80, 0xBF), (0x80, 0xBF)], by decide,
        by simp only [fits_ofNat_cons, fits_nil, and_true]; omega⟩
    rcases Nat.lt_or_ge n 0x100000 with h | hhigh
    · exact ⟨[(0xF1, 0xF3), (0x80, 0xBF), (0x80, 0xBF), (0x80, 0xBF)], by decide,
        by simp only [fits_ofNat_cons, fits_nil, and_true]; omega⟩
    · exact ⟨[(0xF4, 0xF4), (0x80, 0x8F), (0x80, 0xBF), (0x80, 0xBF)], by decide,
        by simp only [fits_ofNat_cons, fits_nil, and_true]; omega⟩

theorem ofNat_eq {n : Nat} {b : UInt8} (h : n = b.toNat) : UInt8.ofNat n = b := by
  rw [h, UInt8.ofNat_toNat]

theorem utf8EncodeChar_ofNat {n : Nat} (h : n.isValidChar) : String.utf8EncodeChar (Char.ofNat n) =
    if n ≤ 0x7F then [UInt8.ofNat n]
    else if n ≤ 0x7FF then [UInt8.ofNat (n / 0x40 % 0x20 + 0xC0), UInt8.ofNat (n % 0x40 + 0x80)]
    else if n ≤ 0xFFFF then
      [UInt8.ofNat (n / 0x1000 % 0x10 + 0xE0), UInt8.ofNat (n / 0x40 % 0x40 + 0x80), UInt8.ofNat (n % 0x40 + 0x80)]
    else [UInt8.ofNat (n / 0x40000 % 0x08 + 0xF0), UInt8.ofNat (n / 0x1000 % 0x40 + 0x80),
      UInt8.ofNat (n / 0x40 % 0x40 + 0x80), UInt8.ofNat (n % 0x40 + 0x80)] := by
  have hn : (Char.ofNat n).val.toNat = n := congrArg Char.toNat (dif_pos h)
  rw [String.utf8EncodeChar, hn]

section
variable {a b c d : UInt8}

theorem exists_char_one (ha : a.toNat ≤ 0x7F) : ∃ char, String.utf8EncodeChar char = [a] := by
  refine ⟨Char.ofNat a.toNat, ?_⟩
  rw [utf8EncodeChar_ofNat (Or.inl (by omega)), if_pos ha, UInt8.ofNat_toNat]

theorem exists_char_two (ha : 0xC2 ≤ a.toNat) (ha' : a.toNat ≤ 0xDF) (hb : 0x80 ≤ b.toNat) (hb' : b.toNat ≤ 0xBF) :
    ∃ char, String.utf8EncodeChar char = [a, b] := by
  refine ⟨Char.ofNat ((a.toNat - 0xC0) * 0x40 + (b.toNat - 0x80)), ?_⟩
  rw [utf8EncodeChar_ofNat (Or.inl (by omega)), if_neg (by omega), if_pos (by omega), ofNat_eq (b := a) (by omega),
    ofNat_eq (b := b) (by omega)]

/-- Three bytes are a character unless two would do or it is a surrogate. -/
theorem exists_char_three (ha : 0xE0 ≤ a.toNat) (ha' : a.toNat ≤ 0xEF) (hb : 0x80 ≤ b.toNat) (hb' : b.toNat ≤ 0xBF)
    (hc : 0x80 ≤ c.toNat) (hc' : c.toNat ≤ 0xBF) (hlong : a.toNat = 0xE0 → 0xA0 ≤ b.toNat)
    (hsurrogate : a.toNat = 0xED → b.toNat ≤ 0x9F) : ∃ char, String.utf8EncodeChar char = [a, b, c] := by
  refine ⟨Char.ofNat ((a.toNat - 0xE0) * 0x1000 + (b.toNat - 0x80) * 0x40 + (c.toNat - 0x80)), ?_⟩
  have hvalid : ((a.toNat - 0xE0) * 0x1000 + (b.toNat - 0x80) * 0x40 + (c.toNat - 0x80)).isValidChar := by
    rw [Nat.isValidChar]
    omega
  rw [utf8EncodeChar_ofNat hvalid, if_neg (by omega), if_neg (by omega), if_pos (by omega), ofNat_eq (b := a) (by omega),
    ofNat_eq (b := b) (by omega), ofNat_eq (b := c) (by omega)]

/-- Four bytes are a character unless three would do or the number is too large. -/
theorem exists_char_four (ha : 0xF0 ≤ a.toNat) (ha' : a.toNat ≤ 0xF4) (hb : 0x80 ≤ b.toNat) (hb' : b.toNat ≤ 0xBF)
    (hc : 0x80 ≤ c.toNat) (hc' : c.toNat ≤ 0xBF) (hd : 0x80 ≤ d.toNat) (hd' : d.toNat ≤ 0xBF)
    (hlong : a.toNat = 0xF0 → 0x90 ≤ b.toNat) (hlarge : a.toNat = 0xF4 → b.toNat ≤ 0x8F) :
    ∃ char, String.utf8EncodeChar char = [a, b, c, d] := by
  refine ⟨Char.ofNat ((a.toNat - 0xF0) * 0x40000 + (b.toNat - 0x80) * 0x1000 + (c.toNat - 0x80) * 0x40 +
    (d.toNat - 0x80)), ?_⟩
  have hvalid : ((a.toNat - 0xF0) * 0x40000 + (b.toNat - 0x80) * 0x1000 + (c.toNat - 0x80) * 0x40 +
      (d.toNat - 0x80)).isValidChar := by
    rw [Nat.isValidChar]
    omega
  rw [utf8EncodeChar_ofNat hvalid, if_neg (by omega), if_neg (by omega), if_neg (by omega), ofNat_eq (b := a) (by omega),
    ofNat_eq (b := b) (by omega), ofNat_eq (b := c) (by omega), ofNat_eq (b := d) (by omega)]

end

/-- Bytes of one of the forms are those of a character. -/
theorem exists_char_of_fits {form : List (Nat × Nat)} {bytes : List UInt8} (hform : form ∈ utf8Forms)
    (h : Fits form bytes) : ∃ char, String.utf8EncodeChar char = bytes := by
  simp only [utf8Forms, List.mem_cons, List.not_mem_nil, or_false] at hform
  obtain rfl | rfl | rfl | rfl | rfl | rfl | rfl | rfl | rfl := hform
  · obtain ⟨a, rest, rfl, -, ha, h⟩ := exists_of_fits_cons h
    rw [eq_nil_of_fits h]
    exact exists_char_one ha
  · obtain ⟨a, rest, rfl, ha, ha', h⟩ := exists_of_fits_cons h
    obtain ⟨b, rest, rfl, hb, hb', h⟩ := exists_of_fits_cons h
    rw [eq_nil_of_fits h]
    exact exists_char_two ha ha' hb hb'
  iterate 4
    · obtain ⟨a, rest, rfl, ha, ha', h⟩ := exists_of_fits_cons h
      obtain ⟨b, rest, rfl, hb, hb', h⟩ := exists_of_fits_cons h
      obtain ⟨c, rest, rfl, hc, hc', h⟩ := exists_of_fits_cons h
      rw [eq_nil_of_fits h]
      exact exists_char_three (by omega) (by omega) (by omega) (by omega) hc hc' (by omega) (by omega)
  iterate 3
    · obtain ⟨a, rest, rfl, ha, ha', h⟩ := exists_of_fits_cons h
      obtain ⟨b, rest, rfl, hb, hb', h⟩ := exists_of_fits_cons h
      obtain ⟨c, rest, rfl, hc, hc', h⟩ := exists_of_fits_cons h
      obtain ⟨d, rest, rfl, hd, hd', h⟩ := exists_of_fits_cons h
      rw [eq_nil_of_fits h]
      exact exists_char_four (by omega) (by omega) (by omega) (by omega) hc hc' hd hd' (by omega) (by omega)

/-! ## Texts -/

/-- Bytes are well-formed exactly if a text is written with them. -/
theorem wellFormedUtf8_iff {bytes : List UInt8} : WellFormedUtf8 bytes ↔ ∃ s, encodeUtf8 s = bytes := by
  constructor
  · intro h
    induction h with
    | nil => exact ⟨[], rfl⟩
    | cons hform hchar hrest ih =>
      obtain ⟨c, hc⟩ := exists_char_of_fits hform hchar
      obtain ⟨s, hs⟩ := ih
      exact ⟨c :: s, by rw [encodeUtf8, List.flatMap_cons, hc, ← hs, encodeUtf8]⟩
  · rintro ⟨s, rfl⟩
    induction s with
    | nil => exact WellFormedUtf8.nil
    | cons c s ih =>
      obtain ⟨form, hform, hc⟩ := exists_fits_utf8EncodeChar c
      exact WellFormedUtf8.cons hform hc ih

theorem decodeUtf8?_eq_none_iff {bytes : List UInt8} : decodeUtf8? bytes = none ↔ ¬ WellFormedUtf8 bytes := by
  rw [wellFormedUtf8_iff, not_exists, Option.eq_none_iff_forall_ne_some]
  exact forall_congr' fun s => not_congr decodeUtf8?_eq_some_iff

/-! ## Items one by one -/

section
variable {α β : Type} {f : α → Option β} {xs : List α}

theorem mapM_eq_some_iff {ys : List β} : xs.mapM f = some ys ↔ List.Forall₂ (fun x y => f x = some y) xs ys := by
  induction xs generalizing ys with
  | nil =>
    rw [List.mapM_nil, List.forall₂_nil_left_iff]
    exact ⟨fun h => (Option.some.inj h).symm, fun h => by rw [h]; rfl⟩
  | cons x xs ih =>
    rw [List.mapM_cons, List.forall₂_cons_left_iff]
    constructor
    · intro h
      obtain ⟨y, hy, h⟩ := Option.bind_eq_some_iff.1 h
      obtain ⟨more, hmore, h⟩ := Option.bind_eq_some_iff.1 h
      exact ⟨y, more, hy, ih.1 hmore, (Option.some.inj h).symm⟩
    · rintro ⟨y, more, hy, hmore, rfl⟩
      rw [hy, ih.2 hmore]
      rfl

theorem mapM_eq_none_iff : xs.mapM f = none ↔ ∃ x ∈ xs, f x = none := by
  induction xs with
  | nil => simp
  | cons x xs ih =>
    simp only [List.mapM_cons, List.mem_cons, or_and_right, exists_or, exists_eq_left, ← ih]
    cases f x with
    | none => simp
    | some y => cases xs.mapM f <;> simp

/-- If each item is written as it was read, so are all of them. -/
theorem mapM_inverse {g : β → Option α} (h : ∀ x y, f x = some y ↔ g y = some x) {ys : List β} :
    xs.mapM f = some ys ↔ ys.mapM g = some xs := by
  rw [mapM_eq_some_iff, mapM_eq_some_iff]
  constructor
  · exact fun hall => (hall.imp fun x y hxy => (h x y).1 hxy).flip
  · exact fun hall => (hall.imp fun y x hyx => (h x y).2 hyx).flip

end

/-! ## Code page 1252 -/

/-- The byte of a character in code page 1252. -/
def windowsByte? (c : Char) : Option UInt8 :=
  if c.toNat < 0x80 ∨ 0xA0 ≤ c.toNat ∧ c.toNat < 0x100 then some (UInt8.ofNat c.toNat)
  else (windowsHigh.idxOf? (some c.toNat)).map fun i => UInt8.ofNat (0x80 + i)

/-- The bytes of a text in code page 1252, if all its characters are there. -/
def encodeWindows? (s : List Char) : Option (List UInt8) := s.mapM windowsByte?

/-- The bytes without a character in code page 1252. -/
def unusedBytes : List UInt8 := [0x81, 0x8D, 0x8F, 0x90, 0x9D]

/-- Each character of the middle part stands there once, and is in no other part. -/
theorem windowsHigh_spec {i n : Nat} (h : (windowsHigh[i]?).join = some n) :
    0x100 ≤ n ∧ n < 0xD800 ∧ windowsHigh.idxOf? (some n) = some i := by
  have hall : ((List.range 32).all fun i => (windowsHigh[i]?).join.all fun n =>
      0x100 ≤ n && n < 0xD800 && windowsHigh.idxOf? (some n) == some i) = true := by decide
  have hi : i < 32 := by
    rcases Nat.lt_or_ge i 32 with hi | hi
    · exact hi
    · rw [List.getElem?_eq_none hi] at h
      cases h
  have hn := List.all_eq_true.1 hall i (List.mem_range.2 hi)
  rw [h] at hn
  simpa [and_assoc] using hn

theorem windowsChar?_of_middle {b : UInt8} (hlow : 0x80 ≤ b.toNat) (hhigh : b.toNat < 0xA0) :
    windowsChar? b = ((windowsHigh[b.toNat - 0x80]?).join).map Char.ofNat :=
  if_pos ⟨UInt8.le_iff_toNat_le.2 hlow, UInt8.lt_iff_toNat_lt.2 hhigh⟩

theorem windowsChar?_of_outside {b : UInt8} (h : b.toNat < 0x80 ∨ 0xA0 ≤ b.toNat) :
    windowsChar? b = some (Char.ofNat b.toNat) := by
  refine if_neg fun hmiddle => ?_
  have hlow : 0x80 ≤ b.toNat := UInt8.le_iff_toNat_le.1 hmiddle.1
  have hhigh : b.toNat < 0xA0 := UInt8.lt_iff_toNat_lt.1 hmiddle.2
  omega

theorem toNat_charOfByte (b : UInt8) : (Char.ofNat b.toNat).toNat = b.toNat :=
  toNat_ofNat_of_lt (Nat.lt_trans b.toNat_lt (by decide))

theorem windowsChar?_eq_some_iff (b : UInt8) (c : Char) : windowsChar? b = some c ↔ windowsByte? c = some b := by
  have hb := b.toNat_lt
  constructor
  · intro h
    by_cases hmiddle : 0x80 ≤ b.toNat ∧ b.toNat < 0xA0
    · rw [windowsChar?_of_middle hmiddle.1 hmiddle.2] at h
      obtain ⟨n, hn, rfl⟩ := Option.map_eq_some_iff.1 h
      obtain ⟨hlow, hhigh, hindex⟩ := windowsHigh_spec hn
      rw [windowsByte?, toNat_ofNat_of_lt hhigh, if_neg (by omega), hindex, Option.map_some,
        ofNat_eq (b := b) (by omega)]
    · rw [windowsChar?_of_outside (by omega)] at h
      cases h
      rw [windowsByte?, toNat_charOfByte, if_pos (by omega), UInt8.ofNat_toNat]
  · intro h
    unfold windowsByte? at h
    split at h
    · cases h
      rw [windowsChar?_of_outside (by rw [toNat_byte (by omega)]; omega), toNat_byte (by omega), Char.ofNat_toNat]
    · obtain ⟨i, hi, rfl⟩ := Option.map_eq_some_iff.1 h
      obtain ⟨hlt, hget, -⟩ := List.idxOf?_eq_some_iff.1 hi
      have hsize : i < 32 := hlt
      have hbyte : (UInt8.ofNat (0x80 + i)).toNat = 0x80 + i := toNat_byte (by omega)
      rw [windowsChar?_of_middle (by omega) (by omega), hbyte, Nat.add_sub_cancel_left, List.getElem?_eq_getElem hlt, hget]
      exact congrArg some (Char.ofNat_toNat c)

theorem windowsChar?_eq_none_iff (b : UInt8) : windowsChar? b = none ↔ b ∈ unusedBytes := by
  have hmiddle : ∀ i < 32, (windowsHigh[i]?).join = none ↔ UInt8.ofNat (0x80 + i) ∈ unusedBytes := by decide
  have hunused : unusedBytes.all (fun u => 0x80 ≤ u.toNat && u.toNat < 0xA0) = true := by decide
  by_cases hb : 0x80 ≤ b.toNat ∧ b.toNat < 0xA0
  · have hbyte := hmiddle (b.toNat - 0x80) (by omega)
    rw [ofNat_eq (b := b) (by omega)] at hbyte
    rw [windowsChar?_of_middle hb.1 hb.2, Option.map_eq_none_iff, hbyte]
  · rw [windowsChar?_of_outside (by omega)]
    refine iff_of_false (by simp) fun hmem => hb ?_
    simpa using List.all_eq_true.1 hunused b hmem

theorem decodeWindows?_eq_some_iff {bytes : List UInt8} {s : List Char} :
    decodeWindows? bytes = some s ↔ encodeWindows? s = some bytes :=
  mapM_inverse windowsChar?_eq_some_iff

theorem decodeWindows?_eq_none_iff {bytes : List UInt8} :
    decodeWindows? bytes = none ↔ ∃ b ∈ bytes, b ∈ unusedBytes := by
  rw [decodeWindows?, mapM_eq_none_iff]
  simp only [windowsChar?_eq_none_iff]

/-! ## Latin-1 -/

/-- The bytes of a text in Latin-1, if all its characters are there. -/
def encodeLatin1? (s : List Char) : Option (List UInt8) := s.mapM latin1Byte?

theorem latin1Byte?_eq_some_iff (b : UInt8) (c : Char) :
    some (Char.ofNat b.toNat) = some c ↔ latin1Byte? c = some b := by
  constructor
  · intro h
    cases h
    rw [latin1Byte?, toNat_charOfByte, if_pos b.toNat_lt, UInt8.ofNat_toNat]
  · intro h
    unfold latin1Byte? at h
    split at h
    · cases h
      rw [toNat_byte (by assumption), Char.ofNat_toNat]
    · cases h

theorem decodeLatin1_eq_iff {bytes : List UInt8} {s : List Char} :
    decodeLatin1 bytes = s ↔ encodeLatin1? s = some bytes := by
  rw [encodeLatin1?, ← mapM_inverse latin1Byte?_eq_some_iff, mapM_eq_some_iff]
  simp only [Option.some.injEq]
  rw [← List.forall₂_map_left_iff, List.forall₂_eq_eq_eq, decodeLatin1]

/-! ## Files -/

/-- **The text of a file is read without loss.** Bytes are no text exactly if there is a zero among them. Otherwise their
text is the one that gives them in UTF-8 if they are well-formed, else in code page 1252 if each byte is a character there,
and else in Latin-1. -/
theorem decodeFile?_lossless (bytes : List UInt8) :
    (decodeFile? bytes = none ↔ 0 ∈ bytes) ∧
    ∀ s, decodeFile? bytes = some s ↔ 0 ∉ bytes ∧
      (WellFormedUtf8 bytes → encodeUtf8 s = bytes) ∧
      (¬ WellFormedUtf8 bytes → (∀ b ∈ bytes, b ∉ unusedBytes) → encodeWindows? s = some bytes) ∧
      (¬ WellFormedUtf8 bytes → (∃ b ∈ bytes, b ∈ unusedBytes) → encodeLatin1? s = some bytes) := by
  by_cases hzero : 0 ∈ bytes
  · have hfile : decodeFile? bytes = none := if_pos (List.contains_iff_mem.2 hzero)
    simp [hfile, hzero]
  have hfile : decodeFile? bytes = some (((decodeUtf8? bytes).or (decodeWindows? bytes)).getD (decodeLatin1 bytes)) :=
    if_neg fun h => hzero (List.contains_iff_mem.1 h)
  refine ⟨by simp [hfile, hzero], fun s => ?_⟩
  rw [hfile]
  cases hutf8 : decodeUtf8? bytes with
  | some t =>
    have hform : WellFormedUtf8 bytes := wellFormedUtf8_iff.2 ⟨t, decodeUtf8?_eq_some_iff.1 hutf8⟩
    rw [Option.some_or, Option.getD_some, ← hutf8, decodeUtf8?_eq_some_iff]
    exact ⟨fun hs => ⟨hzero, fun _ => hs, fun hno => absurd hform hno, fun hno => absurd hform hno⟩,
      fun h => h.2.1 hform⟩
  | none =>
    have hform := decodeUtf8?_eq_none_iff.1 hutf8
    rw [Option.none_or]
    cases hwindows : decodeWindows? bytes with
    | some t =>
      have hused : ¬ ∃ b ∈ bytes, b ∈ unusedBytes := by
        rw [← decodeWindows?_eq_none_iff, hwindows]
        exact fun h => by cases h
      rw [Option.getD_some, ← hwindows, decodeWindows?_eq_some_iff]
      exact ⟨fun hs => ⟨hzero, fun hyes => absurd hyes hform, fun _ _ => hs, fun _ hsome => absurd hsome hused⟩,
        fun h => h.2.2.1 hform fun b hb hunused => hused ⟨b, hb, hunused⟩⟩
    | none =>
      obtain ⟨b, hb, hbad⟩ := decodeWindows?_eq_none_iff.1 hwindows
      rw [Option.getD_none, Option.some_inj, decodeLatin1_eq_iff]
      exact ⟨fun hs => ⟨hzero, fun hyes => absurd hyes hform, fun _ hall => absurd hbad (hall b hb), fun _ _ => hs⟩,
        fun h => h.2.2.2 hform ⟨b, hb, hbad⟩⟩

end MsxWorkbench.Text
