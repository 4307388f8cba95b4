import MsxWorkbench.Charset.Table
import MsxWorkbench.Proofs.Steps
/-
# Cells of the character tables

A table is put together from arrays, assignments and fixed lists, and a cell of it is meant to hold the character of its
code, or nothing. This module traces each of the 256 cells of each table back to where its text comes from, from
`of_assemble_eq_ok` for one table to `of_build_eq_ok` for all five.

Arrays of single characters give cells of at most one character. Two sources give longer ones: the bytewise texts of the
Russian table, and an assignment of the Brazilian source, whose literal is taken as it stands. `length_cell_le_one_iff`
says that these are the only ones. The Russian cells do not come from the sources, so they are long in all tables that
are written.
-/
namespace MsxWorkbench.Charset

/-! ## Assignments -/

/-- The item that is assigned last to a place of a list of `size` texts. -/
def lastItem? (size : Nat) (assignments : List (Nat × List Char)) (i : Nat) : Option (List Char) :=
  (assignments.reverse.find? fun a => (positionIn size ((a.1 : Int) - 0x80)).toOption == some i).map Prod.snd

theorem lastItem?_cons (size : Nat) (a : Nat × List Char) (assignments : List (Nat × List Char)) (i : Nat) :
    lastItem? size (a :: assignments) i = (lastItem? size assignments i).or
      (if (positionIn size ((a.1 : Int) - 0x80)).toOption = some i then some a.2 else none) := by
  unfold lastItem?
  rw [List.reverse_cons, List.find?_append, List.find?_singleton]
  cases assignments.reverse.find? fun a => (positionIn size ((a.1 : Int) - 0x80)).toOption == some i with
  | some b => rfl
  | none =>
    by_cases hi : (positionIn size ((a.1 : Int) - 0x80)).toOption = some i
    · simp [hi]
    · simp [hi]

theorem of_assign_eq_ok {chars out : List (List Char)} {position : Nat} {text : List Char}
    (h : assign chars position text = .ok out) :
    ∃ i, (positionIn chars.length ((position : Int) - 0x80)).toOption = some i ∧ out = chars.set i text := by
  unfold assign at h
  generalize positionIn chars.length ((position : Int) - 0x80) = place at h
  cases place with
  | ok i => exact ⟨i, rfl, (Except.ok.inj h).symm⟩
  | error e => cases e <;> cases h

/-- After all assignments a place holds the text of the last item assigned to it, or what it held before. -/
theorem of_assignAll_eq_ok {assignments : List (Nat × List Char)} {chars out : List (List Char)}
    (h : assignAll chars assignments = .ok out) :
    out.length = chars.length ∧ ∀ i < chars.length,
      (lastItem? chars.length assignments i = none ∧ out[i]? = chars[i]?) ∨
        ∃ item text, lastItem? chars.length assignments i = some item ∧ assignedText item = .ok text ∧
          out[i]? = some text := by
  induction assignments generalizing chars with
  | nil =>
    cases h
    exact ⟨rfl, fun i _ => Or.inl ⟨rfl, rfl⟩⟩
  | cons a assignments ih =>
    obtain ⟨text, htext, h⟩ := of_bind_eq_ok h
    obtain ⟨next, hassign, h⟩ := of_bind_eq_ok h
    obtain ⟨place, hplace, rfl⟩ := of_assign_eq_ok hassign
    obtain ⟨hlength, hcells⟩ := ih h
    rw [List.length_set] at hlength hcells
    refine ⟨hlength, fun i hi => ?_⟩
    rw [lastItem?_cons]
    obtain ⟨hnone, hkept⟩ | ⟨item, later, hsome, hlater, hout⟩ := hcells i hi
    · rw [hnone, Option.none_or, hplace]
      by_cases hip : place = i
      · subst hip
        refine Or.inr ⟨a.2, text, if_pos rfl, htext, ?_⟩
        rw [hkept, List.getElem?_set_self hi]
      · refine Or.inl ⟨if_neg (by simpa using hip), ?_⟩
        rw [hkept, List.getElem?_set_ne hip]
    · exact Or.inr ⟨item, later, by rw [hsome]; rfl, hlater, hout⟩

/-! ## Parts of a table -/

theorem of_graphicPart_eq_ok {graphics : Option (List (List Char))} {low : List (List Char)}
    (h : graphicPart graphics = .ok low) :
    ∃ items, graphics = some items ∧ low.length = 32 ∧ ∀ text ∈ low, text ∈ items := by
  cases graphics with
  | none => cases h
  | some items =>
    unfold graphicPart at h
    dsimp only at h
    by_cases hshort : items.length < 32
    · rw [if_pos hshort] at h
      cases h
    · rw [if_neg hshort] at h
      cases h
      exact ⟨items, rfl, by rw [List.length_take]; omega, fun text htext => List.mem_of_mem_take htext⟩

theorem of_highPart_eq_ok {high : Option (List (List Char))} {top : List (List Char)} (h : highPart high = .ok top) :
    ∃ items, high = some items ∧ top.length = 128 ∧ ∀ i < 128, top.getD i [] = items.getD i [] := by
  cases high with
  | none => cases h
  | some items =>
    cases h
    refine ⟨items, rfl, by simp; omega, fun i hi => ?_⟩
    rw [List.getD_eq_getElem?_getD, List.getD_eq_getElem?_getD]
    by_cases hin : i < items.length
    · rw [List.getElem?_append_left (by rw [List.length_take]; omega), List.getElem?_take_of_lt hi]
    · rw [List.getElem?_append_right (by rw [List.length_take]; omega), List.getElem?_replicate,
        List.getElem?_eq_none (Nat.le_of_not_lt hin)]
      split <;> rfl

theorem of_filled_eq_ok {size : Nat} {array : Option (List (List Char))} {out : List (List Char)}
    (h : filled size array = .ok out) :
    ∃ items, array = some items ∧ out.length = size ∧ ∀ text ∈ out, text ∈ items ∨ text = single 0xFFFD := by
  cases array with
  | none => cases h
  | some items =>
    cases h
    refine ⟨items, rfl, by simp; omega, fun text htext => ?_⟩
    obtain hitem | hfill := List.mem_append.1 htext
    · exact Or.inl (List.mem_of_mem_take hitem)
    · exact Or.inr (List.eq_of_mem_replicate hfill)

/-- A table has 256 entries. The first half holds graphic characters, the ASCII part and the house sign, and the second
one the high half. -/
theorem of_assemble_eq_ok {graphics high : Option (List (List Char))} {ascii : List (List Char)} {house : List Char}
    {table : Table} (hascii : ascii.length = 95) (h : assemble graphics ascii house high = .ok table) :
    ∃ low top, graphics = some low ∧ high = some top ∧ table.length = 256 ∧
      (∀ i < 128, table.getD i [] ∈ low ∨ table.getD i [] ∈ ascii ∨ table.getD i [] = house) ∧
      ∀ i < 128, table.getD (0x80 + i) [] = top.getD i [] := by
  obtain ⟨lowPart, hlow, h⟩ := of_bind_eq_ok h
  obtain ⟨topPart, htop, h⟩ := of_bind_eq_ok h
  cases h
  obtain ⟨low, hgraphics, hlowLength, hlowItems⟩ := of_graphicPart_eq_ok hlow
  obtain ⟨top, hhigh, htopLength, htopItems⟩ := of_highPart_eq_ok htop
  have hfront : (lowPart ++ ascii ++ [house]).length = 128 := by simp [hlowLength, hascii]
  refine ⟨low, top, hgraphics, hhigh, by simp [hlowLength, hascii, htopLength], fun i hi => ?_, fun i hi => ?_⟩
  · have hmem : (lowPart ++ ascii ++ [house] ++ topPart).getD i [] ∈ lowPart ++ ascii ++ [house] := by
      rw [List.getD_eq_getElem?_getD, List.getElem?_append_left (by rw [hfront]; exact hi),
        List.getElem?_eq_getElem (by rw [hfront]; exact hi), Option.getD_some]
      exact List.getElem_mem _
    simp only [List.mem_append, List.mem_singleton] at hmem
    obtain (hitem | hitem) | hitem := hmem
    · exact Or.inl (hlowItems _ hitem)
    · exact Or.inr (Or.inl hitem)
    · exact Or.inr (Or.inr hitem)
  · rw [← htopItems i hi, List.getD_eq_getElem?_getD, List.getD_eq_getElem?_getD,
      List.getElem?_append_right (by rw [hfront]; omega), hfront, Nat.add_sub_cancel_left]

/-! ## What the tables are built from -/

/-- An array of a source file, if the file is there and declares it. -/
def arrayRead? (files : SourceFiles) (file : SourceFile) (name : String) : Option (List (List Char)) :=
  ((readSource files file).toOption.bind fun content => (arrayOf content name).toOption).join

theorem arrayRead?_eq {files : SourceFiles} {file : SourceFile} {name : String} {content : List Char}
    {array : Option (List (List Char))} (hcontent : readSource files file = .ok content)
    (harray : arrayOf content name = .ok array) : arrayRead? files file name = array := by
  unfold arrayRead?
  rw [hcontent]
  dsimp only [Except.toOption, Option.bind_some]
  rw [harray]
  rfl

/-- The tables that are built, each from its arrays. -/
theorem of_build_eq_ok {files : SourceFiles} {tables : Tables} (h : build files = .ok tables) :
    ∃ international japanese brazilian russian arabic source brazilianTop russianTop,
      tables = [("International", international), ("Japanese", japanese), ("Brazilian", brazilian),
        ("Russian", russian), ("Arabic", arabic)] ∧
      assemble (arrayRead? files .common "GRAPHIC_CHARS_INTL") plainAscii houseSign
        (arrayRead? files .common "HIGH_CHARS_INTERNATIONAL") = .ok international ∧
      assemble (arrayRead? files .common "GRAPHIC_CHARS_JP") (asciiPart 0x5C (single 0xA5)) []
        (arrayRead? files .japanese "HIGH_CHARS_JAPANESE") = .ok japanese ∧
      readSource files .brazilian = .ok source ∧
      readOverrides source ((arrayRead? files .common "HIGH_CHARS_INTERNATIONAL").getD []) = .ok brazilianTop ∧
      assemble (arrayRead? files .common "GRAPHIC_CHARS_INTL") plainAscii houseSign (some brazilianTop) =
        .ok brazilian ∧
      russianHigh (arrayRead? files .common "BLOCK_ELEMENTS_MSX") (arrayRead? files .common "MATH_GREEK_CHARS") =
        .ok russianTop ∧
      assemble (arrayRead? files .common "GRAPHIC_CHARS_INTL") plainAscii houseSign (some russianTop) = .ok russian ∧
      assemble (arrayRead? files .common "GRAPHIC_CHARS_AR") plainAscii []
        (arrayRead? files .arabic "HIGH_CHARS_ARABIC") = .ok arabic := by
  obtain ⟨common, hcommon, h⟩ := of_bind_eq_ok h
  obtain ⟨graphics, hgraphics, h⟩ := of_bind_eq_ok h
  obtain ⟨japaneseGraphics, hjapaneseGraphics, h⟩ := of_bind_eq_ok h
  obtain ⟨-, -, h⟩ := of_bind_eq_ok h
  obtain ⟨high, hhigh, h⟩ := of_bind_eq_ok h
  obtain ⟨international, hinternational, h⟩ := of_bind_eq_ok h
  obtain ⟨japaneseSource, hjapaneseSource, h⟩ := of_bind_eq_ok h
  obtain ⟨japaneseHigh, hjapaneseHigh, h⟩ := of_bind_eq_ok h
  obtain ⟨japanese, hjapanese, h⟩ := of_bind_eq_ok h
  obtain ⟨source, hsource, h⟩ := of_bind_eq_ok h
  obtain ⟨brazilianTop, hbrazilianTop, h⟩ := of_bind_eq_ok h
  obtain ⟨brazilian, hbrazilian, h⟩ := of_bind_eq_ok h
  obtain ⟨-, -, h⟩ := of_bind_eq_ok h
  obtain ⟨blocks, hblocks, h⟩ := of_bind_eq_ok h
  obtain ⟨math, hmath, h⟩ := of_bind_eq_ok h
  obtain ⟨russianTop, hrussianTop, h⟩ := of_bind_eq_ok h
  obtain ⟨russian, hrussian, h⟩ := of_bind_eq_ok h
  obtain ⟨arabicSource, harabicSource, h⟩ := of_bind_eq_ok h
  obtain ⟨arabicHigh, harabicHigh, h⟩ := of_bind_eq_ok h
  obtain ⟨arabicGraphics, harabicGraphics, h⟩ := of_bind_eq_ok h
  obtain ⟨arabic, harabic, h⟩ := of_bind_eq_ok h
  rw [arrayRead?_eq hcommon hgraphics, arrayRead?_eq hcommon hjapaneseGraphics, arrayRead?_eq hcommon hhigh,
    arrayRead?_eq hjapaneseSource hjapaneseHigh, arrayRead?_eq hcommon hblocks, arrayRead?_eq hcommon hmath,
    arrayRead?_eq harabicSource harabicHigh, arrayRead?_eq hcommon harabicGraphics]
  exact ⟨international, japanese, brazilian, russian, arabic, source, brazilianTop, russianTop,
    (Except.ok.inj h).symm, hinternational, hjapanese, hsource, of_mapError_eq_ok hbrazilianTop, hbrazilian,
    hrussianTop, hrussian, harabic⟩

/-! ## Texts of one character -/

theorem length_asciiPart (replaced : Nat) (text : List Char) : (asciiPart replaced text).length = 95 := by
  simp [asciiPart]

theorem length_of_mem_asciiPart {replaced : Nat} {text t : List Char} (htext : text.length ≤ 1)
    (ht : t ∈ asciiPart replaced text) : t.length ≤ 1 := by
  obtain ⟨i, -, rfl⟩ := List.mem_map.1 ht
  split
  · exact htext
  · exact Nat.le_refl 1

/-- The cells of a table hold at most one character but for the long ones of its high half. -/
theorem cells_of_assemble {graphics high : Option (List (List Char))} {replaced : Nat} {text house : List Char}
    {table : Table} (h : assemble graphics (asciiPart replaced text) house high = .ok table)
    (htext : text.length ≤ 1) (hhouse : house.length ≤ 1)
    (hlow : ∀ low, graphics = some low → ∀ t ∈ low, t.length = 1)
    {long : Nat → Prop} (hlong : ∀ code < 0x80, ¬ long code)
    (htop : ∀ top, high = some top → ∀ i < 128, ((top.getD i []).length ≤ 1 ↔ ¬ long (0x80 + i))) :
    table.length = 256 ∧ ∀ code < 256, ((table.getD code []).length ≤ 1 ↔ ¬ long code) := by
  obtain ⟨low, top, hgraphics, hhigh, hlength, hfront, hback⟩ := of_assemble_eq_ok (length_asciiPart _ _) h
  refine ⟨hlength, fun code hcode => ?_⟩
  by_cases hsmall : code < 0x80
  · refine iff_of_true ?_ (hlong code hsmall)
    obtain hitem | hitem | hitem := hfront code hsmall
    · exact Nat.le_of_eq (hlow low hgraphics _ hitem)
    · exact length_of_mem_asciiPart htext hitem
    · exact hitem ▸ hhouse
  · obtain ⟨i, rfl⟩ : ∃ i, code = 0x80 + i := ⟨code - 0x80, by omega⟩
    rw [hback i (by omega)]
    exact htop top hhigh i (by omega)

theorem length_getD_le {items : List (List Char)} (h : ∀ t ∈ items, t.length = 1) (i : Nat) :
    (items.getD i []).length ≤ 1 := by
  rw [List.getD_eq_getElem?_getD]
  cases hi : items[i]? with
  | none => exact Nat.zero_le 1
  | some t => exact Nat.le_of_eq (h t (List.mem_of_getElem? hi))

/-- Whether a text has more than one character. -/
def isLong (t : List Char) : Bool := decide (1 < t.length)

theorem map_isLong_eq {b : Bool} {texts : List (List Char)} (h : ∀ t ∈ texts, isLong t = b) :
    texts.map isLong = List.replicate texts.length b :=
  List.eq_replicate_iff.2 ⟨List.length_map _, fun c hc => by
    obtain ⟨t, ht, rfl⟩ := List.mem_map.1 hc
    exact h t ht⟩

/-- In the high half of the Russian table the bytewise texts are long: the symbols and the letters. -/
theorem map_isLong_russianHigh {blocks math : Option (List (List Char))} {top : List (List Char)}
    (hblocks : ∀ items, blocks = some items → ∀ t ∈ items, t.length = 1)
    (hmath : ∀ items, math = some items → ∀ t ∈ items, t.length = 1) (h : russianHigh blocks math = .ok top) :
    top.map isLong = List.replicate 24 false ++ List.replicate 8 true ++ List.replicate 31 false ++ [false] ++
      List.replicate 32 true ++ List.replicate 31 true ++ [false] := by
  have hfilled : ∀ {size : Nat} {array : Option (List (List Char))} {out : List (List Char)},
      (∀ items, array = some items → ∀ t ∈ items, t.length = 1) → filled size array = .ok out →
        out.map isLong = List.replicate size false := by
    intro size array out harray hout
    obtain ⟨items, hitems, hlength, hmem⟩ := of_filled_eq_ok hout
    rw [← hlength]
    refine map_isLong_eq fun t ht => ?_
    obtain hitem | rfl := hmem t ht
    · simp [isLong, harray items hitems t hitem]
    · rfl
  obtain ⟨blockPart, hblockPart, h⟩ := of_bind_eq_ok h
  obtain ⟨mathPart, hmathPart, h⟩ := of_bind_eq_ok h
  cases h
  have hsymbols : (russianSymbols.map bytewise).map isLong = List.replicate 8 true := by decide
  have hsmall : (russianSmall.map bytewise).map isLong = List.replicate 32 true := by decide
  have hcapital : (russianCapital.map bytewise).map isLong = List.replicate 31 true := by decide
  simp only [List.map_append, hfilled hblocks hblockPart, hfilled hmath hmathPart, hsymbols, hsmall, hcapital]
  rfl

/-- The long cells of the Russian table, by their place in the high half. -/
theorem long_russianHigh {blocks math : Option (List (List Char))} {top : List (List Char)}
    (hblocks : ∀ items, blocks = some items → ∀ t ∈ items, t.length = 1)
    (hmath : ∀ items, math = some items → ∀ t ∈ items, t.length = 1) (h : russianHigh blocks math = .ok top)
    {i : Nat} (hi : i < 128) : (top.getD i []).length ≤ 1 ↔ ¬ (24 ≤ i ∧ i < 32 ∨ 64 ≤ i ∧ i < 127) := by
  have hpattern : ∀ i < 128, (List.replicate 24 false ++ List.replicate 8 true ++ List.replicate 31 false ++ [false] ++
      List.replicate 32 true ++ List.replicate 31 true ++ [false])[i]? =
        some (decide (24 ≤ i ∧ i < 32 ∨ 64 ≤ i ∧ i < 127)) := by decide
  have hlong := hpattern i hi
  rw [← map_isLong_russianHigh hblocks hmath h, List.getElem?_map] at hlong
  obtain ⟨t, ht, hdecide⟩ := Option.map_eq_some_iff.1 hlong
  rw [List.getD_eq_getElem?_getD, ht, Option.getD_some, ← Nat.not_lt]
  exact not_congr (decide_eq_decide.1 hdecide)

/-! ## The cells of all tables -/

/-- The arrays that the tables are built from, with the number of texts that each of them is to have. -/
def fullSizes : List (SourceFile × String × Nat) := [
  (.common, "GRAPHIC_CHARS_INTL", 32), (.common, "GRAPHIC_CHARS_JP", 32), (.common, "GRAPHIC_CHARS_AR", 32),
  (.common, "HIGH_CHARS_INTERNATIONAL", 128), (.common, "BLOCK_ELEMENTS_MSX", 24), (.common, "MATH_GREEK_CHARS", 31),
  (.japanese, "HIGH_CHARS_JAPANESE", 128), (.arabic, "HIGH_CHARS_ARABIC", 128)]

/-- Every array has all its texts, and each of them is one character. -/
def FullArrays (files : SourceFiles) : Prop :=
  ∀ array ∈ fullSizes, ∀ items ∈ arrayRead? files array.1 array.2.1,
    items.length = array.2.2 ∧ ∀ t ∈ items, t.length = 1

instance (files : SourceFiles) : Decidable (FullArrays files) :=
  inferInstanceAs (Decidable (∀ array ∈ fullSizes, ∀ items ∈ arrayRead? files array.1 array.2.1,
    items.length = array.2.2 ∧ ∀ t ∈ items, t.length = 1))

/-- The text that the Brazilian source assigns to a code, the last one if there are several. -/
def AssignedTo (files : SourceFiles) (code : Nat) (text : List Char) : Prop :=
  ∃ source item, readSource files .brazilian = .ok source ∧ 0x80 ≤ code ∧
    lastItem? 128 (scanAssignments 0 source) (code - 0x80) = some item ∧ assignedText item = .ok text

/-- The cell of a code in a table with more than one character: of the Russian table those that are shown bytewise, and
of the Brazilian one those to which such a text is assigned. -/
def LongCell (files : SourceFiles) (name : String) (code : Nat) : Prop :=
  name = "Russian" ∧ (0x98 ≤ code ∧ code ≤ 0x9F ∨ 0xC0 ≤ code ∧ code ≤ 0xFE) ∨
    name = "Brazilian" ∧ ∃ text, AssignedTo files code text ∧ 1 < text.length

theorem not_longCell_of_lt (files : SourceFiles) (name : String) : ∀ code < 0x80, ¬ LongCell files name code := by
  rintro code hcode (⟨-, hrange⟩ | ⟨-, text, ⟨source, item, -, hhigh, -⟩, -⟩)
  · omega
  · omega

theorem not_longCell_of_ne {files : SourceFiles} {name : String} (hrussian : name ≠ "Russian")
    (hbrazilian : name ≠ "Brazilian") (code : Nat) : ¬ LongCell files name code := by
  rintro (⟨hname, -⟩ | ⟨hname, -⟩)
  · exact hrussian hname
  · exact hbrazilian hname

theorem longCell_russian (files : SourceFiles) (i : Nat) :
    LongCell files "Russian" (0x80 + i) ↔ 24 ≤ i ∧ i < 32 ∨ 64 ≤ i ∧ i < 127 := by
  have hother : ("Russian" : String) ≠ "Brazilian" := by decide
  constructor
  · rintro (⟨-, hrange⟩ | ⟨hname, -⟩)
    · omega
    · exact absurd hname hother
  · intro hrange
    exact Or.inl ⟨rfl, by omega⟩

theorem longCell_brazilian {files : SourceFiles} {source : List Char}
    (hsource : readSource files .brazilian = .ok source) (i : Nat) :
    LongCell files "Brazilian" (0x80 + i) ↔ ∃ item text,
      lastItem? 128 (scanAssignments 0 source) i = some item ∧ assignedText item = .ok text ∧ 1 < text.length := by
  have hother : ("Brazilian" : String) ≠ "Russian" := by decide
  constructor
  · rintro (⟨hname, -⟩ | ⟨-, text, ⟨source', item, hsource', -, hitem, htext⟩, hlong⟩)
    · exact absurd hname hother
    · cases hsource.symm.trans hsource'
      rw [Nat.add_sub_cancel_left] at hitem
      exact ⟨item, text, hitem, htext, hlong⟩
  · rintro ⟨item, text, hitem, htext, hlong⟩
    rw [← Nat.add_sub_cancel_left 0x80 i] at hitem
    exact Or.inr ⟨rfl, text, ⟨source, item, hsource, Nat.le_add_right _ _, hitem, htext⟩, hlong⟩

/-- A text of the Brazilian high half is the international one, which is short, or what was assigned last. -/
theorem long_readOverrides {files : SourceFiles} {source : List Char} {items top : List (List Char)}
    (hsource : readSource files .brazilian = .ok source) (hlength : items.length = 128)
    (hitems : ∀ t ∈ items, t.length = 1) (h : readOverrides source items = .ok top) {i : Nat} (hi : i < 128) :
    (top.getD i []).length ≤ 1 ↔ ¬ LongCell files "Brazilian" (0x80 + i) := by
  obtain ⟨-, hcells⟩ := of_assignAll_eq_ok h
  rw [hlength] at hcells
  rw [longCell_brazilian hsource, List.getD_eq_getElem?_getD]
  obtain ⟨hnone, hkept⟩ | ⟨item, text, hitem, htext, hout⟩ := hcells i hi
  · rw [hkept, ← List.getD_eq_getElem?_getD]
    refine iff_of_true (length_getD_le hitems i) ?_
    rintro ⟨item, text, hitem, -⟩
    cases hnone.symm.trans hitem
  · rw [hout, Option.getD_some]
    constructor
    · rintro hshort ⟨item', text', hitem', htext', hlong⟩
      cases hitem.symm.trans hitem'
      cases htext.symm.trans htext'
      omega
    · intro hshort
      exact Nat.le_of_not_lt fun hlong => hshort ⟨item, text, hitem, htext, hlong⟩

theorem of_buildFile_eq_ok {files : SourceFiles} {tables : Tables} (h : buildFile files = .ok tables) :
    build files = .ok tables := by
  obtain ⟨built, hbuilt, h⟩ := of_bind_eq_ok h
  cases hhalf : (built.flatMap (·.2)).find? isLoneHalf with
  | some half =>
    rw [hhalf] at h
    cases h
  | none =>
    rw [hhalf] at h
    cases h
    exact hbuilt

/-- **Cells with one character.** Tables that are written, from sources whose arrays have their full length and single
characters, have 256 cells each. The cells with more than one character are those that are shown bytewise in the Russian
table and those to which a longer text was assigned in the Brazilian one. -/
theorem length_cell_le_one_iff {files : SourceFiles} {tables : Tables} (hbuilt : buildFile files = .ok tables)
    (hfull : FullArrays files) :
    tables.map Prod.fst = ["International", "Japanese", "Brazilian", "Russian", "Arabic"] ∧
      ∀ name table, (name, table) ∈ tables → table.length = 256 ∧
        ∀ code < 256, ((table.getD code []).length ≤ 1 ↔ ¬ LongCell files name code) := by
  obtain ⟨international, japanese, brazilian, russian, arabic, source, brazilianTop, russianTop, rfl, hinternational,
    hjapanese, hsource, hbrazilianTop, hbrazilian, hrussianTop, hrussian, harabic⟩ :=
    of_build_eq_ok (of_buildFile_eq_ok hbuilt)
  refine ⟨rfl, ?_⟩
  have hones : ∀ array ∈ fullSizes, ∀ items ∈ arrayRead? files array.1 array.2.1, ∀ t ∈ items, t.length = 1 :=
    fun array harray items hitems => (hfull array harray items hitems).2
  have hgraphics := hones (.common, "GRAPHIC_CHARS_INTL", 32) (by decide)
  -- outside the Russian and the Brazilian table no cell is long, so a whole array of single characters will do
  have hplain : ∀ array ∈ fullSizes, ∀ name, name ≠ "Russian" → name ≠ "Brazilian" → ∀ top,
      arrayRead? files array.1 array.2.1 = some top →
        ∀ i < 128, ((top.getD i []).length ≤ 1 ↔ ¬ LongCell files name (0x80 + i)) :=
    fun array harray name hrussian hbrazilian top htop i _ =>
      iff_of_true (length_getD_le (hones array harray top htop) i) (not_longCell_of_ne hrussian hbrazilian _)
  intro name table hmem
  simp only [List.mem_cons, Prod.mk.injEq, List.not_mem_nil, or_false] at hmem
  obtain ⟨rfl, rfl⟩ | ⟨rfl, rfl⟩ | ⟨rfl, rfl⟩ | ⟨rfl, rfl⟩ | ⟨rfl, rfl⟩ := hmem
  · exact cells_of_assemble hinternational (Nat.zero_le 1) (Nat.le_refl 1) hgraphics (not_longCell_of_lt files _)
      (hplain (.common, "HIGH_CHARS_INTERNATIONAL", 128) (by decide) _ (by decide) (by decide))
  · exact cells_of_assemble hjapanese (Nat.le_refl 1) (Nat.zero_le 1)
      (hones (.common, "GRAPHIC_CHARS_JP", 32) (by decide)) (not_longCell_of_lt files _)
      (hplain (.japanese, "HIGH_CHARS_JAPANESE", 128) (by decide) _ (by decide) (by decide))
  · obtain ⟨low, items, -, hitems, -⟩ := of_assemble_eq_ok (length_asciiPart _ _) hinternational
    obtain ⟨hlength, hsingle⟩ := hfull (.common, "HIGH_CHARS_INTERNATIONAL", 128) (by decide) items hitems
    rw [hitems, Option.getD_some] at hbrazilianTop
    refine cells_of_assemble hbrazilian (Nat.zero_le 1) (Nat.le_refl 1) hgraphics (not_longCell_of_lt files _) ?_
    rintro top ⟨⟩ i hi
    exact long_readOverrides hsource hlength hsingle hbrazilianTop hi
  · refine cells_of_assemble hrussian (Nat.zero_le 1) (Nat.le_refl 1) hgraphics (not_longCell_of_lt files _) ?_
    rintro top ⟨⟩ i hi
    rw [longCell_russian]
    exact long_russianHigh (hones (.common, "BLOCK_ELEMENTS_MSX", 24) (by decide))
      (hones (.common, "MATH_GREEK_CHARS", 31) (by decide)) hrussianTop hi
  · exact cells_of_assemble harabic (Nat.zero_le 1) (Nat.zero_le 1)
      (hones (.common, "GRAPHIC_CHARS_AR", 32) (by decide)) (not_longCell_of_lt files _)
      (hplain (.arabic, "HIGH_CHARS_ARABIC", 128) (by decide) _ (by decide) (by decide))

/-- The declaration of an array with one literal all over. -/
def arrayText (name : String) (size : Nat) (item : String) : List Char :=
  "export const ".toList ++ name.toList ++ ": string[] = [".toList ++
    (List.replicate size (['\''] ++ item.toList ++ ['\'', ','])).flatten ++ "];\n".toList

/-- Sources with whole arrays of single characters and one assignment. -/
def wholeSources : SourceFiles := [
  ("common.ts", arrayText "GRAPHIC_CHARS_INTL" 32 "☺" ++ arrayText "GRAPHIC_CHARS_JP" 32 "月" ++
    arrayText "GRAPHIC_CHARS_AE" 32 "☺" ++ arrayText "GRAPHIC_CHARS_AR" 32 "\\0" ++
    arrayText "HIGH_CHARS_INTERNATIONAL" 128 "Ç" ++ arrayText "BLOCK_ELEMENTS_MSX" 24 "▂" ++
    arrayText "MATH_GREEK_CHARS" 31 "α"),
  ("japanese.ts", arrayText "HIGH_CHARS_JAPANESE" 128 "ア"),
  ("brazilian-br.ts", "chars[0x84 - 0x80] = '\\u00C1';".toList),
  ("russian.ts", []),
  ("arabic-ar.ts", arrayText "HIGH_CHARS_ARABIC" 128 "ع")]

theorem fullArrays_wholeSources : FullArrays wholeSources := by decide +kernel

/-- From these sources tables are written, and the Russian one shows the letter delta as its two bytes. -/
theorem buildFile_wholeSources : ∃ tables table, buildFile wholeSources = .ok tables ∧
    ("Russian", table) ∈ tables ∧ table.getD 0x98 [] = ['Î', '\u0094'] := by
  have hcell : (buildFile wholeSources).toOption.bind (fun tables =>
      tables[3]?.map fun entry => (entry.1, entry.2.getD 0x98 [])) = some ("Russian", ['Î', '\u0094']) := by
    decide +kernel
  cases hbuilt : buildFile wholeSources with
  | error e =>
    rw [hbuilt] at hcell
    cases hcell
  | ok tables =>
    rw [hbuilt] at hcell
    obtain ⟨⟨name, table⟩, hentry, hvalue⟩ := Option.map_eq_some_iff.1 hcell
    obtain ⟨rfl, hvalue⟩ := Prod.mk.inj hvalue
    exact ⟨tables, table, rfl, List.mem_of_getElem? hentry, hvalue⟩

theorem length_cell_le_one_iff_wholeSources : ∃ tables, buildFile wholeSources = .ok tables ∧ FullArrays wholeSources ∧
    ∀ name table, (name, table) ∈ tables → table.length = 256 ∧
      (name ≠ "Russian" → name ≠ "Brazilian" → ∀ code < 256, (table.getD code []).length ≤ 1) := by
  obtain ⟨tables, -, hbuilt, -⟩ := buildFile_wholeSources
  refine ⟨tables, hbuilt, fullArrays_wholeSources, fun name table hmem => ?_⟩
  obtain ⟨hlength, hcells⟩ := (length_cell_le_one_iff hbuilt fullArrays_wholeSources).2 name table hmem
  exact ⟨hlength, fun hrussian hbrazilian code hcode =>
    (hcells code hcode).2 (not_longCell_of_ne hrussian hbrazilian code)⟩

/-- Arrays of single characters do not make every cell one character. -/
theorem not_forall_length_cell_le_one : ¬ ∀ (files : SourceFiles) (tables : Tables), buildFile files = .ok tables →
    FullArrays files → ∀ name table, (name, table) ∈ tables → ∀ code < 256, (table.getD code []).length ≤ 1 := by
  intro hall
  obtain ⟨tables, table, hbuilt, hmem, hcell⟩ := buildFile_wholeSources
  have hshort := hall wholeSources tables hbuilt fullArrays_wholeSources "Russian" table hmem 0x98 (by decide)
  rw [hcell] at hshort
  exact absurd hshort (by decide)

end MsxWorkbench.Charset
