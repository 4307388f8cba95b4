import MsxWorkbench.Gallery.AlphabetViewer
import MsxWorkbench.Proofs.Picture.Screens
/-
# The table of an alphabet

Glyphs are drawn bit by bit and put on the table one after the other. A pixel of a drawn image has the colour on which all
strokes for it agree (`pixel_drawn`), so a glyph shows its bits (`glyphImage_pixel`) and a pixel of the table belongs to the
one glyph that is put there (`glyphTable_pixel`). A click finds the same glyph, and whatever was clicked before, it still
does (`click_selects_shown`).
-/
namespace MsxWorkbench.Picture

theorem mem_strokesAt {i : Image} {left top : Nat} {s : Stroke} :
    s ∈ i.strokesAt left top ↔ ∃ y < i.height, ∃ x < i.width, s = ⟨left + x, top + y, i.pixel x y⟩ := by
  simp [Image.strokesAt, eq_comm]

/-! ## Glyphs -/

theorem mem_glyphStrokes {data : Array UInt8} {glyph : Nat} {s : Stroke} : s ∈ glyphStrokes data glyph ↔
    s.y < 8 ∧ s.x < 8 ∧ bitAt (data.getD (glyph * 8 + s.y) 0) s.x = true ∧ s.color = .white := by
  obtain ⟨x, y, color⟩ := s
  simp only [glyphStrokes, List.mem_flatMap, List.mem_map, List.mem_filter, List.mem_range, beq_iff_eq,
    columnBit_eq_one_iff, Stroke.mk.injEq]
  constructor
  · rintro ⟨row, hrow, column, ⟨hcolumn, hbit⟩, rfl, rfl, rfl⟩
    exact ⟨hrow, hcolumn, hbit, rfl⟩
  · rintro ⟨hy, hx, hbit, rfl⟩
    exact ⟨y, hy, x, ⟨hx, hbit⟩, rfl, rfl, rfl⟩

/-- A glyph is white where its bit is set. -/
theorem glyphImage_pixel (data : Array UInt8) (glyph : Nat) {x y : Nat} (hx : x < 8) (hy : y < 8) :
    (glyphImage data glyph).pixel x y = if bitAt (data.getD (glyph * 8 + y) 0) x then .white else .black := by
  refine pixel_drawn hx hy (fun s hs => (mem_glyphStrokes.1 hs).2.1) ?_ ?_
  · rintro s hs rfl rfl
    obtain ⟨-, -, hbit, hwhite⟩ := mem_glyphStrokes.1 hs
    rw [hbit, hwhite, if_pos rfl]
  · intro hnone
    refine if_neg fun hbit => ?_
    exact hnone ⟨x, y, .white⟩ (mem_glyphStrokes.2 ⟨hy, hx, hbit, rfl⟩) ⟨rfl, rfl⟩

theorem mem_tableStrokes {glyphs : List Image} {s : Stroke} : s ∈ tableStrokes glyphs ↔
    ∃ (i : Nat) (glyph : Image), glyphs[i]? = some glyph ∧ s ∈ glyph.strokesAt (i % 16 * 8) (i / 16 * 8) := by
  simp only [tableStrokes, List.mem_flatMap, Prod.exists, List.mem_zipIdx_iff_getElem?]
  exact exists_comm

/-- A pixel of the table belongs to the glyph of its row and column of glyphs. -/
theorem glyphTable_pixel {glyphs : List Image} (hsize : ∀ glyph ∈ glyphs, glyph.width = 8 ∧ glyph.height = 8)
    {x y : Nat} (hx : x < 128) (hy : y < 128) {glyph : Image} (hglyph : glyphs[16 * (y / 8) + x / 8]? = some glyph) :
    (glyphTable glyphs).pixel x y = glyph.pixel (x % 8) (y % 8) := by
  obtain ⟨hwidth, hheight⟩ := hsize glyph (List.mem_of_getElem? hglyph)
  refine pixel_drawn hx hy ?_ ?_ ?_
  · intro s hs
    obtain ⟨i, other, hother, hs⟩ := mem_tableStrokes.1 hs
    obtain ⟨-, -, a, ha, rfl⟩ := mem_strokesAt.1 hs
    rw [(hsize other (List.mem_of_getElem? hother)).1] at ha
    dsimp only
    omega
  · rintro s hs rfl rfl
    obtain ⟨i, other, hother, hs⟩ := mem_tableStrokes.1 hs
    obtain ⟨b, hb, a, ha, rfl⟩ := mem_strokesAt.1 hs
    obtain ⟨hw, hh⟩ := hsize other (List.mem_of_getElem? hother)
    rw [hw] at ha
    rw [hh] at hb
    dsimp only at hglyph hx hy ⊢
    -- the place of the stroke gives back the number of its glyph and the pixel inside
    have hindex : 16 * ((i / 16 * 8 + b) / 8) + (i % 16 * 8 + a) / 8 = i := by omega
    have hcolumn : (i % 16 * 8 + a) % 8 = a := by omega
    have hrow : (i / 16 * 8 + b) % 8 = b := by omega
    rw [hindex, hother] at hglyph
    rw [hcolumn, hrow, Option.some.inj hglyph]
  · intro hnone
    have hleft : (16 * (y / 8) + x / 8) % 16 * 8 + x % 8 = x := by omega
    have htop : (16 * (y / 8) + x / 8) / 16 * 8 + y % 8 = y := by omega
    have hmem : ⟨x, y, glyph.pixel (x % 8) (y % 8)⟩ ∈ tableStrokes glyphs := by
      refine mem_tableStrokes.2 ⟨_, glyph, hglyph, mem_strokesAt.2 ⟨y % 8, by omega, x % 8, by omega, ?_⟩⟩
      rw [hleft, htop]
    exact absurd ⟨rfl, rfl⟩ (hnone _ hmem)

end MsxWorkbench.Picture

namespace MsxWorkbench.Gallery.AlphabetViewer

open Picture

/-! ## Files -/

section
variable {file : List UInt8}

theorem alphabetData_of_le (h : 2055 ≤ file.length) : alphabetData file = .ok ((file.drop 7).take 2048).toArray := by
  refine if_pos ?_
  rw [List.length_take, List.length_drop]
  unfold alphabetHeader alphabetBytes
  omega

theorem alphabetData_of_lt (h : file.length < 2055) : ∃ count, alphabetData file = .error count := by
  refine ⟨_, if_neg ?_⟩
  rw [List.length_take, List.length_drop]
  unfold alphabetHeader alphabetBytes
  omega

theorem getElem?_file {i : Nat} (h : 2055 ≤ file.length) (hi : i < 2048) :
    file[7 + i]? = some (((file.drop 7).take 2048).toArray.getD i 0) := by
  have hbyte : ((file.drop 7).take 2048)[i]? = file[7 + i]? := by
    rw [List.getElem?_take_of_lt hi, List.getElem?_drop]
  rw [Array.getD_eq_getD_getElem?, List.getElem?_toArray, hbyte, List.getElem?_eq_getElem (by omega)]
  rfl

end

/-! ## What the viewer shows -/

/-- The viewer has some data, the glyphs that it gives and their table. -/
structure Shows (v : AlphabetViewer) (bytes : Array UInt8) : Prop where
  data : v.data = some bytes
  glyphs : v.glyphs = (List.range 256).map (glyphImage bytes)
  table : v.table = some ((glyphTable v.glyphs).zoom 2)

section
variable {v : AlphabetViewer} {data : Array UInt8}

theorem Shows.getElem?_glyphs (h : v.Shows data) {i : Nat} (hi : i < 256) : v.glyphs[i]? = some (glyphImage data i) := by
  rw [h.glyphs, List.getElem?_map, List.getElem?_range hi]
  rfl

theorem glyphs_not_isEmpty (hglyphs : v.glyphs = (List.range 256).map (glyphImage data)) : v.glyphs.isEmpty = false := by
  rw [hglyphs, List.isEmpty_eq_false_iff]
  exact List.ne_nil_of_length_pos (by rw [List.length_map, List.length_range]; decide)

/-- Every glyph can be selected. -/
theorem Shows.select (h : v.Shows data) {i : Nat} (hi : i < 256) :
    v.select i = ({ v with detail := some ((glyphImage data i).zoom 16), info := infoText i }, none) := by
  have hposition : positionIn v.glyphs.length i = .ok i := by
    rw [h.glyphs, List.length_map, List.length_range]
    have hpositive : ¬ (i : Int) < 0 := by omega
    simp only [positionIn, if_neg hpositive]
    rw [if_neg (by omega), if_pos (by omega)]
    rfl
  have hitem : itemAt v.glyphs i = .ok (glyphImage data i) := by
    unfold itemAt
    rw [hposition]
    simp only [bind, Except.bind]
    rw [h.getElem?_glyphs hi]
    rfl
  unfold AlphabetViewer.select
  rw [glyphs_not_isEmpty h.glyphs, hitem]
  rfl

/-- A complete file is shown. -/
theorem shows_setFile (v : AlphabetViewer) {file : List UInt8} (hdata : alphabetData file = .ok data) :
    (v.setFile (.ok file)).1.Shows data := by
  have hglyphs : ({ v with data := some data } : AlphabetViewer).makeGlyphs.glyphs =
      (List.range 256).map (glyphImage data) := rfl
  have hdrawn : ({ v with data := some data } : AlphabetViewer).makeGlyphs.drawTable.Shows data := by
    unfold drawTable
    rw [glyphs_not_isEmpty hglyphs]
    exact ⟨rfl, rfl, rfl⟩
  have hset : (v.setFile (.ok file)).1 = (({ v with data := some data } : AlphabetViewer).makeGlyphs.drawTable.select 65).1 := by
    unfold setFile
    dsimp only
    rw [hdata]
  rw [hset, show (65 : Int) = ((65 : Nat) : Int) from rfl, hdrawn.select (by decide)]
  exact ⟨hdrawn.data, hdrawn.glyphs, hdrawn.table⟩

/-- A click keeps data, glyphs and table, wherever it goes. -/
theorem Shows.click (h : v.Shows data) (x y : Int) : (v.click x y).1.Shows data := by
  simp only [AlphabetViewer.click, h.data, Option.isNone_some, Bool.false_eq_true, if_false]
  by_cases hindex : 0 ≤ glyphUnder x y ∧ glyphUnder x y ≤ 255
  · obtain ⟨i, hi⟩ := Int.eq_ofNat_of_zero_le hindex.1
    rw [if_pos hindex, hi, h.select (by omega)]
    exact ⟨h.data, h.glyphs, h.table⟩
  · rw [if_neg hindex]
    exact h

theorem Shows.clicks (h : v.Shows data) (clicks : List (Int × Int)) :
    (clicks.foldl (fun v p => (v.click p.1 p.2).1) v).Shows data := by
  induction clicks generalizing v with
  | nil => exact h
  | cons p clicks ih => exact ih (h.click p.1 p.2)

/-- A click on the table selects the glyph at the point. -/
theorem Shows.click_inside (h : v.Shows data) {x y : Nat} (hx : x < 256) (hy : y < 256) :
    v.click x y = ({ v with
      detail := some ((glyphImage data (16 * (y / 16) + x / 16)).zoom 16)
      info := infoText (16 * (y / 16) + x / 16 : Nat) }, none) := by
  have hunder : glyphUnder x y = (16 * (y / 16) + x / 16 : Nat) := by
    unfold glyphUnder
    rw [Int.fdiv_eq_ediv_of_nonneg _ (by decide), Int.fdiv_eq_ediv_of_nonneg _ (by decide),
      Int.fdiv_eq_ediv_of_nonneg _ (by decide), Int.fdiv_eq_ediv_of_nonneg _ (by decide)]
    omega
  simp only [AlphabetViewer.click, h.data, Option.isNone_some, Bool.false_eq_true, if_false, hunder]
  rw [if_pos (by omega), h.select (by omega), h.data]

theorem size_glyphs (data : Array UInt8) :
    ∀ glyph ∈ (List.range 256).map (glyphImage data), glyph.width = 8 ∧ glyph.height = 8 := by
  intro glyph hglyph
  obtain ⟨i, -, rfl⟩ := List.mem_map.1 hglyph
  exact ⟨rfl, rfl⟩

/-- The table shows the bits of the glyph at the point. -/
theorem Shows.pixel_table (h : v.Shows data) {x y : Nat} (hx : x < 256) (hy : y < 256) :
    ((glyphTable v.glyphs).zoom 2).pixel x y =
      if bitAt (data.getD (8 * (16 * (y / 16) + x / 16) + y % 16 / 2) 0) (x % 16 / 2) then .white else .black := by
  have hindex : 16 * (y / 2 / 8) + x / 2 / 8 = 16 * (y / 16) + x / 16 := by omega
  have hglyph : v.glyphs[16 * (y / 2 / 8) + x / 2 / 8]? = some (glyphImage data (16 * (y / 16) + x / 16)) := by
    rw [hindex]
    exact h.getElem?_glyphs (by omega)
  have hcolumn : x / 2 % 8 = x % 16 / 2 := by omega
  have hrow : y / 2 % 8 = y % 16 / 2 := by omega
  refine (glyphTable_pixel (h.glyphs ▸ size_glyphs data) (by omega) (by omega) hglyph).trans ?_
  rw [glyphImage_pixel data _ (by omega) (by omega), hcolumn, hrow, Nat.mul_comm _ 8]

end

/-- **The table shows what a click selects.** An incomplete file leaves the viewer as it is. After a complete one, and any
clicks since, the table is 256 pixels wide and high. Each of its pixels belongs to the glyph `i` of its row and column of
sixteen, and it is white if its bit is set in the byte of the file for its row of that glyph, else black. A click on the
pixel selects this glyph: it is shown enlarged, with its number, and nothing else changes. -/
theorem click_selects_shown (v : AlphabetViewer) (file : List UInt8) (clicks : List (Int × Int)) :
    let opened := (v.setFile (.ok file)).1
    (file.length < 2055 → opened = v) ∧
    (2055 ≤ file.length →
      let shown := clicks.foldl (fun v p => (v.click p.1 p.2).1) opened
      ∃ table : Image, shown.table = some table ∧ table.width = 256 ∧ table.height = 256 ∧
        ∀ x y : Nat, x < 256 → y < 256 →
          let i := 16 * (y / 16) + x / 16
          (∃ byte : UInt8, file[7 + (8 * i + y % 16 / 2)]? = some byte ∧
            table.pixel x y = if byte.toNat.testBit (7 - x % 16 / 2) then .white else .black) ∧
          ∃ glyph : Image, shown.glyphs[i]? = some glyph ∧
            shown.click x y = ({ shown with detail := some (glyph.zoom 16), info := infoText i }, none) ∧
            ∀ column row : Nat, column < 8 → row < 8 →
              ∃ byte : UInt8, file[7 + (8 * i + row)]? = some byte ∧
                glyph.pixel column row = if byte.toNat.testBit (7 - column) then .white else .black) := by
  intro opened
  constructor
  · intro hshort
    obtain ⟨count, hcount⟩ := alphabetData_of_lt hshort
    change (v.setFile (.ok file)).1 = v
    unfold setFile
    dsimp only
    rw [hcount]
  · intro hlong shown
    have hshows : shown.Shows ((file.drop 7).take 2048).toArray :=
      (shows_setFile v (alphabetData_of_le hlong)).clicks clicks
    refine ⟨_, hshows.table, rfl, rfl, ?_⟩
    intro x y hx hy i
    refine ⟨⟨_, getElem?_file hlong (by omega), hshows.pixel_table hx hy⟩, _, hshows.getElem?_glyphs (by omega),
      hshows.click_inside hx hy, ?_⟩
    intro column row hcolumn hrow
    refine ⟨_, getElem?_file hlong (by omega), ?_⟩
    rw [glyphImage_pixel _ _ hcolumn hrow, Nat.mul_comm _ 8]
    rfl

end MsxWorkbench.Gallery.AlphabetViewer
