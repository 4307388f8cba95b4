import MsxWorkbench.Proofs.Picture.Drawing
import MsxWorkbench.Proofs.Picture.Packing
/-
# Drawn screens

A screen is drawn byte by byte, and only the strokes for the byte that holds a pixel reach it (`drawScreen_pixel`).
A screen with colours has a stroke for every pixel (`screenImage_pixel`), patterns alone for the set ones only
(`patternImage_pixel`); in black and white both give the same picture (`patternImage_eq_screenImage`).
-/
namespace MsxWorkbench.Picture

/-- The address of the byte that holds a pixel. -/
def screenAddress (x y : Nat) : Nat := 2048 * (y / 64) + 256 * (y % 64 / 8) + 8 * (x / 8) + y % 8

/-! ## The walk over the bytes of a screen -/

/-- The stroke paints one of the eight pixels of a byte. -/
def Stroke.InByte (third tile line : Nat) (s : Stroke) : Prop :=
  s.x / 8 = tile % 32 ∧ s.y = third * 64 + tile / 32 * 8 + line

/-- All strokes for a screen, in the order in which they are made. -/
def allStrokes (strokes : Nat → Nat → Nat → List Stroke) : List Stroke :=
  (List.range 3).flatMap fun third => (List.range 256).flatMap fun tile =>
    (List.range 8).flatMap fun line => strokes third tile line

theorem mem_allStrokes {strokes : Nat → Nat → Nat → List Stroke} {s : Stroke} :
    s ∈ allStrokes strokes ↔ ∃ third < 3, ∃ tile < 256, ∃ line < 8, s ∈ strokes third tile line := by
  simp [allStrokes]

theorem drawScreen_eq_drawn (strokes : Nat → Nat → Nat → List Stroke) :
    drawScreen strokes = drawn screenWidth screenHeight (allStrokes strokes) := by
  unfold drawScreen drawn allStrokes
  simp only [List.foldl_flatMap]
  rfl

/-- A pixel of a drawn screen has the colour on which the strokes for its byte agree. -/
theorem drawScreen_pixel {strokes : Nat → Nat → Nat → List Stroke}
    (hbyte : ∀ third tile line, ∀ s ∈ strokes third tile line, s.InByte third tile line)
    {x y : Nat} (hx : x < 256) (hy : y < 192) {c : Color}
    (hcolor : ∀ s ∈ strokes (y / 64) (y % 64 / 8 * 32 + x / 8) (y % 8), s.x = x → s.color = c)
    (hblack : (∀ s ∈ strokes (y / 64) (y % 64 / 8 * 32 + x / 8) (y % 8), s.x ≠ x) → c = .black) :
    (drawScreen strokes).pixel x y = c := by
  rw [drawScreen_eq_drawn]
  change (drawn 256 192 (allStrokes strokes)).pixel x y = c
  refine pixel_drawn hx hy ?_ ?_ ?_
  · intro s hs
    obtain ⟨third, -, tile, -, line, -, hs⟩ := mem_allStrokes.1 hs
    have hcolumn := (hbyte third tile line s hs).1
    omega
  · intro s hs hsx hsy
    obtain ⟨third, -, tile, htile, line, hline, hs⟩ := mem_allStrokes.1 hs
    obtain ⟨hcolumn, hrow⟩ := hbyte third tile line s hs
    obtain rfl : third = y / 64 := by omega
    obtain rfl : tile = y % 64 / 8 * 32 + x / 8 := by omega
    obtain rfl : line = y % 8 := by omega
    exact hcolor s hs hsx
  · intro hnone
    refine hblack fun s hs hsx => ?_
    have hrow := (hbyte _ _ _ s hs).2
    refine hnone s (mem_allStrokes.2 ⟨_, ?_, _, ?_, _, ?_, hs⟩) ⟨hsx, ?_⟩
    all_goals omega

/-! ## Pictures by address -/

/-- The address of a pixel from the place of its byte. -/
theorem address_of_byte (x y : Nat) :
    (y % 64 / 8 * 32 + x / 8) * 8 + y / 64 * 0x800 + y % 8 = screenAddress x y := by
  unfold screenAddress
  omega

theorem inByte_screenStrokes (data : Array UInt8) (mode : ScreenMode) (third tile line : Nat) :
    ∀ s ∈ screenStrokes data mode third tile line, s.InByte third tile line := by
  intro s hs
  obtain ⟨column, hcolumn, rfl⟩ := List.mem_map.1 hs
  have hlt := List.mem_range.1 hcolumn
  exact ⟨by dsimp only; omega, rfl⟩

theorem mem_patternStrokes {patterns : Array UInt8} {third tile line : Nat} {s : Stroke} :
    s ∈ patternStrokes patterns third tile line ↔ ∃ column < 8,
      bitAt (patterns.getD (tile * 8 + third * 0x800 + line) 0) column = true ∧
        s = ⟨tile % 32 * 8 + column, tile / 32 * 8 + third * 64 + line, .white⟩ := by
  unfold patternStrokes
  rw [Array.getD_eq_getD_getElem?]
  cases patterns[tile * 8 + third * 0x800 + line]? with
  | none => simp [bitAt]
  | some b =>
    simp only [List.mem_map, List.mem_filter, List.mem_range, Option.getD_some]
    constructor
    · rintro ⟨column, ⟨hcolumn, hlit⟩, rfl⟩
      exact ⟨column, hcolumn, by rwa [isLit_eq b hcolumn] at hlit, rfl⟩
    · rintro ⟨column, hcolumn, hbit, rfl⟩
      exact ⟨column, ⟨hcolumn, by rwa [isLit_eq b hcolumn]⟩, rfl⟩

theorem inByte_patternStrokes (patterns : Array UInt8) (third tile line : Nat) :
    ∀ s ∈ patternStrokes patterns third tile line, s.InByte third tile line := by
  intro s hs
  obtain ⟨column, hcolumn, -, rfl⟩ := mem_patternStrokes.1 hs
  exact ⟨by dsimp only; omega, by dsimp only; omega⟩

/-- A screen is drawn by address: each pixel has the bit and the colours at its own. -/
theorem screenImage_pixel (data : Array UInt8) (mode : ScreenMode) {x y : Nat} (hx : x < 256) (hy : y < 192) :
    (screenImage data mode).pixel x y =
      if bitAt (mode.pattern (data.getD (screenAddress x y) 0)) (x % 8) then
        mode.front (data.getD (colorBase + screenAddress x y) 0)
      else mode.back (data.getD (colorBase + screenAddress x y) 0) := by
  refine drawScreen_pixel (inByte_screenStrokes data mode) hx hy ?_ ?_
  · intro s hs hsx
    obtain ⟨column, hcolumn, rfl⟩ := List.mem_map.1 hs
    have hlt := List.mem_range.1 hcolumn
    obtain rfl : column = x % 8 := by dsimp only at hsx; omega
    simp only [columnBit_eq_one_iff, Nat.add_assoc colorBase, address_of_byte]
  · intro hnone
    refine absurd ?_ (hnone _ (List.mem_map_of_mem (List.mem_range.2 (Nat.mod_lt x (by decide)))))
    dsimp only
    omega

/-- Patterns alone are drawn by address, a byte that is not there as a clear one. -/
theorem patternImage_pixel (patterns : Array UInt8) {x y : Nat} (hx : x < 256) (hy : y < 192) :
    (patternImage patterns).pixel x y =
      if bitAt (patterns.getD (screenAddress x y) 0) (x % 8) then .white else .black := by
  refine drawScreen_pixel (inByte_patternStrokes patterns) hx hy ?_ ?_
  · intro s hs hsx
    obtain ⟨column, hlt, hbit, rfl⟩ := mem_patternStrokes.1 hs
    obtain rfl : column = x % 8 := by dsimp only at hsx; omega
    rw [address_of_byte] at hbit
    rw [hbit, if_pos rfl]
  · intro hnone
    refine if_neg fun hbit => ?_
    rw [← address_of_byte] at hbit
    refine hnone _ (mem_patternStrokes.2 ⟨x % 8, Nat.mod_lt x (by decide), hbit, rfl⟩) ?_
    dsimp only
    omega

/-! ## Layouts as screens -/

theorem length_decodeLayout {file : List UInt8} (h : 5 ≤ file.length) :
    ∃ patterns, decodeLayout file = .ok patterns ∧ patterns.length = patternBytes := by
  obtain ⟨a, b, c, low, high, rest, rfl⟩ : ∃ a b c low high rest, file = a :: b :: c :: low :: high :: rest := by
    rcases file with _ | ⟨a, _ | ⟨b, _ | ⟨c, _ | ⟨low, _ | ⟨high, rest⟩⟩⟩⟩⟩
    all_goals simp at h ⊢
  refine ⟨_, rfl, ?_⟩
  have hle := length_unpack_le (packedCount low high) patternBytes (rest.drop 2)
  rw [List.length_append, List.length_replicate]
  omega

/-- **A layout is shown like a screen.** Every file long enough for its header holds the patterns of a whole screen, and
the picture of any such patterns is, pixel for pixel, that of a screen with them and any colours in black and white. -/
theorem patternImage_eq_screenImage :
    (∀ file : List UInt8, 5 ≤ file.length →
      ∃ patterns, decodeLayout file = .ok patterns ∧ patterns.length = 6144) ∧
    ∀ patterns colors : List UInt8, patterns.length = 6144 → colors.length = 6144 →
      let layout := patternImage patterns.toArray
      let screen := screenImage (patterns ++ colors).toArray (.ofName "bw")
      layout.width = 256 ∧ layout.height = 192 ∧ screen.width = 256 ∧ screen.height = 192 ∧
        ∀ x y, x < 256 → y < 192 → layout.pixel x y = screen.pixel x y := by
  refine ⟨fun file h => length_decodeLayout h, ?_⟩
  intro patterns colors hpatterns hcolors layout screen
  refine ⟨rfl, rfl, rfl, rfl, ?_⟩
  intro x y hx hy
  have haddress : screenAddress x y < patterns.length := by
    rw [hpatterns]
    unfold screenAddress
    omega
  have hsame : (patterns ++ colors).toArray.getD (screenAddress x y) 0 = patterns.toArray.getD (screenAddress x y) 0 := by
    rw [Array.getD_eq_getD_getElem?, Array.getD_eq_getD_getElem?, List.getElem?_toArray, List.getElem?_toArray,
      List.getElem?_append_left haddress]
  rw [patternImage_pixel _ hx hy, screenImage_pixel _ _ hx hy, hsame]
  rfl

/-- The last of the runs in the file does not fit any more, and the colours would make every pixel black. -/
theorem patternImage_eq_screenImage_striped :
    let file : List UInt8 := [0, 0, 0, 0xFF, 0xFF, 0, 0] ++ (List.replicate 25 [0x98, 0xFF]).flatten
    let patterns : List UInt8 := List.replicate 6144 0x81
    let colors : List UInt8 := List.replicate 6144 0x11
    5 ≤ file.length ∧ patterns.length = 6144 ∧ colors.length = 6144 ∧
      (∃ decoded, decodeLayout file = .ok decoded ∧ decoded.length = 6144) ∧
      (patternImage patterns.toArray).pixel 255 191 =
        (screenImage (patterns ++ colors).toArray (.ofName "bw")).pixel 255 191 := by
  intro file patterns colors
  have hfile : 5 ≤ file.length := by decide
  have hpatterns : patterns.length = 6144 := List.length_replicate
  have hcolors : colors.length = 6144 := List.length_replicate
  obtain ⟨hdecoded, hagree⟩ := patternImage_eq_screenImage
  obtain ⟨-, -, -, -, hpixel⟩ := hagree patterns colors hpatterns hcolors
  exact ⟨hfile, hpatterns, hcolors, hdecoded file hfile, hpixel 255 191 (by decide) (by decide)⟩

end MsxWorkbench.Picture
