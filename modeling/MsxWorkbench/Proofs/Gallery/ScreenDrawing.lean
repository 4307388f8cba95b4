import MsxWorkbench.Gallery.ScreenViewer
import MsxWorkbench.Proofs.Picture.Screens
/-
# What the screen viewer draws

Every command of the viewer but one that fails early draws the picture anew, so the viewer always has the picture of the
file that was read last in the mode that was chosen last (`shows_after`). A file of any length gives a full screen of
bytes (`toList_screenData`), and each pixel is drawn from the two bytes at its own address (`drawn_by_address`).
-/
namespace MsxWorkbench.Gallery.ScreenViewer

open Picture

/-! ## Commands -/

/-- What the user does: chooses a file, which may not be readable, a mode or a factor. -/
inductive Command where
  | setFile (content : Except FileError (List UInt8))
  | setMode (mode : String)
  | setZoom (choice : List Char)

/-- The viewer after a command. -/
def perform (v : ScreenViewer) : Command → ScreenViewer
  | .setFile content => (v.setFile content).1
  | .setMode mode => (v.setMode mode).1
  | .setZoom choice => (v.setZoom choice).1

/-- A new viewer after some commands. -/
def after (commands : List Command) : ScreenViewer := commands.foldl perform {}

/-- What the user has chosen: a file, once one has been read, and a mode. -/
structure Chosen where
  file : Option (List UInt8) := none
  mode : String := "normal"

/-- What is chosen after a command. A file that cannot be read takes nothing away. -/
def Chosen.next (c : Chosen) : Command → Chosen
  | .setFile content => { c with file := content.toOption.or c.file }
  | .setMode mode => { c with mode }
  | .setZoom _ => c

/-- What some commands choose, the last ones of their kind. -/
def chosen (commands : List Command) : Chosen := commands.foldl Chosen.next {}

/-! ## The picture of the viewer -/

/-- The viewer has the data of the chosen file, the chosen mode and the picture that they give. -/
structure Shows (v : ScreenViewer) (c : Chosen) : Prop where
  data : v.data = c.file.map screenData
  mode : v.mode = c.mode
  image : v.image = c.file.map fun file => screenImage (screenData file) (.ofName c.mode)

/-- Drawing changes the picture and its enlargement only, and not the picture if there is no data. -/
theorem refresh_draws (v : ScreenViewer) : ∃ zoomed label, v.refresh.1 =
    { v with image := (v.data.map fun data => screenImage data (.ofName v.mode)).or v.image, zoomed, label } := by
  obtain ⟨data, mode, zoom, image, zoomed, label⟩ := v
  unfold refresh
  cases data with
  | none => exact ⟨zoomed, label, rfl⟩
  | some data =>
    dsimp only [Option.map_some, Option.some_or]
    split
    · exact ⟨zoomed, label, rfl⟩
    · exact ⟨_, _, rfl⟩

/-- Drawing shows what is chosen, if data and mode are those of the choice and nothing is drawn without a file. -/
theorem shows_refresh {v : ScreenViewer} {c : Chosen} (hdata : v.data = c.file.map screenData) (hmode : v.mode = c.mode)
    (himage : c.file = none → v.image = none) : v.refresh.1.Shows c := by
  obtain ⟨zoomed, label, hdrawn⟩ := v.refresh_draws
  rw [hdrawn]
  refine ⟨hdata, hmode, ?_⟩
  dsimp only
  rw [hdata, hmode, Option.map_map]
  cases hfile : c.file with
  | none => exact himage hfile
  | some file => rfl

theorem Shows.image_of_none {v : ScreenViewer} {c : Chosen} (h : v.Shows c) (hfile : c.file = none) : v.image = none := by
  rw [h.image, hfile]
  rfl

/-- After a command the viewer shows what is chosen then. -/
theorem Shows.perform {v : ScreenViewer} {c : Chosen} (h : v.Shows c) (command : Command) :
    (v.perform command).Shows (c.next command) := by
  cases command with
  | setFile content =>
    cases content with
    | error e => exact h
    | ok file =>
      have hset : (v.setFile (.ok file)).1 = ({ v with data := some (screenData file) } : ScreenViewer).refresh.1 := by
        unfold setFile
        dsimp only
        split <;> rfl
      change (v.setFile (.ok file)).1.Shows { c with file := some file }
      rw [hset]
      exact shows_refresh rfl h.mode fun hnone => by cases hnone
  | setMode mode => exact shows_refresh (c := { c with mode }) h.data rfl h.image_of_none
  | setZoom choice =>
    change (v.setZoom choice).1.Shows c
    unfold setZoom
    split
    -- a choice that is no number is refused before anything is drawn
    · exact h
    · exact shows_refresh h.data h.mode h.image_of_none

theorem shows_foldl (commands : List Command) {v : ScreenViewer} {c : Chosen} (h : v.Shows c) :
    (commands.foldl perform v).Shows (commands.foldl Chosen.next c) := by
  induction commands generalizing v c with
  | nil => exact h
  | cons command commands ih => exact ih (h.perform command)

/-- Whatever the user has done, the viewer shows what was chosen last. -/
theorem shows_after (commands : List Command) : (after commands).Shows (chosen commands) :=
  shows_foldl commands ⟨rfl, rfl, rfl⟩

/-! ## Bytes and colours -/

/-- The bytes behind the header of a file with zeros behind them, cut to the length of a screen. -/
def fullScreen (file : List UInt8) : List UInt8 := (file.drop 128 ++ List.replicate 12288 0).take 12288

theorem toList_screenData (file : List UInt8) : (screenData file).toList = fullScreen file := by
  unfold screenData screenHeader fullScreen
  -- the length of a screen is not to be computed
  change _ = (file.drop 128 ++ List.replicate screenBytes 0).take screenBytes
  generalize screenBytes = n
  dsimp only
  rw [List.take_append, List.take_replicate, List.length_take]
  congr 2
  omega

/-- Every address of a screen has a byte. -/
theorem getElem?_screenData (file : List UInt8) {i : Nat} (h : i < 12288) :
    (fullScreen file)[i]? = some ((screenData file).getD i 0) := by
  have hlength : (screenData file).size = 12288 := by
    rw [← Array.length_toList, toList_screenData, fullScreen, List.length_take, List.length_append, List.length_replicate]
    omega
  rw [← toList_screenData, Array.getElem?_toList, Array.getD_eq_getD_getElem?, Array.getElem?_eq_getElem (by omega)]
  rfl

theorem getElem?_screenPalette {n : Nat} (h : n < 16) : screenPalette[n]? = some (colorAt screenPalette n) := by
  rw [colorAt, List.getD_eq_getElem?_getD, List.getElem?_eq_getElem h]
  rfl

theorem half_lt (b : UInt8) (p : Prop) [Decidable p] : (if p then b.toNat / 16 else b.toNat % 16) < 16 := by
  have hlt := b.toNat_lt
  split <;> omega

/-- Where only colours are shown, the first four of eight pixels count as set. -/
theorem bitAt_halves (x : Nat) : bitAt 0xF0 (x % 8) = decide (x % 8 < 4) := by
  have hall : ∀ column < 8, bitAt 0xF0 column = decide (column < 4) := by decide
  exact hall _ (Nat.mod_lt x (by decide))

section
variable (data : Array UInt8) {x y : Nat} (hx : x < 256) (hy : y < 192)
include hx hy

theorem pixel_blackAndWhite : (screenImage data (.ofName "bw")).pixel x y =
    if bitAt (data.getD (screenAddress x y) 0) (x % 8) then .white else .black :=
  screenImage_pixel data (.ofName "bw") hx hy

theorem pixel_colors : (screenImage data (.ofName "color")).pixel x y =
    let color := data.getD (colorBase + screenAddress x y) 0
    colorAt screenPalette (if x % 8 < 4 then color.toNat / 16 else color.toNat % 16) := by
  have hpixel := screenImage_pixel data (.ofName "color") hx hy
  have hpattern : ∀ b, (ScreenMode.ofName "color").pattern b = 0xF0 := fun _ => rfl
  rw [hpattern, bitAt_halves] at hpixel
  rw [hpixel]
  by_cases hleft : x % 8 < 4
  · simp only [hleft, decide_true, if_true]
    rfl
  · simp only [hleft, decide_false, Bool.false_eq_true, if_false]
    rfl

theorem pixel_normal {mode : String} (hbw : mode ≠ "bw") (hcolor : mode ≠ "color") :
    (screenImage data (.ofName mode)).pixel x y =
      let color := data.getD (colorBase + screenAddress x y) 0
      colorAt screenPalette
        (if bitAt (data.getD (screenAddress x y) 0) (x % 8) then color.toNat / 16 else color.toNat % 16) := by
  have hmode : ScreenMode.ofName mode = .normal := by rw [ScreenMode.ofName, if_neg hbw, if_neg hcolor]
  have hpattern : ∀ b, ScreenMode.normal.pattern b = b := fun _ => rfl
  rw [hmode, screenImage_pixel data .normal hx hy, hpattern]
  cases bitAt (data.getD (screenAddress x y) 0) (x % 8) <;> rfl

end

/-- **Screens are drawn by address.** Whatever the user has done, once a file has been read there is a picture of full
size. With the bytes behind the header of the last file, cut or filled up with zeros, each pixel has one pattern byte and
one colour byte. In black and white it is white where its bit is set; with colours only it has the colour of the high half
of the colour byte in the first four columns and of the low half in the others; in any other mode its bit decides. -/
theorem drawn_by_address (commands : List Command) {file : List UInt8} (h : (chosen commands).file = some file) :
    let mode := (chosen commands).mode
    ∃ image : Image, (after commands).image = some image ∧ image.width = 256 ∧ image.height = 192 ∧
      ∀ x y : Nat, x < 256 → y < 192 →
        let address := 2048 * (y / 64) + 256 * (y % 64 / 8) + 8 * (x / 8) + y % 8
        ∃ pattern color : UInt8,
          (fullScreen file)[address]? = some pattern ∧ (fullScreen file)[0x1800 + address]? = some color ∧
          let isSet := pattern.toNat.testBit (7 - x % 8)
          (mode = "bw" → image.pixel x y = if isSet then .white else .black) ∧
          (mode = "color" → screenPalette[if x % 8 < 4 then color.toNat / 16 else color.toNat % 16]? =
            some (image.pixel x y)) ∧
          (mode ≠ "bw" → mode ≠ "color" → screenPalette[if isSet then color.toNat / 16 else color.toNat % 16]? =
            some (image.pixel x y)) := by
  intro mode
  have himage : (after commands).image = some (screenImage (screenData file) (.ofName mode)) := by
    rw [(shows_after commands).image, h]
    rfl
  refine ⟨_, himage, rfl, rfl, ?_⟩
  intro x y hx hy address
  have haddress : address < 6144 := by omega
  refine ⟨_, _, getElem?_screenData file (by omega), getElem?_screenData file (by omega), ?_⟩
  intro isSet
  refine ⟨?_, ?_, ?_⟩
  · intro hbw
    rw [hbw]
    exact pixel_blackAndWhite (screenData file) hx hy
  · intro hcolor
    rw [hcolor, pixel_colors (screenData file) hx hy]
    exact getElem?_screenPalette (half_lt _ _)
  · intro hbw hcolor
    rw [pixel_normal (screenData file) hx hy hbw hcolor]
    exact getElem?_screenPalette (half_lt _ _)

/-- A file that ends behind its first colour byte, shown with colours only. Neither an enlargement to nothing nor a file
that is not there takes the picture away. -/
theorem drawn_by_address_short :
    let file : List UInt8 := List.replicate 128 0 ++ (List.replicate 6144 0 ++ [0x4F])
    let commands : List Command :=
      [.setMode "color", .setFile (.ok file), .setZoom "0x".toList, .setFile (.error (.notFound "A.SCR"))]
    (chosen commands).file = some file ∧
      ∃ image, (after commands).image = some image ∧ image.pixel 3 0 = ⟨54, 59, 236⟩ ∧ image.pixel 4 0 = .white := by
  intro file commands
  have hfile : (chosen commands).file = some file := rfl
  obtain ⟨image, himage, -, -, hpixel⟩ := drawn_by_address commands hfile
  obtain ⟨-, left, -, hleft, -, hthree, -⟩ := hpixel 3 0 (by decide) (by decide)
  obtain ⟨-, right, -, hright, -, hfour, -⟩ := hpixel 4 0 (by decide) (by decide)
  have hbyte : (fullScreen file)[0x1800]? = some 0x4F := by
    rw [fullScreen, List.drop_left' List.length_replicate, List.getElem?_take_of_lt (by decide), List.append_assoc,
      List.getElem?_append_right (Nat.le_of_eq List.length_replicate), List.length_replicate]
    rfl
  obtain rfl : 0x4F = left := Option.some.inj (hbyte.symm.trans hleft)
  obtain rfl : 0x4F = right := Option.some.inj (hbyte.symm.trans hright)
  exact ⟨hfile, image, himage, (Option.some.inj (hthree rfl)).symm, (Option.some.inj (hfour rfl)).symm⟩

end MsxWorkbench.Gallery.ScreenViewer
