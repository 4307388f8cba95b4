import MsxWorkbench.Picture.Shape
import MsxWorkbench.Proofs.Picture.Drawing
import MsxWorkbench.Proofs.Steps
/-
# Shape files as they are written

A record has a head of four bytes and the planes of its type, all of one size (`ShapeRecord`). The scan of a file skips
a record's planes by their number, and reading a shape takes each plane from its place. Both agree with what was
written, whatever the types and sizes of the records (`shapeOffsets_shapeFile`, `ShapeRecord.shapeAt?_eq`). The planes of
a record are long enough for all of its tiles, so that drawing it neither leaves a tile early nor fails
(`Shape.image_eq_drawn`), and each pixel is painted once, with its own bit and colours (`ShapeRecord.image_shape`).
-/
namespace MsxWorkbench.Picture

/-! ## Records -/

/-- The planes that a shape can have; what they are follows from its type. -/
inductive Planes where
  | pattern (patterns : List UInt8)
  | colored (patterns colors : List UInt8)
  | masked (mask patterns : List UInt8)
  | full (mask patterns colors : List UInt8)

namespace Planes

/-- The type of a shape with these planes. -/
def type : Planes → UInt8
  | pattern _ => 1
  | colored _ _ => 2
  | masked _ _ => 3
  | full _ _ _ => 4

/-- The planes in the order in which they are written. -/
def all : Planes → List (List UInt8)
  | pattern patterns => [patterns]
  | colored patterns colors => [patterns, colors]
  | masked mask patterns => [mask, patterns]
  | full mask patterns colors => [mask, patterns, colors]

/-- The patterns. -/
def patterns : Planes → List UInt8
  | pattern patterns => patterns
  | colored patterns _ => patterns
  | masked _ patterns => patterns
  | full _ patterns _ => patterns

/-- The colours, if there are any. -/
def colors? : Planes → Option (List UInt8)
  | pattern _ => none
  | colored _ colors => some colors
  | masked _ _ => none
  | full _ _ colors => some colors

theorem planeCount_type (p : Planes) : planeCount p.type = p.all.length := by
  cases p <;> rfl

end Planes

theorem length_flatten_planes {size : Nat} : ∀ {planes : List (List UInt8)}, (∀ p ∈ planes, p.length = size) →
    planes.flatten.length = planes.length * size
  | [], _ => by simp
  | p :: planes, h => by
    have ih := length_flatten_planes fun q hq => h q (List.mem_cons_of_mem _ hq)
    have hp := h p List.mem_cons_self
    simp only [List.flatten_cons, List.length_append, List.length_cons, Nat.add_one_mul]
    omega

/-- A shape as it is written to a file. -/
structure ShapeRecord where
  number : UInt8
  width : UInt8
  height : UInt8
  planes : Planes
  number_ne : number ≠ 0xFF
  width_ge : 8 ≤ width
  height_pos : 0 < height
  planes_length : ∀ p ∈ planes.all, p.length = width.toNat * height.toNat

namespace ShapeRecord

/-- The number of bytes in each plane. -/
def planeSize (r : ShapeRecord) : Nat := r.width.toNat * r.height.toNat

/-- The four bytes before the planes. -/
def head (r : ShapeRecord) : List UInt8 := [r.number, r.planes.type, r.width, r.height]

/-- The bytes of a record. -/
def bytes (r : ShapeRecord) : List UInt8 := r.head ++ r.planes.all.flatten

/-- The patterns. -/
def patterns (r : ShapeRecord) : List UInt8 := r.planes.patterns

/-- The colours; a shape without a plane for them is white on transparent. -/
def colors (r : ShapeRecord) : List UInt8 := r.planes.colors?.getD (List.replicate r.planeSize 0xF0)

theorem length_bytes (r : ShapeRecord) : r.bytes.length = 4 + r.planeSize * planeCount r.planes.type := by
  rw [bytes, List.length_append, length_flatten_planes r.planes_length, Planes.planeCount_type, Nat.mul_comm]
  rfl

theorem length_patterns (r : ShapeRecord) : r.patterns.length = r.planeSize := by
  have hsame := r.planes_length
  unfold patterns planeSize
  cases hplanes : r.planes <;> rw [hplanes] at hsame <;> simp_all [Planes.all, Planes.patterns]

theorem length_colors (r : ShapeRecord) : r.colors.length = r.planeSize := by
  have hsame := r.planes_length
  unfold colors
  cases hplanes : r.planes <;> rw [hplanes] at hsame <;> simp_all [Planes.all, Planes.colors?, planeSize]

end ShapeRecord

/-! ## The scan -/

/-- Where the records start that are written from an offset on. -/
def recordStarts (offset : Nat) : List ShapeRecord → List Nat
  | [] => []
  | r :: records => offset :: recordStarts (offset + r.bytes.length) records

/-- A shape file: the records, the byte 0xFF and anything behind it. -/
def shapeFile (records : List ShapeRecord) (trailing : List UInt8) : List UInt8 :=
  records.flatMap ShapeRecord.bytes ++ 0xFF :: trailing

theorem getElem?_behind (before s : List UInt8) (k : Nat) : (before ++ s).toArray[before.length + k]? = s[k]? := by
  rw [List.getElem?_toArray, List.getElem?_append_right (Nat.le_add_right _ _), Nat.add_sub_cancel_left]

/-- One round of the scan, at the head of a record. -/
theorem shapeOffsetsFrom_record (before rest : List UInt8) (r : ShapeRecord) :
    shapeOffsetsFrom (before ++ (r.bytes ++ rest)).toArray before.length =
      before.length :: shapeOffsetsFrom (before ++ (r.bytes ++ rest)).toArray (before.length + r.bytes.length) := by
  have hbyte : ∀ k (b : UInt8), (r.bytes ++ rest)[k]? = some b →
      ∃ h : before.length + k < (before ++ (r.bytes ++ rest)).toArray.size,
        (before ++ (r.bytes ++ rest)).toArray[before.length + k] = b := by
    intro k b hk
    rw [← getElem?_behind before] at hk
    exact Array.getElem?_eq_some_iff.1 hk
  obtain ⟨_, hnumber⟩ := hbyte 0 r.number rfl
  obtain ⟨_, htype⟩ := hbyte 1 r.planes.type rfl
  obtain ⟨_, hwidth⟩ := hbyte 2 r.width rfl
  obtain ⟨hsize, hheight⟩ := hbyte 3 r.height rfl
  rw [shapeOffsetsFrom, dif_pos hsize]
  simp only [Nat.add_zero] at hnumber
  simp only [hnumber, htype, hwidth, hheight, if_neg r.number_ne]
  rw [Nat.add_assoc, ← ShapeRecord.planeSize, ← r.length_bytes]

theorem shapeOffsetsFrom_end (before trailing : List UInt8) :
    shapeOffsetsFrom (before ++ 0xFF :: trailing).toArray before.length = [] := by
  rw [shapeOffsetsFrom]
  split
  · simp
  · rfl

/-- **The scan finds the records** that are written behind any bytes. -/
theorem shapeOffsetsFrom_records (trailing : List UInt8) : ∀ (records : List ShapeRecord) (before : List UInt8),
    shapeOffsetsFrom (before ++ shapeFile records trailing).toArray before.length =
      recordStarts before.length records
  | [], before => shapeOffsetsFrom_end before trailing
  | r :: records, before => by
    have ih := shapeOffsetsFrom_records trailing records (before ++ r.bytes)
    have hfile : before ++ shapeFile (r :: records) trailing = before ++ (r.bytes ++ shapeFile records trailing) := by
      simp [shapeFile]
    rw [List.length_append, List.append_assoc] at ih
    rw [hfile, shapeOffsetsFrom_record, ih, recordStarts]

theorem shapeOffsets_shapeFile (records : List ShapeRecord) (trailing : List UInt8) :
    shapeOffsets (shapeFile records trailing).toArray = recordStarts 0 records :=
  shapeOffsetsFrom_records trailing records []

/-- The start of a record is the number of bytes before it. -/
theorem recordStarts_getElem? : ∀ {records : List ShapeRecord} {i : Nat} {r : ShapeRecord} (offset : Nat),
    records[i]? = some r → ∃ before after : List ShapeRecord, records = before ++ r :: after ∧
      (recordStarts offset records)[i]? = some (offset + (before.flatMap ShapeRecord.bytes).length)
  | [], i, r, offset, h => by simp at h
  | q :: records, 0, r, offset, h => by
    obtain rfl : q = r := by simpa using h
    exact ⟨[], records, rfl, rfl⟩
  | q :: records, i + 1, r, offset, h => by
    obtain ⟨before, after, rfl, hstart⟩ := recordStarts_getElem? (offset + q.bytes.length) (by simpa using h)
    refine ⟨q :: before, after, rfl, ?_⟩
    rw [recordStarts, List.getElem?_cons_succ, hstart, List.flatMap_cons, List.length_append, Nat.add_assoc]

/-! ## Reading a record -/

/-- Planes of one size lie one after the other. -/
theorem extract_plane {size : Nat} : ∀ {planes : List (List UInt8)} {k : Nat} {p : List UInt8}
    (before rest : List UInt8), (∀ q ∈ planes, q.length = size) → planes[k]? = some p →
    (before ++ (planes.flatten ++ rest)).toArray.extract (before.length + k * size) (before.length + (k + 1) * size) =
      p.toArray
  | [], k, p, _, _, _, hk => by simp at hk
  | q :: planes, 0, p, before, rest, hsize, hk => by
    obtain rfl : q = p := by simpa using hk
    have hq := hsize q List.mem_cons_self
    simp [← hq]
  | q :: planes, k + 1, p, before, rest, hsize, hk => by
    have hq := hsize q List.mem_cons_self
    have ih := extract_plane (before ++ q) rest (fun x hx => hsize x (List.mem_cons_of_mem _ hx)) (by simpa using hk)
    rw [List.length_append, hq, List.append_assoc] at ih
    rw [List.flatten_cons, List.append_assoc, ← ih]
    congr 1
    · rw [Nat.add_one_mul]
      omega
    · rw [Nat.add_one_mul, Nat.add_one_mul]
      omega

/-- A record is read as it was written. -/
theorem ShapeRecord.shapeAt?_eq (r : ShapeRecord) (before rest : List UInt8) :
    shapeAt? (before ++ (r.bytes ++ rest)).toArray before.length =
      some ⟨r.width.toNat / 8, r.height.toNat, r.patterns.toArray, r.colors.toArray⟩ := by
  have hfile : before ++ (r.bytes ++ rest) = (before ++ r.head) ++ (r.planes.all.flatten ++ rest) := by
    simp [bytes]
  have hplane : ∀ k p, r.planes.all[k]? = some p →
      (before ++ (r.bytes ++ rest)).toArray.extract (before.length + 4 + k * r.planeSize)
        (before.length + 4 + (k + 1) * r.planeSize) = p.toArray := by
    intro k p hk
    have hextract := extract_plane (before ++ r.head) rest r.planes_length hk
    rw [List.length_append] at hextract
    rw [hfile]
    exact hextract
  have hbyte : ∀ k (b : UInt8), (r.bytes ++ rest)[k]? = some b →
      (before ++ (r.bytes ++ rest)).toArray[before.length + k]? = some b := by
    intro k b hk
    rw [getElem?_behind, hk]
  have htype := hbyte 1 r.planes.type rfl
  have hwidth := hbyte 2 r.width rfl
  have hheight := hbyte 3 r.height rfl
  generalize (before ++ (r.bytes ++ rest)).toArray = file at hplane htype hwidth hheight
  simp only [shapeAt?, htype, hwidth, hheight, Option.bind_eq_bind, Option.bind_some]
  unfold patterns colors planeSize at *
  cases hplanes : r.planes with
  | pattern p =>
    rw [hplanes] at hplane
    simpa [Planes.type, Planes.patterns, Planes.colors?, plainColor] using hplane 0 p rfl
  | colored p c =>
    rw [hplanes] at hplane
    simpa [Planes.type, Planes.patterns, Planes.colors?] using And.intro (hplane 0 p rfl) (hplane 1 c rfl)
  | masked m p =>
    rw [hplanes] at hplane
    simpa [Planes.type, Planes.patterns, Planes.colors?, plainColor] using hplane 1 p rfl
  | full m p c =>
    rw [hplanes] at hplane
    simpa [Planes.type, Planes.patterns, Planes.colors?] using And.intro (hplane 1 p rfl) (hplane 2 c rfl)

/-! ## Drawing a shape -/

namespace Shape

variable {s : Shape}

/-- The planes have a byte for each line of each tile. -/
def Full (s : Shape) : Prop := ∀ tx < s.columns, ∀ ty < s.rows, ∀ line < 8,
  s.position tx ty line < s.patterns.size ∧ s.position tx ty line < s.colors.size

/-- The strokes for a line of a tile, from its bytes in the planes. -/
def strokesAt (s : Shape) (tx ty line : Nat) : List Stroke :=
  lineStrokes (s.patterns.getD (s.position tx ty line) 0) (s.colors.getD (s.position tx ty line) 0) tx ty line

/-- A tile whose bytes are all there is drawn line by line to its end. -/
theorem tileStrokes_eq {tx ty : Nat} : ∀ {lines : List Nat}, (∀ line ∈ lines,
    s.position tx ty line < s.patterns.size ∧ s.position tx ty line < s.colors.size) →
      s.tileStrokes tx ty lines = .ok (lines.flatMap (s.strokesAt tx ty))
  | [], _ => rfl
  | line :: lines, h => by
    obtain ⟨⟨hpattern, hcolor⟩, hlines⟩ := List.forall_mem_cons.1 h
    rw [tileStrokes, Array.getElem?_eq_getElem hpattern, Array.getElem?_eq_getElem hcolor, tileStrokes_eq hlines,
      List.flatMap_cons, strokesAt, ← Array.getElem_eq_getD, ← Array.getElem_eq_getD]
    rfl

/-- All strokes for a shape, in the order in which they are made. -/
def allStrokes (s : Shape) : List Stroke :=
  (List.range s.rows).flatMap fun ty => (List.range s.columns).flatMap fun tx =>
    (List.range 8).flatMap (s.strokesAt tx ty)

theorem image_eq_drawn (h : s.Full) : s.image = .ok (drawn (s.columns * 8) (s.rows * 8) s.allStrokes) := by
  have hrow : ∀ ty ∈ List.range s.rows, s.rowStrokes ty =
      .ok ((List.range s.columns).flatMap fun tx => (List.range 8).flatMap (s.strokesAt tx ty)) := by
    intro ty hty
    have htile : ∀ tx ∈ List.range s.columns, s.tileStrokes tx ty (List.range 8) =
        .ok ((List.range 8).flatMap (s.strokesAt tx ty)) := by
      intro tx htx
      exact tileStrokes_eq fun line hline =>
        h tx (List.mem_range.1 htx) ty (List.mem_range.1 hty) line (List.mem_range.1 hline)
    rw [rowStrokes, mapM_ok htile]
    rfl
  rw [image, mapM_ok hrow]
  rfl

/-- The colour of a pixel: its bit is that of its column in its line of the tile, and the line has two colours. -/
def pixelColor (s : Shape) (tx ty line bit : Nat) : Color :=
  if bitAt (s.patterns.getD (s.position tx ty line) 0) bit then
    foreground shapePalette (s.colors.getD (s.position tx ty line) 0)
  else background shapePalette (s.colors.getD (s.position tx ty line) 0)

theorem strokesAt_eq (tx ty line : Nat) : s.strokesAt tx ty line =
    (List.range 8).map fun bit => ⟨tx * 8 + bit, ty * 8 + line, s.pixelColor tx ty line bit⟩ := by
  refine List.map_congr_left fun bit hbit => ?_
  rw [isLit_eq _ (List.mem_range.1 hbit), pixelColor]

theorem mem_allStrokes {stroke : Stroke} : stroke ∈ s.allStrokes ↔ ∃ ty < s.rows, ∃ tx < s.columns, ∃ line < 8,
    ∃ bit < 8, ⟨tx * 8 + bit, ty * 8 + line, s.pixelColor tx ty line bit⟩ = stroke := by
  simp only [allStrokes, strokesAt_eq, List.mem_flatMap, List.mem_map, List.mem_range]

theorem drawn_pixel {tx ty bit line : Nat} (htx : tx < s.columns) (hty : ty < s.rows) (hbit : bit < 8)
    (hline : line < 8) : (drawn (s.columns * 8) (s.rows * 8) s.allStrokes).pixel (8 * tx + bit) (8 * ty + line) =
      s.pixelColor tx ty line bit := by
  refine pixel_drawn (by omega) (by omega) ?_ ?_ ?_
  · intro stroke hstroke
    obtain ⟨ty', -, tx', htx', line', -, bit', hbit', rfl⟩ := mem_allStrokes.1 hstroke
    dsimp only
    omega
  · intro stroke hstroke hx hy
    obtain ⟨ty', -, tx', -, line', hline', bit', hbit', rfl⟩ := mem_allStrokes.1 hstroke
    dsimp only at hx hy ⊢
    -- the place of the stroke gives back the tile, the line and the bit that it was made for
    obtain rfl : tx' = tx := by omega
    obtain rfl : bit' = bit := by omega
    obtain rfl : ty' = ty := by omega
    obtain rfl : line' = line := by omega
    rfl
  · intro hnone
    refine absurd ?_ (hnone _ (mem_allStrokes.2 ⟨ty, hty, tx, htx, line, hline, bit, hbit, rfl⟩))
    constructor
    all_goals
      dsimp only
      omega

end Shape

/-! ## Drawing a record -/

/-- The image shows the record: each tile has eight rows of eight pixels, and a pixel has the colour of the high half
of the colour byte of its row if its bit of the pattern byte is set, else the colour of the low half. -/
structure ShapeRecord.DrawnIn (r : ShapeRecord) (image : Image) : Prop where
  width : image.width = 8 * (r.width.toNat / 8)
  height : image.height = 8 * r.height.toNat
  pixel : ∀ tx < r.width.toNat / 8, ∀ ty < r.height.toNat, ∀ b < 8, ∀ l < 8, ∃ pattern color : UInt8,
    r.patterns[(tx + ty * (r.width.toNat / 8)) * 8 + l]? = some pattern ∧
    r.colors[(tx + ty * (r.width.toNat / 8)) * 8 + l]? = some color ∧
    image.pixel (8 * tx + b) (8 * ty + l) =
      if pattern.toNat.testBit (7 - b) then colorAt shapePalette (color.toNat / 16)
      else colorAt shapePalette (color.toNat % 16)

namespace ShapeRecord

theorem DrawnIn.pixel_eq {r : ShapeRecord} {image : Image} {pattern color : UInt8} (h : r.DrawnIn image) (tx ty b l : Nat)
    (htx : tx < r.width.toNat / 8) (hty : ty < r.height.toNat) (hb : b < 8) (hl : l < 8)
    (hpattern : r.patterns[(tx + ty * (r.width.toNat / 8)) * 8 + l]? = some pattern)
    (hcolor : r.colors[(tx + ty * (r.width.toNat / 8)) * 8 + l]? = some color) :
    image.pixel (8 * tx + b) (8 * ty + l) =
      colorAt shapePalette (if pattern.toNat.testBit (7 - b) then color.toNat / 16 else color.toNat % 16) := by
  obtain ⟨p, c, hp, hc, hpixel⟩ := h.pixel tx htx ty hty b hb l hl
  obtain rfl := Option.some.inj (hp.symm.trans hpattern)
  obtain rfl := Option.some.inj (hc.symm.trans hcolor)
  rw [hpixel, apply_ite (colorAt shapePalette)]

variable (r : ShapeRecord)

/-- The shape of a record. -/
def shape : Shape := ⟨r.width.toNat / 8, r.height.toNat, r.patterns.toArray, r.colors.toArray⟩

theorem columns_pos : 0 < r.width.toNat / 8 := by
  have hwidth : 8 ≤ r.width.toNat := UInt8.le_iff_toNat_le.1 r.width_ge
  omega

theorem rows_pos : 0 < r.height.toNat := UInt8.lt_iff_toNat_lt.1 r.height_pos

/-- The tiles do not need more than a plane has. -/
theorem address_lt {tx ty l : Nat} (htx : tx < r.width.toNat / 8) (hty : ty < r.height.toNat) (hl : l < 8) :
    (tx + ty * (r.width.toNat / 8)) * 8 + l < r.planeSize := by
  have htile : tx + ty * (r.width.toNat / 8) + 1 ≤ r.height.toNat * (r.width.toNat / 8) :=
    calc tx + ty * (r.width.toNat / 8) + 1 ≤ (ty + 1) * (r.width.toNat / 8) := by rw [Nat.add_one_mul]; omega
      _ ≤ r.height.toNat * (r.width.toNat / 8) := Nat.mul_le_mul_right _ hty
  have hplane : r.height.toNat * (r.width.toNat / 8) * 8 ≤ r.planeSize :=
    calc r.height.toNat * (r.width.toNat / 8) * 8 = r.height.toNat * (r.width.toNat / 8 * 8) := Nat.mul_assoc ..
      _ ≤ r.height.toNat * r.width.toNat := Nat.mul_le_mul_left _ (Nat.div_mul_le_self _ _)
      _ = r.planeSize := Nat.mul_comm ..
  omega

theorem full_shape : r.shape.Full := by
  intro tx htx ty hty line hline
  have hlt := r.address_lt htx hty hline
  constructor
  · exact hlt.trans_eq r.length_patterns.symm
  · exact hlt.trans_eq r.length_colors.symm

theorem image_shape : ∃ image, r.shape.image = .ok image ∧ r.DrawnIn image := by
  refine ⟨_, Shape.image_eq_drawn r.full_shape, Nat.mul_comm .., Nat.mul_comm .., ?_⟩
  intro tx htx ty hty b hb l hl
  have hlt := r.address_lt htx hty hl
  have hpattern := List.getElem?_eq_getElem (l := r.patterns) (by rwa [length_patterns])
  have hcolor := List.getElem?_eq_getElem (l := r.colors) (by rwa [length_colors])
  refine ⟨_, _, hpattern, hcolor, (Shape.drawn_pixel htx hty hb hl).trans ?_⟩
  simp [shape, Shape.pixelColor, Shape.position, hpattern, hcolor, bitAt, foreground, background]

end ShapeRecord

end MsxWorkbench.Picture
