import MsxWorkbench.Gallery.ShapeViewer
import MsxWorkbench.Proofs.Picture.ShapeRecords
/-
# Shapes in the viewer

The viewer finds every record of a file that was written as a sequence of records, and draws the one it is asked for
(`shapes_shown`). Moving through a file keeps the file and the offsets (`load_keeps`, `updateControls_keeps`).
-/
namespace MsxWorkbench.Gallery.ShapeViewer

open Picture

/-- Loading the shape at an index draws it, if its shape is read from the file there. -/
theorem load_eq {v : ShapeViewer} {file : Array UInt8} {i offset : Nat} {shape : Shape} {image : Image}
    (hfile : v.file = some file) (hoffset : v.offsets[i]? = some offset) (hshape : shapeAt? file offset = some shape)
    (himage : shape.image = .ok image) (hwidth : 0 < image.width) (hheight : 0 < image.height) :
    (v.load i).1.image = some image ∧ (v.load i).2 = {} := by
  have hindex : ¬ ((i : Int) < 0) := by omega
  have hzoomed : ((image.width * zoomFactor == 0) != (image.height * zoomFactor == 0)) = false := by
    have h4 : zoomFactor = 4 := rfl
    rw [h4, beq_eq_false_iff_ne.2 (by omega), beq_eq_false_iff_ne.2 (by omega)]
    rfl
  simp [load, hfile, hindex, hoffset, hshape, himage, hzoomed]

theorem updateControls_keeps (v : ShapeViewer) :
    v.updateControls.file = v.file ∧ v.updateControls.offsets = v.offsets := by
  unfold updateControls
  dsimp only
  split <;> exact ⟨rfl, rfl⟩

theorem load_keeps (v : ShapeViewer) (index : Int) :
    (v.load index).1.file = v.file ∧ (v.load index).1.offsets = v.offsets := by
  unfold load
  split
  · split
    · exact ⟨rfl, rfl⟩
    · dsimp only
      split
      · exact ⟨rfl, rfl⟩
      · split <;> exact ⟨rfl, rfl⟩
  · exact ⟨rfl, rfl⟩

theorem setFile_keeps (v : ShapeViewer) (bytes : List UInt8) :
    (v.setFile (.ok bytes)).1.file = some bytes.toArray ∧
      (v.setFile (.ok bytes)).1.offsets = shapeOffsets bytes.toArray := by
  unfold setFile
  dsimp only
  split
  · exact updateControls_keeps _
  · obtain ⟨hfile, hoffsets⟩ := load_keeps
      ({ v with file := some bytes.toArray, offsets := shapeOffsets bytes.toArray, index := 0 }).updateControls 0
    obtain ⟨hfile', hoffsets'⟩ := updateControls_keeps
      { v with file := some bytes.toArray, offsets := shapeOffsets bytes.toArray, index := 0 }
    exact ⟨hfile.trans hfile', hoffsets.trans hoffsets'⟩

/-- **Shape files are indexed and drawn as they were written.** The viewer finds where the records start. A viewer
with the file open, wherever the user has gone in it, draws the record of any index when that is loaded. -/
theorem shapes_shown (records : List ShapeRecord) (trailing : List UInt8) (v : ShapeViewer) :
    let opened := (v.setFile (.ok (shapeFile records trailing))).1
    opened.offsets = recordStarts 0 records ∧
    ∀ (i : Nat) (r : ShapeRecord), records[i]? = some r →
      ∀ u : ShapeViewer, u.file = opened.file → u.offsets = opened.offsets →
        ∃ image, (u.load i).1.image = some image ∧ r.DrawnIn image ∧ (u.load i).2 = {} := by
  intro opened
  obtain ⟨hfile, hoffsets⟩ := setFile_keeps v (shapeFile records trailing)
  rw [shapeOffsets_shapeFile] at hoffsets
  refine ⟨hoffsets, ?_⟩
  intro i r hr u hufile huoffsets
  obtain ⟨before, after, rfl, hstart⟩ := recordStarts_getElem? 0 hr
  obtain ⟨image, himage, hdrawn⟩ := r.image_shape
  have hsplit : shapeFile (before ++ r :: after) trailing =
      before.flatMap ShapeRecord.bytes ++ (r.bytes ++ shapeFile after trailing) := by
    simp [shapeFile]
  have hshape := r.shapeAt?_eq (before.flatMap ShapeRecord.bytes) (shapeFile after trailing)
  rw [← hsplit] at hshape
  rw [Nat.zero_add] at hstart
  have hwidth : 0 < image.width := by
    rw [hdrawn.width]
    exact Nat.mul_pos (by decide) r.columns_pos
  have hheight : 0 < image.height := by
    rw [hdrawn.height]
    exact Nat.mul_pos (by decide) r.rows_pos
  obtain ⟨hloaded, hquiet⟩ := load_eq (hufile.trans hfile) (by rw [huoffsets, hoffsets, hstart]) hshape himage hwidth
    hheight
  exact ⟨image, hloaded, hdrawn, hquiet⟩

/-- A tile with a mask and without colours. -/
def maskedTile : ShapeRecord where
  number := 0
  width := 8
  height := 1
  planes := .masked (List.replicate 8 0) (List.replicate 8 0x80)
  number_ne := by decide
  width_ge := by decide
  height_pos := by decide
  planes_length := by simp [Planes.all]

/-- Two rows of two tiles with colours of which the last one differs from the others; the last two bytes of the planes
are not drawn. -/
def coloredTiles : ShapeRecord where
  number := 0xFE
  width := 17
  height := 2
  planes := .colored (List.replicate 24 0x0F ++ List.replicate 10 0x81) (List.replicate 24 0x45 ++ List.replicate 10 0x2F)
  number_ne := by decide
  width_ge := by decide
  height_pos := by decide
  planes_length := by simp [Planes.all]

/-- A pixel of the tile on the left of the last one and two of the last one. -/
theorem shapes_shown_tiles :
    let opened := (({} : ShapeViewer).setFile (.ok (shapeFile [maskedTile, coloredTiles] [0]))).1
    opened.offsets = [0, 20] ∧
    ∃ image, (opened.load 1).1.image = some image ∧ image.width = 16 ∧ image.height = 16 ∧
      image.pixel 7 13 = ⟨32, 32, 224⟩ ∧ image.pixel 15 13 = ⟨32, 192, 32⟩ ∧ image.pixel 14 13 = ⟨224, 224, 224⟩ := by
  intro opened
  obtain ⟨hoffsets, hshown⟩ := shapes_shown [maskedTile, coloredTiles] [0] {}
  obtain ⟨image, hloaded, hdrawn, -⟩ := hshown 1 coloredTiles rfl opened rfl rfl
  refine ⟨hoffsets.trans (by decide), image, hloaded, hdrawn.width.trans (by decide),
    hdrawn.height.trans (by decide), ?_, ?_, ?_⟩
  · exact (hdrawn.pixel_eq 0 1 7 5 (by decide) (by decide) (by decide) (by decide) rfl rfl).trans (by decide)
  · exact (hdrawn.pixel_eq 1 1 7 5 (by decide) (by decide) (by decide) (by decide) rfl rfl).trans (by decide)
  · exact (hdrawn.pixel_eq 1 1 6 5 (by decide) (by decide) (by decide) (by decide) rfl rfl).trans (by decide)

end MsxWorkbench.Gallery.ShapeViewer
