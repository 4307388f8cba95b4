import MsxWorkbench.Proofs.Gallery.ShapeBrowsing
/-
# The controls of the shape viewer

Counter and buttons of the viewer are set anew by every command that changes the offsets or the index. A file without
shapes leaves the index where it was, and later steps back still move it; as long as there are no offsets nothing is
shown of it, and the next file with shapes starts at the first one. So the controls fit the shapes in every state that
the user can reach (`controls_match`).
-/
namespace MsxWorkbench.Gallery.ShapeViewer

open Picture

/-! ## Commands -/

/-- What the user does: chooses a file, which may not be readable, or goes to a neighbouring shape. -/
inductive Command where
  | setFile (content : Except FileError (List UInt8))
  | next
  | previous

/-- The viewer after a command. -/
def perform (v : ShapeViewer) : Command → ShapeViewer
  | .setFile content => (v.setFile content).1
  | .next => v.next.1
  | .previous => v.previous.1

/-- A new viewer after some commands. -/
def after (commands : List Command) : ShapeViewer := commands.foldl perform {}

/-- The offsets of the shapes of a file; one that cannot be read has none. -/
def offsetsOf (content : Except FileError (List UInt8)) : List Nat :=
  (content.toOption.map fun bytes => shapeOffsets bytes.toArray).getD []

/-- The offsets after a command, from those before it. -/
def Command.offsets (before : List Nat) : Command → List Nat
  | .setFile content => offsetsOf content
  | .next => before
  | .previous => before

/-- The offsets of the shapes of the file that was chosen last. -/
def offsetsGiven (commands : List Command) : List Nat := commands.foldl Command.offsets []

/-! ## What a command does -/

@[simp] theorem index_updateControls (v : ShapeViewer) : v.updateControls.index = v.index := by
  unfold updateControls
  dsimp only
  split <;> rfl

@[simp] theorem offsets_updateControls (v : ShapeViewer) : v.updateControls.offsets = v.offsets :=
  v.updateControls_keeps.2

/-- Loading a shape changes nothing but what is drawn. -/
theorem load_draws (v : ShapeViewer) (index : Int) :
    ∃ image zoomed canvas, (v.load index).1 = { v with image, zoomed, canvas } := by
  unfold load
  split
  · split
    · exact ⟨_, _, _, rfl⟩
    · dsimp only
      split
      · exact ⟨_, _, _, rfl⟩
      · split <;> exact ⟨_, _, _, rfl⟩
  · exact ⟨_, _, _, rfl⟩

/-- A file without shapes empties the offsets and leaves the index. -/
theorem setFile_of_empty (v : ShapeViewer) {content : Except FileError (List UInt8)} (h : offsetsOf content = []) :
    ∃ file, (v.setFile content).1 = { v with file, offsets := [] }.updateControls := by
  cases content with
  | error e => exact ⟨none, rfl⟩
  | ok bytes =>
    have hnone : shapeOffsets bytes.toArray = [] := h
    refine ⟨some bytes.toArray, ?_⟩
    unfold setFile
    dsimp only [Option.map_some, Option.getD_some]
    rw [if_pos (List.isEmpty_iff.2 hnone), hnone]

/-- A file with shapes is shown from its first one on. -/
theorem setFile_of_shapes (v : ShapeViewer) {content : Except FileError (List UInt8)} (h : offsetsOf content ≠ []) :
    ∃ file, ∃ image zoomed canvas, (v.setFile content).1 =
      { { v with file, offsets := offsetsOf content, index := 0 }.updateControls with image, zoomed, canvas } := by
  cases content with
  | error e => exact absurd rfl h
  | ok bytes =>
    have hsome : shapeOffsets bytes.toArray ≠ [] := h
    refine ⟨some bytes.toArray, ?_⟩
    unfold setFile
    dsimp only [Option.map_some, Option.getD_some]
    rw [if_neg (fun hnone => hsome (List.isEmpty_iff.1 hnone))]
    exact load_draws _ 0

theorem next_of_lt {v : ShapeViewer} (h : v.index < (v.offsets.length : Int) - 1) :
    ∃ image zoomed canvas, v.next.1 = { v with index := v.index + 1, image, zoomed, canvas }.updateControls := by
  obtain ⟨image, zoomed, canvas, hload⟩ := load_draws { v with index := v.index + 1 } (v.index + 1)
  refine ⟨image, zoomed, canvas, ?_⟩
  unfold next
  rw [if_pos h]
  exact congrArg updateControls hload

theorem previous_of_pos {v : ShapeViewer} (h : v.index > 0) :
    ∃ image zoomed canvas, v.previous.1 = { v with index := v.index - 1, image, zoomed, canvas }.updateControls := by
  obtain ⟨image, zoomed, canvas, hload⟩ := load_draws { v with index := v.index - 1 } (v.index - 1)
  refine ⟨image, zoomed, canvas, ?_⟩
  unfold previous
  rw [if_pos h]
  exact congrArg updateControls hload

/-! ## Controls that fit -/

/-- Counter and buttons fit the shapes and the current one of them. -/
structure ControlsMatch (v : ShapeViewer) : Prop where
  shapes : v.offsets ≠ [] → (0 ≤ v.index ∧ v.index < v.offsets.length) ∧
    v.counter = s!"{v.index + 1} / {v.offsets.length}" ∧ (v.previousEnabled = true ↔ v.index > 0) ∧
    (v.nextEnabled = true ↔ v.index < (v.offsets.length : Int) - 1)
  noShapes : v.offsets = [] → v.counter = "0 / 0" ∧ v.previousEnabled = false ∧ v.nextEnabled = false

/-- The controls fit after they have been set, if the index is that of a shape. -/
theorem controlsMatch_updateControls {v : ShapeViewer}
    (h : v.offsets ≠ [] → 0 ≤ v.index ∧ v.index < v.offsets.length) : v.updateControls.ControlsMatch := by
  refine ⟨fun hsome => ?_, fun hnone => ?_⟩
  · rw [offsets_updateControls] at hsome ⊢
    rw [index_updateControls]
    refine ⟨h hsome, ?_⟩
    unfold updateControls
    dsimp only
    rw [if_neg (by simpa using hsome)]
    exact ⟨rfl, decide_eq_true_iff, decide_eq_true_iff⟩
  · rw [offsets_updateControls] at hnone
    unfold updateControls
    dsimp only
    rw [if_pos (by simpa using hnone)]
    exact ⟨rfl, rfl, rfl⟩

/-- A command keeps the controls fitting. -/
theorem ControlsMatch.perform {v : ShapeViewer} (h : v.ControlsMatch) (command : Command) :
    (v.perform command).ControlsMatch := by
  cases command with
  | setFile content =>
    change (v.setFile content).1.ControlsMatch
    by_cases hnone : offsetsOf content = []
    · obtain ⟨file, hset⟩ := v.setFile_of_empty hnone
      rw [hset]
      exact controlsMatch_updateControls fun hsome => absurd rfl hsome
    · obtain ⟨file, image, zoomed, canvas, hset⟩ := v.setFile_of_shapes hnone
      have hfirst := @controlsMatch_updateControls { v with file, offsets := offsetsOf content, index := 0 }
        fun hsome => ⟨Int.le_refl 0, Int.natCast_pos.2 (List.length_pos_iff.2 hsome)⟩
      rw [hset]
      exact ⟨hfirst.shapes, hfirst.noShapes⟩
  | next =>
    change v.next.1.ControlsMatch
    by_cases hlt : v.index < (v.offsets.length : Int) - 1
    · obtain ⟨image, zoomed, canvas, hnext⟩ := next_of_lt hlt
      rw [hnext]
      refine controlsMatch_updateControls fun hsome => ?_
      obtain ⟨⟨hlow, -⟩, -⟩ := h.shapes hsome
      dsimp only
      omega
    · rwa [next, if_neg hlt]
  | previous =>
    change v.previous.1.ControlsMatch
    by_cases hpos : v.index > 0
    · obtain ⟨image, zoomed, canvas, hprevious⟩ := previous_of_pos hpos
      rw [hprevious]
      refine controlsMatch_updateControls fun hsome => ?_
      obtain ⟨⟨-, hhigh⟩, -⟩ := h.shapes hsome
      dsimp only at hhigh ⊢
      omega
    · rwa [previous, if_neg hpos]

theorem controlsMatch_foldl (commands : List Command) {v : ShapeViewer} (h : v.ControlsMatch) :
    (commands.foldl perform v).ControlsMatch := by
  induction commands generalizing v with
  | nil => exact h
  | cons command commands ih => exact ih (h.perform command)

theorem offsets_perform (v : ShapeViewer) (command : Command) :
    (v.perform command).offsets = command.offsets v.offsets := by
  cases command with
  | setFile content =>
    by_cases hnone : offsetsOf content = []
    · obtain ⟨file, hset⟩ := v.setFile_of_empty hnone
      simp [perform, Command.offsets, hset, hnone]
    · obtain ⟨file, image, zoomed, canvas, hset⟩ := v.setFile_of_shapes hnone
      simp [perform, Command.offsets, hset]
  | next =>
    by_cases hlt : v.index < (v.offsets.length : Int) - 1
    · obtain ⟨image, zoomed, canvas, hnext⟩ := next_of_lt hlt
      simp [perform, Command.offsets, hnext]
    · simp [perform, Command.offsets, next, hlt]
  | previous =>
    by_cases hpos : v.index > 0
    · obtain ⟨image, zoomed, canvas, hprevious⟩ := previous_of_pos hpos
      simp [perform, Command.offsets, hprevious]
    · simp [perform, Command.offsets, previous, hpos]

theorem offsets_foldl (commands : List Command) (v : ShapeViewer) :
    (commands.foldl perform v).offsets = commands.foldl Command.offsets v.offsets := by
  induction commands generalizing v with
  | nil => rfl
  | cons command commands ih => rw [List.foldl_cons, List.foldl_cons, ih, offsets_perform]

/-- **The controls always match the shapes.** Whatever the user has done, the counter and the buttons fit the offsets and
the index; the offsets are those of the file chosen last. A button that can be pressed goes to the neighbouring shape,
and a file with shapes is shown from its first one on. -/
theorem controls_match (commands : List Command) :
    let v := after commands
    v.ControlsMatch ∧ v.offsets = offsetsGiven commands ∧
      (v.nextEnabled = true → v.next.1.index = v.index + 1) ∧
      (v.previousEnabled = true → v.previous.1.index = v.index - 1) ∧
      ∀ content, offsetsOf content ≠ [] → (v.setFile content).1.index = 0 := by
  intro v
  have hmatch : v.ControlsMatch :=
    controlsMatch_foldl commands ⟨fun hsome => absurd rfl hsome, fun _ => ⟨rfl, rfl, rfl⟩⟩
  refine ⟨hmatch, offsets_foldl commands {}, ?_, ?_, ?_⟩
  · intro henabled
    have hsome : v.offsets ≠ [] := fun hnone => by simp [(hmatch.noShapes hnone).2.2] at henabled
    obtain ⟨-, -, -, hnext⟩ := hmatch.shapes hsome
    obtain ⟨image, zoomed, canvas, hmoved⟩ := next_of_lt (hnext.1 henabled)
    rw [hmoved, index_updateControls]
  · intro henabled
    have hsome : v.offsets ≠ [] := fun hnone => by simp [(hmatch.noShapes hnone).2.1] at henabled
    obtain ⟨-, -, hprevious, -⟩ := hmatch.shapes hsome
    obtain ⟨image, zoomed, canvas, hmoved⟩ := previous_of_pos (hprevious.1 henabled)
    rw [hmoved, index_updateControls]
  · intro content hshapes
    obtain ⟨file, image, zoomed, canvas, hset⟩ := v.setFile_of_shapes hshapes
    rw [hset]
    exact index_updateControls _

/-- Two shapes of an unknown type, which have no planes. -/
def twoShapes : List UInt8 := [0, 0, 8, 1, 1, 0, 8, 1]

/-- The second of two shapes, then a file that is not there, a step back from nowhere, and the two shapes again. -/
theorem controls_match_stale :
    let lost : List Command := [.setFile (.ok twoShapes), .next, .setFile (.error (.notFound "A.SHP")), .previous]
    let found : List Command := lost ++ [.setFile (.ok twoShapes)]
    (after lost).offsets = [] ∧ (after lost).counter = "0 / 0" ∧ (after found).offsets = [0, 4] ∧
      (after found).index = 0 ∧ (after found).nextEnabled = true ∧ (after found).next.1.index = 1 := by
  intro lost found
  have hshapes : offsetsOf (.ok twoShapes) = [0, 4] := by decide +kernel
  obtain ⟨hlost, hnone, -, -, hfirst⟩ := controls_match lost
  obtain ⟨hfound, htwo, hnext, -, -⟩ := controls_match found
  have hempty : (after lost).offsets = [] := hnone
  have hoffsets : (after found).offsets = [0, 4] := htwo.trans hshapes
  have hindex : (after found).index = 0 := hfirst (.ok twoShapes) (by rw [hshapes]; simp)
  have henabled : (after found).nextEnabled = true :=
    (hfound.shapes (by rw [hoffsets]; simp)).2.2.2.2 (by rw [hindex, hoffsets]; decide)
  have hmoved := hnext henabled
  exact ⟨hempty, (hlost.noShapes hempty).1, hoffsets, hindex, henabled, by omega⟩

end MsxWorkbench.Gallery.ShapeViewer
