import MsxWorkbench.Editor.Commands
/-
# Runs of editor actions

How an action made of smaller ones runs, and which actions only draw (`Draws`): these leave the text, the store and the
settings alone, whether they fail or not.
-/
namespace MsxWorkbench.Editor

/-! ## One action after another -/

section
variable {α β : Type}

theorem runOn_bind (x : Edit α) (f : α → Edit β) (s : State) :
    (x >>= f).runOn s = match x.runOn s with
      | (.ok a, s') => (f a).runOn s'
      | (.error e, s') => (.error e, s') := by
  rw [Edit.runOn, ExceptT.run_bind, StateT.run_bind, Edit.runOn]
  obtain ⟨result, s'⟩ := (ExceptT.run x).run s
  cases result with
  | ok a => rfl
  | error e => rfl

@[simp] theorem runOn_pure (a : α) (s : State) : (pure a : Edit α).runOn s = (.ok a, s) := rfl

@[simp] theorem runOn_get (s : State) : (get : Edit State).runOn s = (.ok s, s) := rfl

@[simp] theorem runOn_set (s t : State) : (set t : Edit PUnit).runOn s = (.ok ⟨⟩, t) := rfl

@[simp] theorem runOn_modify (f : State → State) (s : State) : (modify f : Edit Unit).runOn s = (.ok (), f s) := rfl

@[simp] theorem runOn_throw (e : EditorError) (s : State) : (throw e : Edit α).runOn s = (.error e, s) := rfl

@[simp] theorem runOn_ofExcept (x : Except EditorError α) (s : State) :
    (ofExcept x : Edit α).runOn s = (x, s) := by
  cases x <;> rfl

end

/-! ## Actions that only draw -/

/-- What drawing leaves alone. -/
def State.content (s : State) : Buffer × Settings.Store × Bool × List (String × Json) :=
  (s.buffer, s.store, s.connected, s.settings)

/-- The action only draws: it leaves the text, the store and the settings as they are even if it fails, and it fails just
if a part of the window does. -/
structure Draws {α : Type} (x : Edit α) : Prop where
  content : ∀ s, (x.runOn s).2.content = s.content
  works : ∀ s, s.failing = [] → ∃ a t, x.runOn s = (.ok a, t) ∧ t.failing = []
  fails : ∀ s e, (x.runOn s).1 = .error e → e = .window

section
variable {α β : Type}

theorem Draws.store {x : Edit α} (h : Draws x) (s : State) : (x.runOn s).2.store = s.store :=
  congrArg (fun content => content.2.1) (h.content s)

theorem Draws.connected {x : Edit α} (h : Draws x) (s : State) : (x.runOn s).2.connected = s.connected :=
  congrArg (fun content => content.2.2.1) (h.content s)

theorem Draws.settings {x : Edit α} (h : Draws x) (s : State) : (x.runOn s).2.settings = s.settings :=
  congrArg (fun content => content.2.2.2) (h.content s)

theorem Draws.failing {x : Edit α} (h : Draws x) {s : State} (hs : s.failing = []) : (x.runOn s).2.failing = [] := by
  obtain ⟨a, t, hrun, ht⟩ := h.works s hs
  rw [hrun]
  exact ht

theorem Draws.bind {x : Edit α} {f : α → Edit β} (hx : Draws x) (hf : ∀ a, Draws (f a)) : Draws (x >>= f) := by
  constructor
  · intro s
    have hs := hx.content s
    rw [runOn_bind]
    cases hrun : x.runOn s with
    | mk result s' =>
      rw [hrun] at hs
      cases result with
      | ok a => exact ((hf a).content s').trans hs
      | error e => exact hs
  · intro s hs
    obtain ⟨a, t, hrun, ht⟩ := hx.works s hs
    rw [runOn_bind, hrun]
    exact (hf a).works t ht
  · intro s e h
    rw [runOn_bind] at h
    cases hrun : x.runOn s with
    | mk result s' =>
      rw [hrun] at h
      cases result with
      | ok a => exact (hf a).fails s' e h
      | error e' =>
        cases h
        exact hx.fails s e (congrArg Prod.fst hrun)

theorem draws_pure (a : α) : Draws (pure a : Edit α) :=
  ⟨fun _ => rfl, fun s hs => ⟨a, s, rfl, hs⟩, fun _ _ h => by cases h⟩

theorem draws_get : Draws (get : Edit State) :=
  ⟨fun _ => rfl, fun s hs => ⟨s, s, rfl, hs⟩, fun _ _ h => by cases h⟩

theorem draws_modify {f : State → State} (hcontent : ∀ s, (f s).content = s.content)
    (hfailing : ∀ s, (f s).failing = s.failing) : Draws (modify f : Edit Unit) :=
  ⟨hcontent, fun s hs => ⟨(), f s, rfl, (hfailing s).trans hs⟩, fun _ _ h => by cases h⟩

end

theorem runOn_call {c : WindowCall} {s : State} (h : c ∉ s.failing) : (call c).runOn s = (.ok (), s) := by
  have hno : s.failing.contains c = false := by simpa using h
  rw [call, runOn_bind, runOn_get]
  simp only [hno]
  rfl

theorem draws_call (c : WindowCall) : Draws (call c) := by
  constructor
  · intro s
    rw [call, runOn_bind, runOn_get]
    simp only
    split
    · rfl
    · rfl
  · intro s hs
    exact ⟨(), s, runOn_call (by simp [hs]), hs⟩
  · intro s e h
    rw [call, runOn_bind, runOn_get] at h
    simp only at h
    split at h
    · cases h
      rfl
    · cases h

theorem draws_indexOf (position : Buffer → Nat) : Draws (indexOf position) :=
  (draws_call .index).bind fun _ => draws_get.bind fun _ => draws_pure _

theorem draws_drawLabels : ∀ (count : Nat) (place : Spot), Draws (drawLabels count place)
  | 0, _ => draws_pure ()
  | count + 1, place => by
    refine draws_get.bind fun s => ?_
    cases s.view.height? s.buffer.lines.length place.line with
    | none => exact draws_pure ()
    | some y =>
      refine (draws_indexOf _).bind fun cursor => ?_
      refine Draws.bind (draws_modify (fun _ => rfl) fun _ => rfl) fun _ => ?_
      exact (draws_indexOf _).bind fun next => draws_drawLabels count next

theorem draws_redrawGutter : Draws redrawGutter := by
  refine Draws.bind (draws_modify (fun _ => rfl) fun _ => rfl) fun _ => ?_
  refine (draws_call .configure).bind fun _ => ?_
  refine Draws.bind (draws_modify (fun _ => rfl) fun _ => rfl) fun _ => ?_
  refine draws_get.bind fun s => ?_
  exact (draws_indexOf _).bind fun first => draws_drawLabels 31 first

theorem draws_highlight : Draws highlight :=
  draws_redrawGutter.bind fun _ => draws_modify (fun _ => rfl) fun _ => rfl

/-- The action leaves the text, the cursor and the selection as they are, even if it fails. -/
def KeepsBuffer {α : Type} (x : Edit α) : Prop := ∀ s, (x.runOn s).2.buffer = s.buffer

theorem keepsBuffer_highlight : KeepsBuffer highlight := fun s => congrArg Prod.fst (draws_highlight.content s)

/-! ## Replacing the text -/

theorem clear_text (b : Buffer) : b.clear.text = [] := by
  rw [Buffer.clear, Buffer.delete, Buffer.endPosition, Nat.min_eq_right (Nat.le_succ _)]
  split
  · rename_i h
    exact List.eq_nil_of_length_eq_zero (Nat.le_zero.1 h)
  · simp

theorem replace_text (b : Buffer) (new : List Char) : (b.replace new).text = new := by
  rw [Buffer.replace, Buffer.insert]
  split
  · rename_i h
    rw [clear_text, List.isEmpty_iff.1 h]
  · simp [clear_text]

end MsxWorkbench.Editor
