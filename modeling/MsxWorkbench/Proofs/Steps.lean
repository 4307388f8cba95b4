/-
# Steps in sequence

What follows when a sequence of steps went through (`of_bind_eq_ok`), and when each step on a list of items is known to go
through (`mapM_ok`) or to fail (`mapM_error`). Of writes to distinct keys, each is there when all are done (`get_foldl`).
-/
namespace MsxWorkbench

variable {α β γ ε : Type}

theorem of_bind_eq_ok {x : Except ε α} {g : α → Except ε β} {b : β} (h : x >>= g = .ok b) :
    ∃ a, x = .ok a ∧ g a = .ok b := by
  cases x with
  | error e => cases h
  | ok a => exact ⟨a, rfl, h⟩

theorem of_bind_eq_error {x : Except ε α} {g : α → Except ε β} {e : ε} (h : x >>= g = .error e) :
    x = .error e ∨ ∃ a, x = .ok a ∧ g a = .error e := by
  cases x with
  | error e' =>
    cases h
    exact Or.inl rfl
  | ok a => exact Or.inr ⟨a, rfl, h⟩

theorem of_mapError_eq_ok {ε' : Type} {x : Except ε α} {g : ε → ε'} {a : α} (h : x.mapError g = .ok a) : x = .ok a := by
  cases x with
  | error e => cases h
  | ok b =>
    cases h
    rfl

theorem of_mapError_eq_error {ε' : Type} {x : Except ε α} {g : ε → ε'} {e : ε'} (h : x.mapError g = .error e) :
    ∃ e', x = .error e' ∧ e = g e' := by
  cases x with
  | error e' =>
    cases h
    exact ⟨e', rfl, rfl⟩
  | ok b => cases h

theorem mapM_ok {g : α → Except ε β} {f : α → β} : ∀ {xs : List α},
    (∀ x ∈ xs, g x = .ok (f x)) → xs.mapM g = .ok (xs.map f)
  | [], _ => rfl
  | x :: xs, h => by
    rw [List.mapM_cons, h x List.mem_cons_self, mapM_ok fun y hy => h y (List.mem_cons_of_mem _ hy)]
    rfl

theorem mapM_error {g : α → Except ε β} : ∀ {xs : List α},
    (∃ x ∈ xs, ∃ e, g x = .error e) → ∃ e, xs.mapM g = .error e
  | [], ⟨_, hx, _⟩ => by cases hx
  | x :: xs, h => by
    rw [List.mapM_cons]
    cases hx : g x with
    | error e => exact ⟨e, rfl⟩
    | ok b =>
      obtain ⟨y, hy, e, he⟩ := h
      rcases List.mem_cons.1 hy with rfl | hy
      · rw [hx] at he; cases he
      · obtain ⟨e', he'⟩ := mapM_error ⟨y, hy, e, he⟩
        exact ⟨e', by rw [he']; rfl⟩

theorem of_mapM_eq_ok {g : α → Except ε β} {xs : List α} {ys : List β} (h : xs.mapM g = .ok ys) :
    ∀ x ∈ xs, ∃ y, g x = .ok y := by
  intro x hx
  cases hg : g x with
  | ok y => exact ⟨y, rfl⟩
  | error e =>
    obtain ⟨e', he'⟩ := mapM_error ⟨x, hx, e, hg⟩
    rw [he'] at h
    cases h

/-- What each step makes of its item, all of them make of the list. -/
theorem map_eq_of_mapM {g : α → Except ε β} {view : β → γ} {spec : α → γ}
    (hstep : ∀ a b, g a = .ok b → view b = spec a) : ∀ {xs : List α} {ys : List β}, xs.mapM g = .ok ys →
    ys.map view = xs.map spec
  | [], ys, h => by
    cases h
    rfl
  | x :: xs, ys, h => by
    rw [List.mapM_cons] at h
    obtain ⟨y, hy, h⟩ := of_bind_eq_ok h
    obtain ⟨more, hmore, h⟩ := of_bind_eq_ok h
    cases h
    rw [List.map_cons, List.map_cons, hstep x y hy, map_eq_of_mapM hstep hmore]

/-- What each step leaves alone, all of them leave alone. -/
theorem view_foldl {σ : Type} {view : σ → γ} {step : σ → α → σ} (hstep : ∀ s a, view (step s a) = view s) :
    ∀ (as : List α) (s : σ), view (as.foldl step s) = view s
  | [], _ => rfl
  | a :: as, s => (view_foldl hstep as (step s a)).trans (hstep s a)

section
variable {σ κ : Type} [DecidableEq κ] (get : σ → κ → Option γ) {put : σ → α → σ} {key : α → κ} {value : α → γ}
variable (hput : ∀ s a k, get (put s a) k = if key a = k then some (value a) else get s k)
include hput

theorem get_foldl_of_notMem {as : List α} {k : κ} (h : k ∉ as.map key) (s : σ) : get (as.foldl put s) k = get s k := by
  induction as generalizing s with
  | nil => rfl
  | cons a as ih =>
    rw [List.map_cons, List.mem_cons, not_or] at h
    rw [List.foldl_cons, ih h.2, hput, if_neg (Ne.symm h.1)]

/-- What is written once to a key is there after the other writes. -/
theorem get_foldl {as : List α} {a : α} (hkeys : (as.map key).Nodup) (hmem : a ∈ as) (s : σ) :
    get (as.foldl put s) (key a) = some (value a) := by
  induction as generalizing s with
  | nil => cases hmem
  | cons b as ih =>
    rw [List.map_cons, List.nodup_cons] at hkeys
    rw [List.foldl_cons]
    rcases List.mem_cons.1 hmem with rfl | hmem
    · rw [get_foldl_of_notMem get hput hkeys.1, hput, if_pos rfl]
    · exact ih hkeys.2 hmem _

end

end MsxWorkbench
