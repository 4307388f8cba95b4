import MsxWorkbench.Settings.Store
/-
# Runs of the settings store

A store is written by single steps, each of which goes through or is refused. What a step does is said once
(`performs`). From it follow, for every run, that a key has one row at most and that the setting of a key is the
last one that went through (`last_write_wins`). A row without a key is never found, and each new one is added.
-/
namespace MsxWorkbench.Settings

/-! ## Rows -/

section
variable {α : Type} {key other : Option Entry} {value : α} {rows : List (Option Entry × α)}

/-- The rows of a key. -/
def rowsOf (key : Option Entry) (rows : List (Option Entry × α)) : List (Option Entry × α) :=
  rows.filter fun row => row.1 == key

/-- The keys of rows that have one. -/
def keysOf (rows : List (Option Entry × α)) : List Entry := rows.filterMap Prod.fst

theorem findRow?_some (k : Entry) : findRow? (some k) rows = (rowsOf (some k) rows).head?.map Prod.snd := by
  simp [findRow?, rowsOf, List.head?_filter]

@[simp] theorem findRow?_none : findRow? none rows = none := rfl

/-- A row without a key is added, whatever is there. -/
theorem putRow_none (value : α) (rows : List (Option Entry × α)) : putRow none value rows = rows ++ [(none, value)] := by
  induction rows with
  | nil => rfl
  | cons row rows ih => simp [putRow, ih]

/-- Writing to a key leaves the rows of all others as they are. -/
theorem rowsOf_putRow (h : other ≠ key) : rowsOf other (putRow key value rows) = rowsOf other rows := by
  unfold rowsOf
  induction rows with
  | nil => simp [putRow, Ne.symm h]
  | cons row rows ih =>
    rw [putRow]
    split
    · rename_i hkey
      have hrow : row.1 = key := by simp_all
      simp [hrow, Ne.symm h]
    · rw [List.filter_cons, List.filter_cons, ih]

theorem rowsOf_putRow_self (k : Entry) (value : α) (rows : List (Option Entry × α)) :
    ∃ rest, rowsOf (some k) (putRow (some k) value rows) = (some k, value) :: rest := by
  unfold rowsOf
  induction rows with
  | nil => exact ⟨[], by simp [putRow]⟩
  | cons row rows ih =>
    rw [putRow]
    by_cases hrow : row.1 = some k
    · exact ⟨rows.filter fun row => row.1 == some k, by simp [hrow]⟩
    · obtain ⟨rest, hrest⟩ := ih
      exact ⟨rest, by simp [hrow, hrest]⟩

/-- The value of a key is what was last written to it. -/
theorem findRow?_putRow (key other : Option Entry) (value : α) (rows : List (Option Entry × α)) :
    findRow? other (putRow key value rows) =
      if other.isSome ∧ key = other then some value else findRow? other rows := by
  cases other with
  | none => simp
  | some k =>
    by_cases hkey : key = some k
    · obtain ⟨rest, hrest⟩ := rowsOf_putRow_self k value rows
      simp [hkey, findRow?_some, hrest]
    · simp [hkey, findRow?_some, rowsOf_putRow (Ne.symm hkey)]

/-- Writing to a key adds it to the keys unless it is there. -/
theorem keysOf_putRow (key : Option Entry) (value : α) (rows : List (Option Entry × α)) :
    keysOf (putRow key value rows) = keysOf rows ∨
      ∃ k, key = some k ∧ k ∉ keysOf rows ∧ keysOf (putRow key value rows) = keysOf rows ++ [k] := by
  unfold keysOf
  induction rows with
  | nil => cases key <;> simp [putRow]
  | cons row rows ih =>
    obtain ⟨k, v⟩ := row
    rw [putRow]
    split
    · exact Or.inl (by cases k <;> simp)
    · rename_i hkey
      rcases ih with ih | ⟨k', rfl, hnew, ih⟩
      · exact Or.inl (by simp [List.filterMap_cons, ih])
      · refine Or.inr ⟨k', rfl, ?_, ?_⟩
        · cases k with
          | none => simpa using hnew
          | some k =>
            have hne : k' ≠ k := by
              rintro rfl
              simp at hkey
            simp only [List.filterMap_cons, List.mem_cons, not_or]
            exact ⟨hne, hnew⟩
        · cases k <;> simp [ih]

theorem nodup_concat {as : List α} {a : α} (h : as.Nodup) (hnew : a ∉ as) : (as ++ [a]).Nodup := by
  rw [List.nodup_append]
  refine ⟨h, by simp, ?_⟩
  rintro b hb c hc rfl
  exact hnew (List.mem_singleton.1 hc ▸ hb)

theorem nodup_putRow (key : Option Entry) (value : α) (h : (keysOf rows).Nodup) :
    (keysOf (putRow key value rows)).Nodup := by
  rcases keysOf_putRow key value rows with hsame | ⟨k, -, hnew, hkeys⟩
  · rwa [hsame]
  · rw [hkeys]
    exact nodup_concat h hnew

end

/-! ## Steps -/

/-- A step of a program that uses the store. -/
inductive StoreStep where
  | set (key value : Given)
  | touch (path time : Given)
  | reopen

/-- The row that a step writes to the settings; a refused step and one of another kind write none. -/
def StoreStep.row? : StoreStep → Option (Option Entry × Entry)
  | .set key value =>
    match Cell.ofGiven 1 key, Cell.ofGiven 2 value with
    | .ok key, .ok value => value.toEntry?.map fun entry => (key.toEntry?, entry)
    | _, _ => none
  | _ => none

/-- The setting that a step gives to a key; nothing is given to a missing key. -/
def StoreStep.gives? (step : StoreStep) (key : Option Entry) : Option Entry :=
  step.row?.bind fun row => if key.isSome ∧ row.1 = key then some row.2 else none

/-- The setting that steps give to a key, the last one that does. -/
def lastSet? (key : Option Entry) : List StoreStep → Option Entry
  | [] => none
  | step :: later => (lastSet? key later).or (step.gives? key)

namespace Store

/-- Performs a step: the store behind it, and why it was refused if it was. -/
def perform (s : Store) : StoreStep → Store × Option StoreError
  | .set key value => s.settle (s.put key value)
  | .touch path time => s.settle (s.touch path time)
  | .reopen => (s.reopen, none)

/-- The store after steps, refused ones among them. -/
def run (s : Store) (steps : List StoreStep) : Store := steps.foldl (fun s step => (s.perform step).1) s

/-- The store of a new file after steps. -/
def after (steps : List StoreStep) : Store := run (openOn {}) steps

/-- What a step can do: write a setting, record a file, open the file again, or be refused. -/
inductive Performs (s : Store) : StoreStep → Store → Option StoreError → Prop
  | wrote {key value : Given} {row : Option Entry × Entry} : (StoreStep.set key value).row? = some row →
      Performs s (.set key value) { s with settings := putRow row.1 row.2 s.settings } none
  | touched {path time : Given} {key : Option Entry} {cell : Cell} :
      Performs s (.touch path time) { s with recent := putRow key cell s.recent } none
  | reopened : Performs s .reopen s none
  | refused {step : StoreStep} {e : StoreError} : step.row? = none → Performs s step s (some e)

theorem performs_set (s : Store) (key value : Given) :
    s.Performs (.set key value) (s.perform (.set key value)).1 (s.perform (.set key value)).2 := by
  rw [perform, put]
  cases hkey : Cell.ofGiven 1 key with
  | error e => exact .refused (by simp [StoreStep.row?, hkey])
  | ok k =>
    cases hvalue : Cell.ofGiven 2 value with
    | error e => exact .refused (by simp [StoreStep.row?, hkey, hvalue])
    | ok v =>
      cases hentry : v.toEntry? with
      | none =>
        simp only [bind, Except.bind, hentry]
        exact .refused (by simp [StoreStep.row?, hkey, hvalue, hentry])
      | some entry =>
        have hrow : (StoreStep.set key value).row? = some (k.toEntry?, entry) := by
          simp [StoreStep.row?, hkey, hvalue, hentry]
        simp only [bind, Except.bind, hentry]
        exact .wrote hrow

theorem performs_touch (s : Store) (path time : Given) :
    s.Performs (.touch path time) (s.perform (.touch path time)).1 (s.perform (.touch path time)).2 := by
  rw [perform, touch]
  cases Cell.ofGiven 1 path with
  | error e => exact .refused rfl
  | ok k =>
    cases Cell.ofGiven 2 time with
    | error e => exact .refused rfl
    | ok t =>
      simp only [bind, Except.bind]
      cases t.toWhole with
      | null => exact .refused rfl
      | int n => exact .touched
      | real x => exact .touched
      | text text => exact .touched
      | bytes bs => exact .touched

/-- **Every step** does one of these things. -/
theorem performs (s : Store) (step : StoreStep) : s.Performs step (s.perform step).1 (s.perform step).2 := by
  cases step with
  | set key value => exact performs_set s key value
  | touch path time => exact performs_touch s path time
  | reopen => exact .reopened

/-! ## Runs -/

theorem run_cons (s : Store) (step : StoreStep) (steps : List StoreStep) :
    s.run (step :: steps) = (s.perform step).1.run steps := rfl

/-- A key has at most one row in each table. -/
structure OneRowEach (s : Store) : Prop where
  settings : (keysOf s.settings).Nodup
  recent : (keysOf s.recent).Nodup

section
variable {s next : Store} {step : StoreStep} {error : Option StoreError}

theorem Performs.oneRowEach (h : s.Performs step next error) (hs : s.OneRowEach) : next.OneRowEach := by
  cases h with
  | wrote => exact ⟨nodup_putRow _ _ hs.settings, hs.recent⟩
  | touched => exact ⟨hs.settings, nodup_putRow _ _ hs.recent⟩
  | reopened => exact hs
  | refused => exact hs

/-- A step changes the setting of a key just if it gives one to it. -/
theorem Performs.findRow?_eq (h : s.Performs step next error) (key : Option Entry) :
    findRow? key next.settings = (step.gives? key).or (findRow? key s.settings) := by
  cases h with
  | wrote hrow =>
    rw [findRow?_putRow, StoreStep.gives?, hrow, Option.bind_some]
    split <;> simp
  | touched => rfl
  | reopened => rfl
  | refused hnone => rw [StoreStep.gives?, hnone]; rfl

end

theorem OneRowEach.run {s : Store} (h : s.OneRowEach) (steps : List StoreStep) : (s.run steps).OneRowEach := by
  induction steps generalizing s with
  | nil => exact h
  | cons step steps ih => exact ih ((performs s step).oneRowEach h)

/-- The setting of a key after a run is the last one given to it, or else the one from before. -/
theorem findRow?_run (s : Store) (steps : List StoreStep) (key : Option Entry) :
    findRow? key (s.run steps).settings = (lastSet? key steps).or (findRow? key s.settings) := by
  induction steps generalizing s with
  | nil => rfl
  | cons step steps ih => rw [run_cons, ih, (performs s step).findRow?_eq, lastSet?, Option.or_assoc]

/-- What a step leaves alone. -/
structure Spares (s : Store) (step : StoreStep) (next : Store) (error : Option StoreError) : Prop where
  /-- A refused step changes nothing. -/
  refused : error ≠ none → next = s
  /-- A step on a setting goes through just if it has a row to write, which is the only one it changes. A row
  without a key is a new one. -/
  set : ∀ key value, step = .set key value → next.recent = s.recent ∧ (error = none ↔ step.row?.isSome) ∧
    ∀ row, step.row? = some row → (∀ other ≠ row.1, rowsOf other next.settings = rowsOf other s.settings) ∧
      (row.1 = none → next.settings = s.settings ++ [row])
  touch : ∀ path time, step = .touch path time → next.settings = s.settings
  reopen : step = .reopen → next = s
  renumbering : next.renumbering = s.renumbering

theorem Performs.spares {s next : Store} {step : StoreStep} {error : Option StoreError}
    (h : s.Performs step next error) : s.Spares step next error := by
  cases h with
  | wrote hrow =>
    rename_i key value row
    refine ⟨by simp, fun _ _ _ => ⟨rfl, by simp [hrow], ?_⟩, by simp, by simp, rfl⟩
    rintro ⟨k, entry⟩ hsame
    obtain rfl : row = (k, entry) := Option.some.inj (hrow.symm.trans hsame)
    refine ⟨fun other hother => rowsOf_putRow hother, ?_⟩
    rintro rfl
    exact putRow_none entry s.settings
  | touched => exact ⟨by simp, by simp, fun _ _ _ => rfl, by simp, rfl⟩
  | reopened => exact ⟨by simp, by simp, by simp, fun _ => rfl, rfl⟩
  | refused hnone =>
    refine ⟨fun _ => rfl, fun _ _ _ => ⟨rfl, by simp [hnone], ?_⟩, fun _ _ _ => rfl, fun _ => rfl, rfl⟩
    intro row hrow
    rw [hnone] at hrow
    cases hrow

/-- **The last write wins.** After any steps, refused ones among them, a key has at most one row in each table, and
its setting is the last one that a step gave to it, or the default, which is also what a missing key gives. The next
step changes nothing but its own row, and nothing at all if it is refused. -/
theorem last_write_wins (steps : List StoreStep) :
    (keysOf (after steps).settings).Nodup ∧ (keysOf (after steps).recent).Nodup ∧
      (∀ (key : Given) {α : Type} (take : Entry → α) (default : α), (after steps).lookupOr key take default =
        (Cell.ofGiven 1 key).map fun cell => ((lastSet? cell.toEntry? steps).map take).getD default) ∧
      (∀ {α : Type} (take : Entry → α) (default : α), (after steps).lookupOr .null take default = .ok default) ∧
      ∀ step, (after steps).Spares step ((after steps).perform step).1 ((after steps).perform step).2 := by
  have hnew : (openOn {}).OneRowEach := ⟨List.nodup_nil, List.nodup_nil⟩
  have hrows : (after steps).OneRowEach := hnew.run steps
  refine ⟨hrows.settings, hrows.recent, fun key α take default => ?_, fun _ _ => rfl, fun step => (performs _ step).spares⟩
  have hfind : ∀ k, findRow? k (after steps).settings = lastSet? k steps := by
    intro k
    rw [after, findRow?_run]
    cases k <;> exact Option.or_none
  rw [lookupOr, lookup]
  cases Cell.ofGiven 1 key with
  | error e => rfl
  | ok cell => simp only [bind, Except.bind, hfind, Except.map]

end Store

end MsxWorkbench.Settings
