import MsxWorkbench.Proofs.Settings.SavedColors
/-
# Colours of which one is refused

The name of a theme and its colours are written one by one, each for itself. A value that the store refuses ends the
saving and takes nothing back: what was written before it stays, and it and all behind it leave no trace
(`putNamed_refused_iff`). So saving is not all or nothing (`saveColors_half_done`). The settings are those from before
just if all that was written before the refusal was there already (`saveColors_refused_iff`).
-/
namespace MsxWorkbench.Settings

/-- What the settings hold for a value, or why it is refused. -/
def Given.entry (value : Given) : Except StoreError Entry := do
  let cell ← Cell.ofGiven 2 value
  match cell.toEntry? with
  | some entry => .ok entry
  | none => .error (.missingValue "settings.value")

/-- None of the values is refused, and these are the entries that they make. -/
def Makes (given : List (String × Given)) (rows : List (String × Entry)) : Prop :=
  given.map (fun g => (g.1, g.2.entry)) = rows.map fun row => (row.1, .ok row.2)

section
variable {key : String} {value : Given} {given : List (String × Given)} {rows : List (String × Entry)}

theorem makes_cons {entry : Entry} (h : value.entry = .ok entry) (hrows : Makes given rows) :
    Makes ((key, value) :: given) ((key, entry) :: rows) := by
  rw [Makes, List.map_cons, List.map_cons, h, hrows]

theorem of_makes_cons (h : Makes ((key, value) :: given) rows) :
    ∃ entry more, rows = (key, entry) :: more ∧ value.entry = .ok entry ∧ Makes given more := by
  cases rows with
  | nil => cases h
  | cons row more =>
    obtain ⟨hrow, hmore⟩ := List.cons.inj h
    obtain ⟨hkey, hentry⟩ := Prod.mk.inj hrow
    exact ⟨row.2, more, congrArg (fun k => (k, row.2) :: more) hkey.symm, hentry, hmore⟩

theorem Makes.keys (h : Makes given rows) : rows.map Prod.fst = given.map Prod.fst := by
  have hkeys := congrArg (List.map Prod.fst) h
  rw [List.map_map, List.map_map] at hkeys
  exact hkeys.symm

end

/-! ## Writing up to a refusal -/

/-- A row that holds a value already is left as it is when that value is written. -/
theorem putRow_of_findRow? {k : Entry} {entry : Entry} {rows : List (Option Entry × Entry)}
    (h : findRow? (some k) rows = some entry) : putRow (some k) entry rows = rows := by
  induction rows with
  | nil => cases h
  | cons row rows ih =>
    obtain ⟨other, value⟩ := row
    rw [findRow?_some, rowsOf] at h ih
    rw [putRow]
    by_cases hrow : other = some k
    · have hvalue : value = entry := by simpa [hrow] using h
      simp [hrow, hvalue]
    · have hmore : putRow (some k) entry rows = rows := ih (by simpa [hrow] using h)
      simp [hrow, hmore]

namespace Store

section
variable {s t : Store} {key : String} {value : Given} {given : List (String × Given)} {rows : List (String × Entry)}
  {e : StoreError}

theorem put_key (s : Store) (key : String) (value : Given) :
    s.put (.text key) value = value.entry.map (s.write key) := by
  have hkey : Cell.ofGiven 1 (.text key) = .ok (.text key) := rfl
  rw [put, hkey, Given.entry]
  cases Cell.ofGiven 2 value with
  | error e => rfl
  | ok cell =>
    simp only [bind, Except.bind]
    cases cell.toEntry? with
    | none => rfl
    | some entry => rfl

/-- Writes settings by name up to the first that is refused. -/
def putNamed (s : Store) (given : List (String × Given)) : Store × Option StoreError :=
  s.putAll (given.map fun g => (.text g.1, g.2))

theorem putNamed_cons_ok {entry : Entry} (h : value.entry = .ok entry) :
    s.putNamed ((key, value) :: given) = (s.write key entry).putNamed given := by
  rw [putNamed, List.map_cons, putAll, put_key, h]
  rfl

theorem putNamed_cons_error (h : value.entry = .error e) : s.putNamed ((key, value) :: given) = (s, some e) := by
  rw [putNamed, List.map_cons, putAll, put_key, h]
  rfl

/-- Writing is ended by the refusal of a value: the entries in front of it are there, and nothing else has changed. -/
structure StopsAt (s : Store) (given : List (String × Given)) (rows : List (String × Entry)) (t : Store)
    (e : StoreError) : Prop where
  split : ∃ before refused behind, given = before ++ refused :: behind ∧ Makes before rows ∧ refused.2.entry = .error e
  store : t = s.writeAll rows

theorem putNamed_of_split {before behind : List (String × Given)} {refused : String × Given} (h : Makes before rows)
    (hrefused : refused.2.entry = .error e) :
    s.putNamed (before ++ refused :: behind) = (s.writeAll rows, some e) := by
  induction before generalizing s rows with
  | nil =>
    obtain rfl : rows = [] := List.map_eq_nil_iff.1 h.symm
    exact putNamed_cons_error hrefused
  | cons g before ih =>
    obtain ⟨entry, more, rfl, hentry, hmore⟩ := of_makes_cons h
    rw [List.cons_append, putNamed_cons_ok hentry]
    exact ih hmore

theorem exists_stopsAt (h : s.putNamed given = (t, some e)) : ∃ rows, StopsAt s given rows t e := by
  induction given generalizing s with
  | nil => cases h
  | cons g given ih =>
    obtain ⟨key, value⟩ := g
    cases hentry : value.entry with
    | error e' =>
      rw [putNamed_cons_error hentry] at h
      cases h
      exact ⟨[], ⟨[], (key, value), given, rfl, rfl, hentry⟩, rfl⟩
    | ok entry =>
      rw [putNamed_cons_ok hentry] at h
      obtain ⟨rows, ⟨before, refused, behind, rfl, hrows, hrefused⟩, hstore⟩ := ih h
      exact ⟨(key, entry) :: rows, ⟨(key, value) :: before, refused, behind, rfl, makes_cons hentry hrows, hrefused⟩, hstore⟩

/-- What was written in front of a refusal stays. -/
theorem putNamed_refused_iff : s.putNamed given = (t, some e) ↔ ∃ rows, StopsAt s given rows t e := by
  refine ⟨exists_stopsAt, ?_⟩
  rintro ⟨rows, ⟨before, refused, behind, rfl, hrows, hrefused⟩, rfl⟩
  exact putNamed_of_split hrows hrefused

/-- Entries that are there already are written without a change. -/
theorem writeAll_of_get? (h : ∀ row ∈ rows, s.get? row.1 = some row.2) : s.writeAll rows = s := by
  induction rows with
  | nil => rfl
  | cons row rows ih =>
    rw [List.forall_mem_cons] at h
    have hwrite : s.write row.1 row.2 = s := by rw [write, putRow_of_findRow? h.1]
    rw [writeAll, List.foldl_cons, hwrite]
    exact ih h.2

end

/-! ## Colours -/

/-- What is written when colours are saved, by the names of the settings. -/
def namedColors (theme : Given) (colors : List (String × Given)) : List (String × Given) :=
  (themeKey, theme) :: colors.map fun c => (colorSetting c.1, c.2)

theorem saveColors_eq (s : Store) (theme : Given) (colors : List (String × Given)) :
    s.saveColors theme colors = s.putNamed (namedColors theme colors) := by
  rw [saveColors, putNamed, namedColors, List.map_cons, List.map_map]
  rfl

theorem nodup_namedColors (theme : Given) {colors : List (String × Given)} (h : (colors.map Prod.fst).Nodup) :
    ((namedColors theme colors).map Prod.fst).Nodup := by
  have hkeys := nodup_settingKeys h
  rw [List.map_map] at hkeys
  rwa [namedColors, List.map_cons, List.map_map]

/-- **Colours are saved up to the first that is refused.** Saving is refused just if a value is, with the fault of the
first such value. The entries in front of it are the settings of their keys then, and all else is as it was. So the
settings are those from before just if these entries were there before. -/
theorem saveColors_refused_iff (s : Store) (theme : Given) (colors : List (String × Given))
    (hkeys : (colors.map Prod.fst).Nodup) (t : Store) (e : StoreError) :
    (s.saveColors theme colors = (t, some e) ↔ ∃ rows, StopsAt s (namedColors theme colors) rows t e) ∧
      ∀ rows, StopsAt s (namedColors theme colors) rows t e →
        (∀ row ∈ rows, t.get? row.1 = some row.2) ∧ SameBut (rows.map Prod.fst) s t ∧
          (t.settings = s.settings ↔ ∀ row ∈ rows, s.get? row.1 = some row.2) := by
  rw [saveColors_eq, putNamed_refused_iff]
  refine ⟨Iff.rfl, ?_⟩
  rintro rows ⟨⟨before, refused, behind, hgiven, hrows, -⟩, rfl⟩
  have hnodup : (rows.map Prod.fst).Nodup := by
    have hall := nodup_namedColors theme hkeys
    rw [hgiven, List.map_append, ← hrows.keys] at hall
    exact (List.nodup_append.1 hall).1
  have hget : ∀ row ∈ rows, (s.writeAll rows).get? row.1 = some row.2 :=
    fun row hrow => get_foldl get? get?_write hnodup hrow s
  refine ⟨hget, sameBut_writeAll s rows, fun hsame row hrow => ?_, fun hthere => ?_⟩
  · rw [← hget row hrow, get?, get?, hsame]
  · rw [writeAll_of_get? hthere]

/-- A colour in the middle is refused: the theme and the colour before it are new, and the colour behind it is still the
one that was stored before. -/
theorem saveColors_refused_iff_middle :
    let s := setAll {} [("syntax_theme", "Papel"), ("syntax_color_bg", "#FFFFFF")]
    let colors : List (String × Given) := [("command", .int 7), ("string", .null), ("bg", .text "#000000")]
    (colors.map Prod.fst).Nodup ∧ ∃ t,
      s.saveColors (.text "Neon") colors = (t, some (.missingValue "settings.value")) ∧
        t.get? "syntax_theme" = some (.text "Neon") ∧ t.get? "syntax_color_command" = some (.text "7") ∧
        t.get? "syntax_color_bg" = some (.text "#FFFFFF") ∧ t.settings ≠ s.settings := by
  intro s colors
  let rows : List (String × Entry) := [("syntax_theme", .text "Neon"), ("syntax_color_command", .text "7")]
  have hkeys : (colors.map Prod.fst).Nodup := by decide
  have hstops : StopsAt s (namedColors (.text "Neon") colors) rows (s.writeAll rows) (.missingValue "settings.value") :=
    ⟨⟨[("syntax_theme", .text "Neon"), ("syntax_color_command", .int 7)], ("syntax_color_string", .null),
      [("syntax_color_bg", .text "#000000")], by decide, makes_cons rfl (makes_cons rfl rfl), rfl⟩, rfl⟩
  obtain ⟨hiff, hleft⟩ := saveColors_refused_iff s (.text "Neon") colors hkeys _ _
  obtain ⟨hget, -, hsame⟩ := hleft rows hstops
  have htheme : ("syntax_theme", .text "Neon") ∈ rows := List.mem_cons_self
  have hcommand : ("syntax_color_command", .text "7") ∈ rows := List.mem_cons_of_mem _ List.mem_cons_self
  refine ⟨hkeys, s.writeAll rows, hiff.2 ⟨rows, hstops⟩, hget _ htheme, hget _ hcommand, by decide, fun hold => ?_⟩
  exact absurd (hsame.1 hold _ htheme) (by decide)

/-- Saving colours is not all or nothing. -/
theorem saveColors_half_done : ¬ ∀ (s : Store) (theme : Given) (colors : List (String × Given)) (t : Store)
    (e : StoreError), (colors.map Prod.fst).Nodup → s.saveColors theme colors = (t, some e) →
      t.settings = s.settings := by
  intro hall
  have hsame := hall (setAll {} [("syntax_theme", "Papel")]) (.text "Neon") [("command", .text "#111111"), ("string", .null)]
    (setAll {} [("syntax_theme", "Neon"), ("syntax_color_command", "#111111")]) (.missingValue "settings.value")
    (by decide) (by decide)
  exact absurd hsame (by decide)

end Store

end MsxWorkbench.Settings
