import MsxWorkbench.Settings.Theme
import MsxWorkbench.Proofs.Settings.StoreRuns
import MsxWorkbench.Proofs.Steps
/-
# Saved colours

Texts are never refused, so a list of them is written to the end (`putAll_texts`), and each key then has the text that
was given for it (`get?_setAll`). Colours that were saved are in force afterwards. A colour that was given as an empty
text leaves the key to the theme, and one that was not given leaves it to what was stored before
(`colorTable_saveColors`).
-/
namespace MsxWorkbench.Settings

namespace Store

/-! ## Writing texts -/

/-- The store with settings written one after the other. -/
def setAll (s : Store) (pairs : List (String × String)) : Store := pairs.foldl (fun s p => s.set p.1 p.2) s

theorem put_text (s : Store) (key value : String) : s.put (.text key) (.text value) = .ok (s.set key value) := rfl

theorem putAll_texts (pairs : List (String × String)) : ∀ s : Store,
    s.putAll (pairs.map fun p => (.text p.1, .text p.2)) = (s.setAll pairs, none) := by
  induction pairs with
  | nil => intro s; rfl
  | cons p pairs ih =>
    intro s
    rw [List.map_cons, putAll, put_text]
    exact ih _

theorem get?_set (s : Store) (p : String × String) (key : String) :
    (s.set p.1 p.2).get? key = if p.1 = key then some (.text p.2) else s.get? key := by
  simp [get?, set, findRow?_putRow]

theorem get?_setAll_of_notMem {s : Store} {key : String} {pairs : List (String × String)}
    (h : key ∉ pairs.map Prod.fst) : (s.setAll pairs).get? key = s.get? key :=
  get_foldl_of_notMem get? get?_set h s

/-- A text that was given for a key, once, is its setting. -/
theorem get?_setAll {s : Store} {key value : String} {pairs : List (String × String)}
    (hkeys : (pairs.map Prod.fst).Nodup) (hmem : (key, value) ∈ pairs) :
    (s.setAll pairs).get? key = some (.text value) :=
  get_foldl get? get?_set hkeys hmem s

/-! ## Writing entries -/

/-- The store with an entry written to a key. -/
def write (s : Store) (key : String) (entry : Entry) : Store :=
  { s with settings := putRow (some (.text key)) entry s.settings }

/-- The store with entries written one after the other. -/
def writeAll (s : Store) (rows : List (String × Entry)) : Store := rows.foldl (fun s row => s.write row.1 row.2) s

theorem get?_write (s : Store) (row : String × Entry) (key : String) :
    (s.write row.1 row.2).get? key = if row.1 = key then some row.2 else s.get? key := by
  simp [get?, write, findRow?_putRow]

/-- The stores differ in the settings of the given keys at most. -/
structure SameBut (keys : List String) (s t : Store) : Prop where
  settings : ∀ key, (∀ k ∈ keys, key ≠ some (.text k)) → rowsOf key t.settings = rowsOf key s.settings
  recent : t.recent = s.recent
  renumbering : t.renumbering = s.renumbering

theorem sameBut_writeAll (s : Store) (rows : List (String × Entry)) : SameBut (rows.map Prod.fst) s (s.writeAll rows) := by
  induction rows generalizing s with
  | nil => exact ⟨fun _ _ => rfl, rfl, rfl⟩
  | cons row rows ih =>
    have hmore := ih (s.write row.1 row.2)
    refine ⟨fun key hkey => ?_, hmore.recent, hmore.renumbering⟩
    rw [List.map_cons, List.forall_mem_cons] at hkey
    exact (hmore.settings key hkey.2).trans (rowsOf_putRow hkey.1)

theorem sameBut_setAll (s : Store) (pairs : List (String × String)) :
    SameBut (pairs.map Prod.fst) s (s.setAll pairs) := by
  have hrows : s.setAll pairs = s.writeAll (pairs.map fun p => (p.1, .text p.2)) := by
    rw [writeAll, List.foldl_map]
    rfl
  have hsame := sameBut_writeAll s (pairs.map fun p => (p.1, .text p.2))
  rwa [← hrows, List.map_map] at hsame

end Store

/-! ## Colours -/

theorem colorSetting_injective {a b : String} (h : colorSetting a = colorSetting b) : a = b :=
  (String.append_right_inj _).1 h

theorem themeKey_ne_colorSetting (name : String) : themeKey ≠ colorSetting name := by
  intro h
  have hchars := congrArg String.toList h
  simp [themeKey, colorSetting] at hchars

/-- The theme and the colours of distinct names have settings of their own. -/
theorem nodup_settingKeys {names : List String} (h : names.Nodup) : (themeKey :: names.map colorSetting).Nodup := by
  rw [List.nodup_cons]
  constructor
  · intro hmem
    obtain ⟨name, -, hname⟩ := List.mem_map.1 hmem
    exact themeKey_ne_colorSetting name hname.symm
  · exact List.Pairwise.map _ (fun a b hab heq => hab (colorSetting_injective heq)) h

/-- The texts that are written when colours are saved. -/
def colorWrites (theme : String) (colors : List (String × String)) : List (String × String) :=
  (themeKey, theme) :: colors.map fun c => (colorSetting c.1, c.2)

section
variable {theme : String} {colors : List (String × String)}

theorem keys_colorWrites :
    (colorWrites theme colors).map Prod.fst = themeKey :: (colors.map Prod.fst).map colorSetting := by
  simp [colorWrites]

theorem nodup_colorWrites (h : (colors.map Prod.fst).Nodup) : ((colorWrites theme colors).map Prod.fst).Nodup := by
  rw [keys_colorWrites]
  exact nodup_settingKeys h

theorem Store.saveColors_texts (s : Store) :
    s.saveColors (.text theme) (colors.map fun c => (c.1, .text c.2)) = (s.setAll (colorWrites theme colors), none) := by
  rw [← putAll_texts, saveColors, colorWrites, List.map_cons, List.map_map, List.map_map]
  rfl

/-- The colour of a key once colours were saved with a theme: the given one, with that of the theme in place of an
empty one. Where none is given it is the stored one from before, or again that of the theme. -/
def Store.colorAfter (s : Store) (theme : String) (colors : List (String × String)) (k : ColorKey) : Entry :=
  match colors.lookup k.name, s.get? (colorSetting k.name) with
  | some c, _ => .text (if c = "" then (Theme.named theme).color k else c)
  | none, some old => if old.isEmpty then .text ((Theme.named theme).color k) else old
  | none, none => .text ((Theme.named theme).color k)

variable (hkeys : (colors.map Prod.fst).Nodup)
include hkeys

theorem Store.theme_saved (s : Store) : (s.setAll (colorWrites theme colors)).theme = Theme.named theme := by
  have hget : (s.setAll (colorWrites theme colors)).get? themeKey = some (.text theme) :=
    get?_setAll (nodup_colorWrites hkeys) List.mem_cons_self
  simp [Store.theme, Store.get, text?, hget, Entry.text?]

theorem Store.get?_saved (s : Store) (name : String) : (s.setAll (colorWrites theme colors)).get? (colorSetting name) =
    match colors.lookup name with
    | some c => some (.text c)
    | none => s.get? (colorSetting name) := by
  cases hname : colors.lookup name with
  | some c =>
    obtain ⟨before, behind, rfl, -⟩ := List.lookup_eq_some_iff.1 hname
    exact get?_setAll (nodup_colorWrites hkeys) (by simp [colorWrites])
  | none =>
    refine get?_setAll_of_notMem ?_
    rw [keys_colorWrites, List.mem_cons, not_or]
    refine ⟨Ne.symm (themeKey_ne_colorSetting name), fun hmem => ?_⟩
    obtain ⟨other, hother, heq⟩ := List.mem_map.1 hmem
    obtain ⟨c, hc, rfl⟩ := List.mem_map.1 hother
    have hne := List.lookup_eq_none_iff.1 hname c hc
    rw [bne_iff_ne, colorSetting_injective heq] at hne
    exact hne rfl

theorem Store.colorInForce_saved (s : Store) (k : ColorKey) :
    (s.setAll (colorWrites theme colors)).colorInForce k = s.colorAfter theme colors k := by
  rw [colorInForce, colorAfter, get?_saved hkeys, theme_saved hkeys]
  cases colors.lookup k.name with
  | none => cases s.get? (colorSetting k.name) <;> rfl
  | some c =>
    by_cases hc : c = ""
    · simp [hc, Entry.isEmpty]
    · simp [hc, Entry.isEmpty, String.isEmpty_iff]

end

/-- **Saved colours are in force afterwards.** -/
theorem Store.colorTable_saveColors (s : Store) (theme : String) (colors : List (String × String))
    (hkeys : (colors.map Prod.fst).Nodup) :
    ∃ t, s.saveColors (.text theme) (colors.map fun c => (c.1, .text c.2)) = (t, none) ∧
      t.colorTable.map Prod.fst = ["command", "function", "string", "number", "comment", "line_number", "bg", "fg"] ∧
      (∀ k : ColorKey, t.colorTable.lookup k.name = some (s.colorAfter theme colors k)) ∧
      SameBut (themeKey :: colors.map fun c => colorSetting c.1) s t := by
  refine ⟨s.setAll (colorWrites theme colors), s.saveColors_texts, rfl, fun k => ?_, ?_⟩
  · rw [← colorInForce_saved hkeys]
    cases k <;> rfl
  · have hsame := sameBut_setAll s (colorWrites theme colors)
    rwa [keys_colorWrites, List.map_map] at hsame

/-- A theme that is not known, over colours that were stored before. -/
theorem Store.colorTable_saveColors_stale : (["function", "comment"] : List String).Nodup ∧
    ∃ t, (setAll {} [("syntax_theme", "Neon"), ("syntax_color_function", "#101010"), ("syntax_color_string", "#202020"),
        ("syntax_color_number", "")]).saveColors (.text "Plain") [("function", .text ""), ("comment", .text "red")] =
        (t, none) ∧
      t.colorTable.lookup "function" = some (.text "#2B7A5B") ∧ t.colorTable.lookup "comment" = some (.text "red") ∧
      t.colorTable.lookup "string" = some (.text "#202020") ∧ t.colorTable.lookup "number" = some (.text "#7A3E9D") := by
  have hkeys : (["function", "comment"] : List String).Nodup := by decide
  obtain ⟨t, hsave, -, hcolor, -⟩ := colorTable_saveColors
    (setAll {} [("syntax_theme", "Neon"), ("syntax_color_function", "#101010"), ("syntax_color_string", "#202020"),
      ("syntax_color_number", "")]) "Plain" [("function", ""), ("comment", "red")] hkeys
  exact ⟨hkeys, t, hsave, (hcolor .function).trans (by decide), (hcolor .comment).trans (by decide),
    (hcolor .string).trans (by decide), (hcolor .number).trans (by decide)⟩

end MsxWorkbench.Settings
