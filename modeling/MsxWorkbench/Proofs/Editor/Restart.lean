import MsxWorkbench.Editor.Preferences
import MsxWorkbench.Proofs.Editor.Runs
import MsxWorkbench.Proofs.Settings.SavedColors
/-
# Settings after a restart

Saving the form writes the colours twice: with the theme, under the keys that all windows share, and among the settings of
the editor, under keys of its own. An editor that is opened later takes the colours from the first and the other settings
from the second, so it shows what stood in the form, with the colours of the theme for fields that were empty
(`start_save`).

| here | meaning |
| --- | --- |
| `TextsBut` | each setting has one value, a text unless the form is about to replace it |
| `filled` | the settings once the form has been put in |
| `plainEntries`, `chosenColor` | the settings of an editor that is opened after the form was saved |
-/
namespace MsxWorkbench.Editor

open Settings

/-! ## Members of an object -/

theorem lookup_member (key : String) (value : Json) (members : List (String × Json)) (other : String) :
    ((key, value) :: members).lookup other = if key = other then some value else members.lookup other := by
  rw [List.lookup_cons]
  by_cases h : key = other
  · simp [h]
  · have hne : (other == key) = false := beq_eq_false_iff_ne.2 (Ne.symm h)
    rw [hne, if_neg h]

theorem lookup_putMember (key : String) (value : Json) (members : List (String × Json)) (other : String) :
    (Json.putMember key value members).lookup other = if key = other then some value else members.lookup other := by
  induction members with
  | nil => exact lookup_member key value [] other
  | cons m members ih =>
    obtain ⟨k, v⟩ := m
    rw [Json.putMember]
    split
    · rename_i hk
      rw [lookup_member, lookup_member, hk]
      split <;> rfl
    · rename_i hk
      rw [lookup_member, lookup_member, ih]
      by_cases h : key = other
      · rw [if_pos h, if_neg (h ▸ hk), if_pos h]
      · rw [if_neg h, if_neg h]

theorem keys_putMember (key : String) (value : Json) (members : List (String × Json)) :
    (Json.putMember key value members).map Prod.fst =
      if key ∈ members.map Prod.fst then members.map Prod.fst else members.map Prod.fst ++ [key] := by
  induction members with
  | nil => rfl
  | cons m members ih =>
    obtain ⟨k, v⟩ := m
    rw [Json.putMember]
    by_cases hk : k = key
    · simp [hk]
    · rw [if_neg hk, List.map_cons, ih]
      by_cases hmem : key ∈ members.map Prod.fst <;> simp_all [eq_comm]

theorem mem_putMember {key : String} {value : Json} {members : List (String × Json)} {m : String × Json}
    (hkeys : (members.map Prod.fst).Nodup) (h : m ∈ Json.putMember key value members) :
    m = (key, value) ∨ (m ∈ members ∧ m.1 ≠ key) := by
  induction members with
  | nil => exact Or.inl (List.mem_singleton.1 h)
  | cons first members ih =>
    obtain ⟨k, v⟩ := first
    rw [List.map_cons, List.nodup_cons] at hkeys
    rw [Json.putMember] at h
    split at h
    · rename_i hk
      rcases List.mem_cons.1 h with rfl | hm
      · exact Or.inl (by rw [hk])
      · refine Or.inr ⟨List.mem_cons_of_mem _ hm, ?_⟩
        intro heq
        exact hkeys.1 (List.mem_map.2 ⟨m, hm, heq.trans hk.symm⟩)
    · rename_i hk
      rcases List.mem_cons.1 h with rfl | hm
      · exact Or.inr ⟨List.mem_cons_self, hk⟩
      · exact (ih hkeys.2 hm).imp_right fun hm => ⟨List.mem_cons_of_mem _ hm.1, hm.2⟩

/-! ## Settings that are texts -/

/-- Settings with others put in. -/
def withEntries (entries settings : List (String × Json)) : List (String × Json) :=
  entries.foldl (fun members e => Json.putMember e.1 e.2 members) settings

theorem withEntries_append (entries more settings : List (String × Json)) :
    withEntries (entries ++ more) settings = withEntries more (withEntries entries settings) := List.foldl_append

theorem lookup_withEntries {entries : List (String × Json)} (hkeys : (entries.map Prod.fst).Nodup) {e : String × Json}
    (he : e ∈ entries) (settings : List (String × Json)) : (withEntries entries settings).lookup e.1 = some e.2 :=
  get_foldl (fun (members : List (String × Json)) k => members.lookup k)
    (fun members e k => lookup_putMember e.1 e.2 members k) hkeys he settings

/-- Each setting has one value, and those of other keys are texts. -/
structure TextsBut (keys : List String) (settings : List (String × Json)) : Prop where
  nodup : (settings.map Prod.fst).Nodup
  texts : ∀ e ∈ settings, e.1 ∉ keys → ∃ t, e.2 = .str t

section
variable {key : String} {keys : List String} {entries settings : List (String × Json)}

theorem TextsBut.putMember (h : TextsBut (key :: keys) settings) (text : String) :
    TextsBut keys (Json.putMember key (.str text) settings) := by
  constructor
  · rw [keys_putMember]
    split
    · exact h.nodup
    · rename_i hnew
      exact nodup_concat h.nodup hnew
  · intro e he hkey
    rcases mem_putMember h.nodup he with rfl | ⟨hmem, hne⟩
    · exact ⟨text, rfl⟩
    · exact h.texts e hmem (by simp [hne, hkey])

/-- Putting texts in for the rest makes all settings texts. -/
theorem TextsBut.withEntries (h : TextsBut (entries.map Prod.fst) settings)
    (htexts : ∀ e ∈ entries, ∃ t, e.2 = .str t) : TextsBut [] (withEntries entries settings) := by
  induction entries generalizing settings with
  | nil => exact h
  | cons e entries ih =>
    obtain ⟨key, value⟩ := e
    rw [List.forall_mem_cons] at htexts
    obtain ⟨⟨text, rfl⟩, hmore⟩ := htexts
    exact ih (h.putMember text) hmore

end

/-- Texts as settings. -/
def asSettings (texts : List (String × String)) : List (String × Json) := texts.map fun t => (t.1, .str t.2)

theorem exists_asSettings {settings : List (String × Json)} (h : ∀ e ∈ settings, ∃ t, e.2 = .str t) :
    ∃ texts, settings = asSettings texts := by
  induction settings with
  | nil => exact ⟨[], rfl⟩
  | cons e settings ih =>
    obtain ⟨key, value⟩ := e
    rw [List.forall_mem_cons] at h
    obtain ⟨⟨text, rfl⟩, hmore⟩ := h
    obtain ⟨texts, rfl⟩ := ih hmore
    exact ⟨(key, text) :: texts, rfl⟩

theorem keys_asSettings (texts : List (String × String)) : (asSettings texts).map Prod.fst = texts.map Prod.fst := by
  simp [asSettings]

/-! ## The store behind the settings -/

/-- Texts under the keys that the editor has in the store. -/
def editorKeys (texts : List (String × String)) : List (String × String) := texts.map fun t => ("editor_" ++ t.1, t.2)

theorem writeSettings_asSettings (store : Store) (texts : List (String × String)) :
    writeSettings store (asSettings texts) = (store.setAll (editorKeys texts), none) := by
  rw [← Store.putAll_texts, writeSettings, asSettings, editorKeys, List.map_map, List.map_map]
  rfl

theorem keys_editorKeys (texts : List (String × String)) :
    (editorKeys texts).map Prod.fst = (texts.map Prod.fst).map ("editor_" ++ ·) := by
  simp [editorKeys]

section
variable {store : Store} {texts : List (String × String)}

/-- A setting that was written is read. -/
theorem text?_editorKeys (hkeys : (texts.map Prod.fst).Nodup) {key text : String}
    (h : (asSettings texts).lookup key = some (.str text)) :
    (store.setAll (editorKeys texts)).text? ("editor_" ++ key) = some text := by
  have hnodup : ((editorKeys texts).map Prod.fst).Nodup := by
    rw [keys_editorKeys]
    exact List.Pairwise.map _ (fun a b hab heq => hab ((String.append_right_inj _).1 heq)) hkeys
  obtain ⟨before, behind, hsplit, -⟩ := List.lookup_eq_some_iff.1 h
  have hmem : (key, Json.str text) ∈ asSettings texts := by simp [hsplit]
  obtain ⟨t, ht, heq⟩ := List.mem_map.1 hmem
  cases heq
  rw [Store.text?, Store.get?_setAll hnodup (List.mem_map_of_mem ht)]
  rfl

/-- The editor's keys are none of those of the theme and the colours. -/
theorem get?_editorKeys {key : String} (h : key.toList.head? = some 's') :
    (store.setAll (editorKeys texts)).get? key = store.get? key := by
  refine Store.get?_setAll_of_notMem ?_
  rw [keys_editorKeys]
  intro hmem
  obtain ⟨other, -, rfl⟩ := List.mem_map.1 hmem
  simp at h

theorem colorInForce_editorKeys (k : ColorKey) :
    (store.setAll (editorKeys texts)).colorInForce k = store.colorInForce k := by
  have hcolor : (colorSetting k.name).toList.head? = some 's' := by simp [colorSetting]
  have htheme : themeKey.toList.head? = some 's' := by simp [themeKey]
  rw [Store.colorInForce, Store.colorInForce, get?_editorKeys hcolor, Store.theme, Store.theme, Store.get, Store.get,
    Store.text?, Store.text?, get?_editorKeys htheme]

end

/-! ## Saving the form -/

namespace Preferences

theorem putAll_eq (entries : List (String × Json)) (s : State) :
    putAll entries s = { s with settings := withEntries entries s.settings } := by
  induction entries generalizing s with
  | nil => rfl
  | cons e entries ih => exact ih _

/-- Settings once the form has been put in. -/
def filled (p : Preferences) (settings : List (String × Json)) : List (String × Json) :=
  withEntries (p.entries ++ p.lateEntries) settings

/-- The texts in the fields of the colours, by name. -/
def colorTexts (p : Preferences) : List (String × String) :=
  formColors.map fun k => (k.name, p.field ("color_" ++ k.name))

theorem draws_applyColors : Draws applyColors := by
  refine Draws.bind (draws_modify (fun s => ?_) fun s => ?_) fun _ => ?_
  · refine view_foldl ?_ shadeSettings s
    exact fun _ _ => rfl
  · refine view_foldl ?_ shadeSettings s
    exact fun _ _ => rfl
  · exact (draws_call .configure).bind fun _ => draws_modify (fun _ => rfl) fun _ => rfl

theorem draws_showSaved : Draws showSaved := by
  refine draws_get.bind fun s => (draws_call .configure).bind fun _ => ?_
  refine Draws.bind (draws_modify (fun _ => rfl) fun _ => rfl) fun _ => ?_
  refine (draws_call .configure).bind fun _ => ?_
  refine Draws.bind (draws_modify (fun _ => rfl) fun _ => rfl) fun _ => ?_
  refine draws_applyColors.bind fun _ => draws_highlight.bind fun _ => ?_
  exact draws_modify (fun _ => rfl) fun _ => rfl

theorem runOn_saveSettings {s : State} (hstore : s.connected = true) {texts : List (String × String)}
    (htexts : s.settings = asSettings texts) :
    saveSettings.runOn s = (.ok (), { s with store := s.store.setAll (editorKeys texts) }) := by
  rw [saveSettings, runOn_bind, runOn_get]
  simp only [hstore, htexts, writeSettings_asSettings]
  rfl

/-- All is stored before anything is drawn. -/
theorem runOn_save (p : Preferences) {s : State} (hstore : s.connected = true) {texts : List (String × String)}
    (htexts : p.filled s.settings = asSettings texts) :
    p.save.runOn s = showSaved.runOn { s with
      settings := asSettings texts
      store := (s.store.setAll (colorWrites p.theme p.colorTexts)).setAll (editorKeys texts) } := by
  have hcolors : s.store.saveColors (.text p.theme)
      (formColors.map fun k => (k.name, Given.text (p.field ("color_" ++ k.name)))) =
      (s.store.setAll (colorWrites p.theme p.colorTexts), none) := by
    rw [← Store.saveColors_texts, colorTexts, List.map_map]
    rfl
  rw [filled, withEntries_append] at htexts
  rw [save, runOn_bind, runOn_modify]
  simp only
  rw [runOn_bind, runOn_get]
  simp only [putAll_eq, hcolors]
  rw [runOn_bind, runOn_set]
  simp only
  rw [runOn_bind, runOn_modify]
  simp only [putAll_eq, htexts]
  rw [runOn_bind, runOn_saveSettings (s := { s with
    settings := asSettings texts
    store := s.store.setAll (colorWrites p.theme p.colorTexts) }) hstore rfl]

/-- What saving leaves, whether showing it fails or not. -/
theorem exists_save (p : Preferences) {s : State} (hstore : s.connected = true) {texts : List (String × String)}
    (htexts : p.filled s.settings = asSettings texts) :
    ∃ result saved, p.save.runOn s = (result, saved) ∧ (s.failing = [] → result = .ok ()) ∧
      saved.connected = true ∧ saved.settings = asSettings texts ∧
      saved.store = (s.store.setAll (colorWrites p.theme p.colorTexts)).setAll (editorKeys texts) := by
  rw [p.runOn_save hstore htexts]
  generalize ht : { s with
      settings := asSettings texts
      store := (s.store.setAll (colorWrites p.theme p.colorTexts)).setAll (editorKeys texts) } = t
  refine ⟨(showSaved.runOn t).1, (showSaved.runOn t).2, rfl, fun hs => ?_, ?_, ?_, ?_⟩
  · obtain ⟨a, u, hrun, -⟩ := draws_showSaved.works t (by rw [← ht]; exact hs)
    rw [hrun]
  · rw [draws_showSaved.connected, ← ht]
    exact hstore
  · rw [draws_showSaved.settings, ← ht]
  · rw [draws_showSaved.store, ← ht]

/-! ## Opening an editor -/

theorem settings_start (store : Store) : (State.start store).settings = readSettings store firstSettings ++
    ColorKey.all.map fun k => ("color_" ++ k.name, .str (store.colors.color k)) := by
  rw [State.start, draws_applyColors.settings]
  rfl

theorem readSettings_eq {store : Store} : ∀ {defaults entries : List (String × Json)},
    defaults.map Prod.fst = entries.map Prod.fst →
    (∀ e ∈ entries, (store.text? ("editor_" ++ e.1)).map .str = some e.2) → readSettings store defaults = entries
  | [], [], _, _ => rfl
  | (key, value) :: defaults, (key', value') :: entries, hkeys, hread => by
    rw [List.map_cons, List.map_cons, List.cons.injEq] at hkeys
    rw [List.forall_mem_cons] at hread
    obtain ⟨rfl, hkeys⟩ := hkeys
    have hfirst : (store.text? ("editor_" ++ key)).map Json.str = some value' := hread.1
    have hmore := readSettings_eq hkeys hread.2
    rw [readSettings] at hmore ⊢
    rw [List.map_cons, hmore]
    simp only [hfirst, Option.getD_some]

/-- The settings that an editor has and a form fills. -/
def formSettings : List String :=
  ["dialect", "start_line", "increment", "color_command", "color_function", "color_string", "color_number",
    "color_line_number", "color_comment", "color_bg", "color_fg", "keep_case", "openmsx_path", "fmsx_path", "extra_configs"]

theorem textsBut_start (store : Store) : TextsBut formSettings (State.start store).settings := by
  have hkeys : (State.start store).settings.map Prod.fst = (openingSettings {}).map Prod.fst := by
    rw [settings_start]
    rfl
  have hform : ∀ key ∈ (openingSettings {}).map Prod.fst, key ∈ formSettings := by decide
  refine ⟨?_, fun e he hnot => ?_⟩
  · rw [hkeys]
    decide
  · exact absurd (hform e.1 (hkeys ▸ List.mem_map_of_mem he)) hnot

/-! ## Saving and opening again -/

section
variable (p : Preferences)

/-- The settings of the form that are no colours. -/
def plainEntries : List (String × Json) :=
  [("dialect", p.dialect), ("start_line", .str (p.field "start_line")), ("increment", .str (p.field "increment")),
    ("keep_case", .str (if p.keepCase then "True" else "False")), ("openmsx_path", .str (p.field "openmsx_path")),
    ("fmsx_path", .str (p.field "fmsx_path")), ("extra_configs", .str (p.field "extra_configs"))]

/-- The colour of a key: the one in the form, and that of the chosen theme in place of an empty one. -/
def chosenColor (k : ColorKey) : String :=
  if p.field ("color_" ++ k.name) = "" then (Theme.named p.theme).color k else p.field ("color_" ++ k.name)

theorem texts_entries {dialect : String} (hdialect : p.dialect = .str dialect) :
    ∀ e ∈ p.entries ++ p.lateEntries, ∃ t, e.2 = .str t := by
  simp [entries, lateEntries, formColors, hdialect]

theorem plainEntries_subset : p.plainEntries ⊆ p.entries ++ p.lateEntries := by
  simp [plainEntries, entries, lateEntries]

theorem mem_entries (k : ColorKey) :
    ("color_" ++ k.name, Json.str (p.field ("color_" ++ k.name))) ∈ p.entries ++ p.lateEntries := by
  have hk : k ∈ formColors := by cases k <;> decide
  exact List.mem_append_left _ (List.mem_append_right _ (List.mem_map_of_mem hk))

theorem colors_stored (store : Store) (texts : List (String × String)) (k : ColorKey) :
    ((store.setAll (colorWrites p.theme p.colorTexts)).setAll (editorKeys texts)).colors.color k = p.chosenColor k := by
  have hnames : (p.colorTexts.map Prod.fst).Nodup := by
    have hmap : p.colorTexts.map Prod.fst = formColors.map ColorKey.name := rfl
    rw [hmap]
    decide
  have hfield : p.colorTexts.lookup k.name = some (p.field ("color_" ++ k.name)) := by
    cases k <;> rfl
  have hcolor : ∀ s : Store, s.colors.color k = (s.colorInForce k).text?.getD (s.theme.color k) := by
    intro s
    cases k <;> rfl
  rw [hcolor, colorInForce_editorKeys, Store.colorInForce_saved hnames, Store.colorAfter, hfield]
  rfl

end

/-- **The form survives a restart.** An editor that is opened on the store after the form was saved has the settings of the
form, with the colours of the chosen theme for empty fields, whatever the store held before. -/
theorem start_save (p : Preferences) (s : State) (hstore : s.connected = true)
    (hsettings : TextsBut formSettings s.settings) {dialect : String} (hdialect : p.dialect = .str dialect) :
    ∃ result saved, p.save.runOn s = (result, saved) ∧ (s.failing = [] → result = .ok ()) ∧
      (State.start saved.store).settings =
        p.plainEntries ++ ColorKey.all.map (fun k => ("color_" ++ k.name, .str (p.chosenColor k))) ∧
      (∀ e ∈ p.plainEntries, saved.settings.lookup e.1 = some e.2) ∧
      (∀ k : ColorKey, saved.settings.lookup ("color_" ++ k.name) = some (.str (p.field ("color_" ++ k.name)))) ∧
      saved.connected = true ∧ TextsBut formSettings saved.settings := by
  have hkeys : (p.entries ++ p.lateEntries).map Prod.fst = formSettings := rfl
  have hnodup : ((p.entries ++ p.lateEntries).map Prod.fst).Nodup := by
    rw [hkeys]
    decide
  have hfilled : TextsBut [] (p.filled s.settings) := TextsBut.withEntries (hkeys ▸ hsettings) (p.texts_entries hdialect)
  obtain ⟨texts, htexts⟩ := exists_asSettings fun e he => hfilled.texts e he List.not_mem_nil
  have hlookup : ∀ e ∈ p.entries ++ p.lateEntries, (asSettings texts).lookup e.1 = some e.2 := by
    intro e he
    rw [← htexts]
    exact lookup_withEntries hnodup he s.settings
  rw [htexts] at hfilled
  obtain ⟨result, saved, hrun, hresult, hconnected, hsaved, hwritten⟩ := p.exists_save hstore htexts
  have hread : readSettings saved.store firstSettings = p.plainEntries := by
    refine readSettings_eq rfl fun e he => ?_
    obtain ⟨text, htext⟩ := p.texts_entries hdialect e (p.plainEntries_subset he)
    have hfound := hlookup e (p.plainEntries_subset he)
    rw [htext] at hfound
    rw [hwritten, text?_editorKeys (keys_asSettings texts ▸ hfilled.nodup) hfound, htext]
    rfl
  refine ⟨result, saved, hrun, hresult, ?_, fun e he => ?_, fun k => ?_, hconnected, ?_⟩
  · rw [settings_start, hread, hwritten]
    simp only [colors_stored]
  · rw [hsaved]
    exact hlookup e (p.plainEntries_subset he)
  · rw [hsaved]
    exact hlookup _ (p.mem_entries k)
  · rw [hsaved]
    exact ⟨hfilled.nodup, fun e he _ => hfilled.texts e he List.not_mem_nil⟩

/-- A form with empty colours over a store that has some. -/
theorem start_save_neon :
    (State.start (Store.setAll {} [("syntax_color_command", "red"), ("editor_start_line", "5")])).connected = true ∧
    TextsBut formSettings
      (State.start (Store.setAll {} [("syntax_color_command", "red"), ("editor_start_line", "5")])).settings ∧
    ∃ result saved, (save ⟨[("start_line", "100"), ("increment", "5"), ("color_command", ""), ("color_bg", "black")],
        "Neon", .str "MSX-Bas2Rom", true⟩).runOn
          (State.start (Store.setAll {} [("syntax_color_command", "red"), ("editor_start_line", "5")])) =
        (result, saved) ∧
      (State.start saved.store).settings.lookup "start_line" = some (.str "100") ∧
      (State.start saved.store).settings.lookup "keep_case" = some (.str "True") ∧
      (State.start saved.store).settings.lookup "color_command" = some (.str "#00B3FF") ∧
      (State.start saved.store).settings.lookup "color_bg" = some (.str "black") := by
  have htexts := textsBut_start (Store.setAll {} [("syntax_color_command", "red"), ("editor_start_line", "5")])
  have hstore :
      (State.start (Store.setAll {} [("syntax_color_command", "red"), ("editor_start_line", "5")])).connected = true := by
    rw [State.start, draws_applyColors.connected]
  obtain ⟨result, saved, hrun, -, hopened, -⟩ := start_save
    ⟨[("start_line", "100"), ("increment", "5"), ("color_command", ""), ("color_bg", "black")], "Neon",
      .str "MSX-Bas2Rom", true⟩ _ hstore htexts rfl
  refine ⟨hstore, htexts, result, saved, hrun, ?_⟩
  rw [hopened]
  exact ⟨rfl, rfl, rfl, rfl⟩

end Preferences

end MsxWorkbench.Editor
