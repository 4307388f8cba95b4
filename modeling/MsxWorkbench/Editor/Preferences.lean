import MsxWorkbench.Editor.State
import MsxWorkbench.Json.Shown
/-
# The settings form

The form shows the settings of the editor as texts. Choosing a theme fills in its colours. Saving puts
the texts into the settings, stores them and colours the text anew.
-/
namespace MsxWorkbench.Editor

open Settings

/-- The text a field shows for the value of a setting; nothing for a missing one. -/
def fieldText : Json → String
  | .null => ""
  | v => v.shown

/-- The fields of the form: the label and the setting. -/
def formFields : List (String × String) := [
  ("Linha Inicial:", "start_line"),
  ("Incremento:", "increment"),
  ("Cor Comandos:", "color_command"),
  ("Cor Funções:", "color_function"),
  ("Cor Strings:", "color_string"),
  ("Cor Números:", "color_number"),
  ("Cor Nº Linha:", "color_line_number"),
  ("Cor Comentários:", "color_comment"),
  ("Cor Fundo:", "color_bg"),
  ("Cor Texto:", "color_fg"),
  ("Caminho openMSX:", "openmsx_path"),
  ("Caminho fMSX:", "fmsx_path"),
  ("Configurações Extras:", "extra_configs")]

/-- The colours of the form in their order. -/
def formColors : List ColorKey :=
  [.command, .function, .string, .number, .lineNumber, .comment, .background, .foreground]

/-- The form: what stands in its fields, by setting, and what is chosen. -/
structure Preferences where
  fields : List (String × String)
  theme : String
  dialect : Json
  keepCase : Bool

namespace Preferences

/-- Opens the form (`_on_settings`). -/
def start : Edit Preferences := do
  let s ← get
  if !s.connected then throw (.noStore "get_setting")
  return {
    fields := formFields.map fun (_, key) => (key, fieldText (s.setting key .null))
    theme := s.store.get themeKey Theme.defaultName
    dialect := s.setting "dialect" (.str "MSX-BASIC")
    keepCase := s.setting "keep_case" .null == .str "True" }

/-- Writes a text into the field of a setting. -/
def write (p : Preferences) (key text : String) : Preferences :=
  { p with fields := p.fields.map fun f => if f.1 == key then (key, text) else f }

/-- Writes a text into the field with a label. -/
def writeLabelled (p : Preferences) (label text : String) : Preferences :=
  match formFields.lookup label with
  | some key => p.write key text
  | none => p

/-- Chooses a theme: its colours go into the fields (`on_theme_change`). -/
def chooseTheme (p : Preferences) (name : String) : Preferences :=
  let theme := Theme.named name
  ColorKey.all.foldl (fun p k => p.write ("color_" ++ k.name) (theme.color k)) { p with theme := name }

/-- The text in the field of a setting. -/
def field (p : Preferences) (key : String) : String := (p.fields.lookup key).getD ""

/-- The settings with what the form holds, in the order in which they are put in. -/
def entries (p : Preferences) : List (String × Json) :=
  [("dialect", p.dialect), ("start_line", .str (p.field "start_line")),
    ("increment", .str (p.field "increment"))] ++
  formColors.map (fun k => ("color_" ++ k.name, .str (p.field ("color_" ++ k.name))))

/-- The settings that are put in after the colours were stored. -/
def lateEntries (p : Preferences) : List (String × Json) :=
  [("keep_case", .str (if p.keepCase then "True" else "False")),
    ("openmsx_path", .str (p.field "openmsx_path")), ("fmsx_path", .str (p.field "fmsx_path")),
    ("extra_configs", .str (p.field "extra_configs"))]

/-- Settings put into an editor. -/
def putAll (entries : List (String × Json)) (s : State) : State :=
  entries.foldl (fun s (k, v) => s.putSetting k v) s

/-- Shows that the settings were saved: with their colours, and a message. -/
def showSaved : Edit Unit := do
  let background := (← get).setting "color_bg" (.str "#2b2b2b")
  call .configure
  modify fun s => { s with gutter := { s.gutter with background } }
  call .configure
  modify fun s => { s with ruler := { s.ruler with background } }
  applyColors
  highlight
  tell (.box .info "Configurações" "Configurações salvas com sucesso!")

/-- Saves what the form holds (`save`). -/
def save (p : Preferences) : Edit Unit := do
  modify (putAll p.entries)
  let s ← get
  let colors := formColors.map fun k => (k.name, Given.text (p.field ("color_" ++ k.name)))
  let (store, error) := s.store.saveColors (.text p.theme) colors
  set { s with store }
  if let some e := error then throw (.store e)
  modify (putAll p.lateEntries)
  saveSettings
  showSaved

end Preferences

end MsxWorkbench.Editor
