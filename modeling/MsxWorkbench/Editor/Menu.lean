import MsxWorkbench.Contents.ManualViewer
import MsxWorkbench.Editor.Commands
import MsxWorkbench.Editor.Palette
import MsxWorkbench.Editor.Preferences
import MsxWorkbench.Program.Map
/-
# Menus

The menus of the editor and what their entries do. Entries that open a form only open it here; what the
user then does with the form is another action.
-/
namespace MsxWorkbench.Editor

/-- What an entry of a menu does. -/
inductive Command where
  | newText
  | openFile
  | saveFile
  | quit
  | undo
  | redo
  | find
  | replace
  | renumber
  | removeNumbers
  | addNumbers
  | respace
  | map
  | palette (color : Option Nat)
  | preferences
  | manuals
  | about
deriving DecidableEq, Repr

/-- The menus. -/
inductive MenuName where
  | bar
  | file
  | edit
  | tools
  | colors
  | help
deriving DecidableEq, Repr

/-- A line of a menu. -/
inductive MenuItem where
  | entry (label : String) (command : Command)
  | submenu (label : String) (name : MenuName)
  | separator
deriving DecidableEq, Repr

/-- The label of a line. -/
def MenuItem.label : MenuItem → String
  | .entry label _ => label
  | .submenu label _ => label
  | .separator => "-"

/-- The lines of a menu. -/
def MenuName.items : MenuName → List MenuItem
  | .bar => [.submenu "Arquivo" .file, .submenu "Editar" .edit, .submenu "Ferramentas" .tools,
      .submenu "Ajuda" .help]
  | .file => [.entry "Novo" .newText, .entry "Abrir..." .openFile, .entry "Salvar" .saveFile,
      .separator, .entry "Sair" .quit]
  | .edit => [.entry "Desfazer" .undo, .entry "Refazer" .redo, .separator,
      .entry "Localizar..." .find, .entry "Substituir..." .replace, .separator,
      .entry "Renumerar (RENUM)" .renumber]
  | .tools => [.entry "Remover Números de Linha" .removeNumbers,
      .entry "Adicionar Números de Linha" .addNumbers,
      .entry "Formatar Código (Beautify)" .respace, .entry "Mapa do Programa" .map,
      .submenu "Cores MSX1" .colors, .separator, .entry "Configurações" .preferences]
  | .colors =>
    (Editor.palette.map fun c => .entry s!"{c.number} - {c.name} ({c.value})" (.palette (some c.number)))
      ++ [.separator, .entry "Mostrar Paleta..." (.palette none)]
  | .help => [.entry "Manuais MSX" .manuals, .separator, .entry "Sobre" .about]

/-- What the entry with a label does. -/
def MenuName.command? (m : MenuName) (label : String) : Option Command :=
  m.items.findSome? fun
    | .entry l c => if l == label then some c else none
    | _ => none

/-- Opens the map of the program, if there is one (`_on_program_map`). The window is made read-only
tab by tab. -/
def showMap : Edit (Option Program.Map) := do
  let s ← get
  if s.program.isEmpty then return none
  match Program.Map.ofText s.respaced with
  | .error e => throw (.analysis e)
  | .ok map =>
    call .configure
    call .configure
    return some map

/-- Opens the manuals (`_open_help_viewer`). -/
def showManuals (shelf : Contents.ManualShelf) : Edit Unit :=
  tell (shelf.start .ready "MANUALS.html").2.1

/-- Does what a command says. Where a file is asked for the user gives up, and questions are answered
with yes. -/
def Command.run (shelf : Contents.ManualShelf) : Command → Edit Unit
  | .newText => clearText true
  | .openFile => pure ()
  | .saveFile => discard (Editor.saveFile none)
  | .quit => pure ()
  | .undo => tell (.action (.event "<<Undo>>"))
  | .redo => tell (.action (.event "<<Redo>>"))
  | .find => pure ()
  | .replace => pure ()
  | .renumber => Editor.renumber
  | .removeNumbers => Editor.removeNumbers
  | .addNumbers => Editor.renumber
  | .respace => respaceAll
  | .map => discard showMap
  | .palette color => discard (showPalette (color.map fun n => (n : Int)))
  | .preferences => discard Preferences.start
  | .manuals => showManuals shelf
  | .about => tell (.box .info "Sobre" "MSX-Write Editor")

end MsxWorkbench.Editor
