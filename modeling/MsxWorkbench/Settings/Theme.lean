import MsxWorkbench.Settings.Store
/-
# Colour themes

A theme gives a colour to each kind of text in a listing, to the background and to plain text. The
settings hold the name of the chosen theme and single colours that override it.
-/
namespace MsxWorkbench.Settings

/-- What has a colour. -/
inductive ColorKey where
  | command
  | function
  | string
  | number
  | comment
  | lineNumber
  | background
  | foreground
deriving DecidableEq, Repr

namespace ColorKey

/-- The name of a colour in the settings. -/
def name : ColorKey → String
  | .command => "command"
  | .function => "function"
  | .string => "string"
  | .number => "number"
  | .comment => "comment"
  | .lineNumber => "line_number"
  | .background => "bg"
  | .foreground => "fg"

/-- All colours in order. -/
def all : List ColorKey :=
  [.command, .function, .string, .number, .comment, .lineNumber, .background, .foreground]

end ColorKey

/-- The colours of a theme. -/
structure Theme where
  command : String
  function : String
  string : String
  number : String
  comment : String
  lineNumber : String
  background : String
  foreground : String
deriving DecidableEq, Repr

namespace Theme

/-- The colour of a key. -/
def color (t : Theme) : ColorKey → String
  | .command => t.command
  | .function => t.function
  | .string => t.string
  | .number => t.number
  | .comment => t.comment
  | .lineNumber => t.lineNumber
  | .background => t.background
  | .foreground => t.foreground

/-- The theme whose colours are given by key. -/
def ofColors (f : ColorKey → String) : Theme :=
  ⟨f .command, f .function, f .string, f .number, f .comment, f .lineNumber, f .background,
    f .foreground⟩

/-- The theme with one colour changed. -/
def put (t : Theme) (key : ColorKey) (color : String) : Theme :=
  ofColors fun k => if k = key then color else t.color k

/-- Blue, green and brown on white. -/
def classico : Theme :=
  ⟨"#2E6F9E", "#2B7A5B", "#B54D2B", "#7A3E9D", "#3F6A3F", "#6B6B6B", "#FFFFFF", "#000000"⟩

/-- Bright colours on black. -/
def neon : Theme :=
  ⟨"#00B3FF", "#00D18B", "#FF8A00", "#A15CFF", "#00A388", "#8A8A8A", "#1A1A1A", "#FFFFFF"⟩

/-- Muted colours on paper. -/
def papel : Theme :=
  ⟨"#2C4E75", "#2F6A52", "#8B3A2A", "#5E3D77", "#546E3B", "#7C6F64", "#FDF6E3", "#657B83"⟩

/-- Soft colours on dark grey. -/
def dark : Theme :=
  ⟨"#569CD6", "#DCDCAA", "#CE9178", "#B5CEA8", "#6A9955", "#858585", "#2B2B2B", "#FFFFFF"⟩

/-- The themes by name. -/
def all : List (String × Theme) :=
  [("Classico", classico), ("Neon", neon), ("Papel", papel), ("Dark", dark)]

/-- The name of the theme that stands in for an unknown one. -/
def defaultName : String := "Classico"

/-- The theme of a name. -/
def named? (name : String) : Option Theme := all.lookup name

/-- The theme of a name, or the default one. -/
def named (name : String) : Theme := (named? name).getD classico

end Theme

/-- The setting that holds the name of the theme. -/
def themeKey : String := "syntax_theme"

/-- The setting that holds the colour of a name. -/
def colorSetting (name : String) : String := "syntax_color_" ++ name

namespace Store

/-- The chosen theme. -/
def theme (s : Store) : Theme := .named (s.get themeKey Theme.defaultName)

/-- The colour of a key in force: the stored one unless there is none or it is empty, else that of the
chosen theme. -/
def colorInForce (s : Store) (k : ColorKey) : Entry :=
  match s.get? (colorSetting k.name) with
  | some saved => if saved.isEmpty then .text (s.theme.color k) else saved
  | none => .text (s.theme.color k)

/-- The colours in force by name (`get_syntax_colors`). -/
def colorTable (s : Store) : List (String × Entry) :=
  ColorKey.all.map fun k => (k.name, s.colorInForce k)

/-- The colours in force as windows take them: texts. -/
def colors (s : Store) : Theme :=
  .ofColors fun k => (s.colorInForce k).text?.getD (s.theme.color k)

/-- Writes settings one after the other up to the first that is refused. -/
def putAll : Store → List (Given × Given) → Store × Option StoreError
  | s, [] => (s, none)
  | s, (key, value) :: rest =>
    match s.put key value with
    | .ok s => putAll s rest
    | .error e => (s, some e)

/-- Stores the name of a theme and then single colours, in order, up to the first that is refused
(`save_syntax_colors`). -/
def saveColors (s : Store) (theme : Given) (colors : List (String × Given)) :
    Store × Option StoreError :=
  s.putAll ((.text themeKey, theme) :: colors.map fun (k, v) => (.text (colorSetting k), v))

end Store

end MsxWorkbench.Settings
