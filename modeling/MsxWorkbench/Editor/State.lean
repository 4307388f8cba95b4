import MsxWorkbench.Editor.Margin
import MsxWorkbench.Program.Highlight
import MsxWorkbench.Settings.Theme
import MsxWorkbench.Notice
/-
# The editor's state

What the editor holds between two commands, and the actions that commands are made of. An action can
fail, because a part of the window does or because the work itself cannot be done; what was done before
the failure stays done.
-/
namespace MsxWorkbench.Editor

open Settings

/-- The calls to parts of the window that may fail. -/
inductive WindowCall where
  | index
  | setMark
  | scrollTo
  | configure
deriving DecidableEq, Repr

/-- Why a command failed. -/
inductive EditorError where
  | window
  | store (e : StoreError)
  | number (e : Text.IntegerError)
  | analysis (e : Program.AnalysisError)
  /-- A setting that should be a number is of another type. -/
  | notNumber (type : String)
  /-- A setting that should be a number is infinite. -/
  | infinite
  /-- The store is missing. -/
  | noStore (use : String)
deriving DecidableEq, Repr

/-- The messages. -/
def EditorError.message : EditorError → String
  | .window => "widget failure"
  | .store e => e.message
  | .number e => e.message
  | .analysis e => e.message
  | .notNumber type =>
    s!"int() argument must be a string, a bytes-like object or a real number, not '{type}'"
  | .infinite => "cannot convert float infinity to integer"
  | .noStore use => s!"'NoneType' object has no attribute '{use}'"

/-- A mark on the text: its name and where it starts and ends. Editing does not move it. -/
structure TextMark where
  name : String
  first : Spot
  last : Spot
deriving DecidableEq, Repr

/-- The editor (`MSXBasicEditor`). -/
structure State where
  buffer : Buffer := {}
  store : Store := {}
  /-- Is the store in use? -/
  connected : Bool := true
  settings : List (String × Json) := []
  status : String := "Linha: 1, Coluna: 0"
  view : View := {}
  gutter : Margin
  ruler : Margin
  marks : List TextMark := []
  /-- The colours of marks by name: attributes and their colours. -/
  markColors : List (String × List (String × Json)) := []
  background : Json := .null
  foreground : Json := .null
  /-- The calls that will fail, each once. -/
  failing : List WindowCall := []
  notices : Notices := {}

/-- An action of the editor. -/
abbrev Edit := ExceptT EditorError (StateM State)

/-- Runs an action: its result or its failure, and the state it leaves. -/
def Edit.runOn {α : Type} (x : Edit α) (s : State) : Except EditorError α × State :=
  (ExceptT.run x).run s

/-- A call to a part of the window, which fails if it was to. -/
def call (c : WindowCall) : Edit Unit := do
  let s ← get
  if s.failing.contains c then
    set { s with failing := s.failing.erase c }
    throw .window

/-- Does something and goes on even if it fails. -/
def quietly (x : Edit Unit) : Edit Unit := tryCatch x fun _ => pure ()

/-- Changes the text. -/
def edit (f : Buffer → Buffer) : Edit Unit := modify fun s => { s with buffer := f s.buffer }

/-- Tells the user something. -/
def tell (n : Notices) : Edit Unit := modify fun s => { s with notices := s.notices ++ n }

/-- The line and column of a position. -/
def indexOf (position : Buffer → Nat) : Edit Spot := do
  call .index
  let b := (← get).buffer
  return b.spot (position b)

/-- Moves the cursor. -/
def setCursor (position : Buffer → Nat) : Edit Unit := do
  call .setMark
  edit fun b => b.setCursor (position b)

/-- Scrolls the text so that the cursor can be seen. -/
def showCursor : Edit Unit := call .scrollTo

/-! ## Settings -/

/-- The value of a setting. -/
def State.setting (s : State) (key : String) (default : Json) : Json :=
  (s.settings.lookup key).getD default

/-- Changes a setting. -/
def State.putSetting (s : State) (key : String) (value : Json) : State :=
  { s with settings := Json.putMember key value s.settings }

/-- Are the words of a program kept as they were written? They are unless the setting says exactly
that they are not. -/
def State.keepsCase (s : State) : Bool := s.setting "keep_case" .null != .str "False"

/-- The settings of an editor before anything is read from the store. -/
def firstSettings : List (String × Json) := [
  ("dialect", .str "MSX-BASIC"), ("start_line", .str "10"), ("increment", .str "10"),
  ("keep_case", .str "False"), ("openmsx_path", .str ""), ("fmsx_path", .str ""),
  ("extra_configs", .str "")]

/-- Settings with the values that the store has for them. -/
def readSettings (store : Store) (settings : List (String × Json)) : List (String × Json) :=
  settings.map fun (k, v) => (k, ((store.text? ("editor_" ++ k)).map .str).getD v)

/-- Writes settings to the store, one after the other up to the first that is refused. -/
def writeSettings (store : Store) (settings : List (String × Json)) : Store × Option StoreError :=
  store.putAll (settings.map fun (k, v) => (.text ("editor_" ++ k), .ofJson v))

/-- Loads the settings from the store, if there is one (`_load_settings`). -/
def loadSettings : Edit Unit :=
  modify fun s => if s.connected then { s with settings := readSettings s.store s.settings } else s

/-- Saves the settings to the store, if there is one (`_save_settings`). -/
def saveSettings : Edit Unit := do
  let s ← get
  if s.connected then
    let (store, error) := writeSettings s.store s.settings
    set { s with store }
    if let some e := error then throw (.store e)

/-! ## Drawing the margins -/

/-- Adds an item to the line numbers. -/
def drawLabel (item : MarginItem) : Edit Unit :=
  modify fun s => { s with gutter := { s.gutter with items := s.gutter.items ++ [item] } }

/-- Draws the numbers of the lines from one on, as far as they are visible; at most `count`. -/
def drawLabels : Nat → Spot → Edit Unit
  | 0, _ => pure ()
  | count + 1, place => do
    let s ← get
    match s.view.height? s.buffer.lines.length place.line with
    | none => pure ()
    | some y => do
      let cursor ← indexOf fun b => b.cursor
      let color := if cursor.line = place.line then s.setting "color_fg" (.str "#ffffff")
        else s.setting "color_line_number" (.str "#858585")
      drawLabel (lineLabel y place.line color)
      let next ← indexOf fun b => b.moveLines (b.position place.line place.column) 1
      drawLabels count next

/-- The start of the first visible line. -/
def topPosition (view : View) (b : Buffer) : Nat := b.position view.top 0

/-- Draws the line numbers anew (`LineNumbers.redraw`). -/
def redrawGutter : Edit Unit := do
  modify fun s => { s with gutter := { s.gutter with items := [] } }
  call .configure
  modify fun s => { s with gutter := { s.gutter with background := s.setting "color_bg" (.str "#2b2b2b") } }
  let view := (← get).view
  let first ← indexOf (topPosition view)
  drawLabels 31 first

/-- Draws the ruler anew (`Ruler.redraw`). -/
def redrawRuler : Edit Unit := do
  modify fun s => { s with ruler := { s.ruler with items := [] } }
  call .configure
  modify fun s => { s with ruler := { s.ruler with background := s.setting "color_bg" (.str "#2b2b2b") } }
  let cursor ← indexOf fun b => b.cursor
  let s ← get
  let count := s.buffer.lines.length
  let seen ← if s.view.showsStart count 1 then pure true else do
    let first ← indexOf (topPosition s.view)
    pure (s.view.showsStart count first.line)
  let colors : RulerColors :=
    ⟨s.setting "color_command" (.str "#569CD6"), s.setting "color_string" (.str "#CE9178")⟩
  modify fun s => { s with ruler := { s.ruler with
    items := rulerItems colors (rulerStart s.view seen) cursor.column } }

/-- Shows another part of the text. -/
def scroll (view : View) : Edit Unit := do
  modify fun s => { s with view }
  redrawGutter
  redrawRuler

/-- Takes everything off the margins, as when there is no text to draw them for. -/
def emptyMargins : Edit Unit :=
  modify fun s => { s with
    gutter := { s.gutter with items := [] }
    ruler := { s.ruler with items := [] } }

/-- Shows where the cursor is (`_update_status_bar`). -/
def updateStatus : Edit Unit := do
  let cursor ← indexOf fun b => b.cursor
  call .configure
  modify fun s => { s with status := s!"Linha: {cursor.line}, Coluna: {cursor.column}" }
  redrawGutter
  redrawRuler

/-! ## Highlighting -/

/-- The names of the marks that highlighting sets. -/
def shadeNames : List String := ["keyword", "comment", "string", "number", "linenumber", "function"]

/-- The marks of a text, line by line. -/
def highlightMarks (text : List Char) : List TextMark :=
  (Text.rows text).zipIdx.flatMap fun (line, i) =>
    (Program.shadedParts line).map fun p =>
      ⟨p.shade.name, ⟨i + 1, p.first⟩, ⟨i + 1, p.last⟩⟩

/-- Highlights the text (`_apply_syntax_highlighting`). -/
def highlight : Edit Unit := do
  redrawGutter
  modify fun s => { s with
    marks := s.marks.filter (fun m => !shadeNames.contains m.name) ++ highlightMarks s.buffer.text }

/-- Highlights the text if it was changed (`_on_text_modified`). -/
def highlightChanged : Edit Unit := do
  if (← get).buffer.modified then
    highlight
    edit fun b => { b with modified := false }

/-- Sets the colour of a mark. -/
def State.putMarkColor (s : State) (name trait : String) (color : Json) : State :=
  let old := (s.markColors.lookup name).getD []
  let new := Json.putMember trait color old
  { s with markColors :=
      if s.markColors.any (fun c => c.1 == name) then
        s.markColors.map fun c => if c.1 == name then (name, new) else c
      else s.markColors ++ [(name, new)] }

/-- The marks of highlighting with their settings and the colours used when these are missing. -/
def shadeSettings : List (String × String × String) := [
  ("keyword", "color_command", "#569CD6"), ("comment", "color_comment", "#6A9955"),
  ("string", "color_string", "#CE9178"), ("number", "color_number", "#B5CEA8"),
  ("linenumber", "color_line_number", "#858585"), ("function", "color_function", "#DCDCAA")]

/-- Takes the colours of marks and text from the settings (`_setup_syntax_highlighting`). -/
def applyColors : Edit Unit := do
  modify fun s => shadeSettings.foldl
    (fun s (name, key, default) => s.putMarkColor name "foreground" (s.setting key (.str default))) s
  call .configure
  modify fun s => { s with
    background := s.setting "color_bg" (.str "#2b2b2b")
    foreground := s.setting "color_fg" (.str "#ffffff") }

/-! ## Opening the editor -/

/-- The window's title. -/
def title : String := "MSX-Write - Editor MSX BASIC"

/-- The window's size. -/
def geometry : String := "1000x700"

/-- The settings of an editor on a store: its own, and the colours in force. -/
def openingSettings (store : Store) : List (String × Json) :=
  let colors := store.colors
  ColorKey.all.foldl (fun s k => Json.putMember ("color_" ++ k.name) (.str (colors.color k)) s)
    (readSettings store firstSettings)

/-- An editor opened on a store. -/
def State.start (store : Store) : State :=
  let settings := openingSettings store
  let background := (settings.lookup "color_bg").getD (.str "#2b2b2b")
  let s : State := { store, settings, gutter := { background }, ruler := { background } }
  (applyColors.runOn s).2

end MsxWorkbench.Editor
