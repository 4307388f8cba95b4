import MsxWorkbench.Charset.Delivered
import MsxWorkbench.Json.Kind
import MsxWorkbench.Json.Reader
import MsxWorkbench.Notice
import MsxWorkbench.Text.Case
import MsxWorkbench.Text.Search
/-
# The character picker

A table of 32 by 8 cells, 16 pixels wide and high, shows the characters of a chosen table. A click
adds the character of a cell to a buffer, which can be sent to the editor.

The tables come from a file that anyone may have changed, so a table is any JSON value: a list or a
text of 256 items is used, a missing, empty or odd-sized one is replaced by ASCII, and what cannot be
looked at in this way is an error.
-/
namespace MsxWorkbench.Charset

/-- Why a file of tables, or a table, cannot be used. -/
inductive PickerError where
  /-- The file holds a value without members. -/
  | noMembers (type : String)
  /-- The file holds a text with the name of a table. -/
  | textFile
  /-- The file holds a list with the name of a table. -/
  | listFile
  | noSize (type : String)
  | noItem (code : Nat)
  | noText (type : String)
deriving DecidableEq, Repr

/-- The messages. -/
def PickerError.message : PickerError → String
  | .noMembers type => s!"argument of type '{type}' is not iterable"
  | .textFile => "string indices must be integers, not 'str'"
  | .listFile => "list indices must be integers or slices, not str"
  | .noSize type => s!"object of type '{type}' has no len()"
  | .noItem code => toString code
  | .noText type => s!"can only concatenate str (not \"{type}\") to str"

/-- The number of items of a value. -/
def itemCount : Json → Except PickerError Nat
  | .str s => .ok s.length
  | .arr xs => .ok xs.length
  | .obj ms => .ok ms.length
  | j => .error (.noSize j.kindWord)

/-- The item at a position; an object has none, its members have names. -/
def itemAt (code : Nat) : Json → Except PickerError Json
  | .str s => .ok (((s.toList[code]?).map fun c => .str (String.singleton c)).getD .null)
  | .arr xs => .ok (xs[code]?.getD .null)
  | _ => .error (.noItem code)

/-- Is there a place for the name in the value of the file, and if so what is there? -/
def member? (name : String) : Json → Except PickerError (Option Json)
  | .obj ms => .ok (ms.lookup name)
  | .arr xs => if xs.contains (.str name) then .error .listFile else .ok none
  | .str s => if Text.occurs name.toList s.toList then .error .textFile else .ok none
  | j => .error (.noMembers j.kindWord)

/-- The tables a file should hold, in the order in which they are kept. -/
def wantedTables : List String := ["International", "Japanese", "Brazilian", "Arabic", "Russian"]

/-- ASCII, with the replacement character for all other codes. -/
def asciiTable : Json :=
  .arr ((List.range 256).map fun n =>
    .str (String.ofList (single (if 0x20 ≤ n && n < 0x7F then n else 0xFFFD))))

/-- The tables in the value of a file (`_ensure_charsets_loaded`). The international one is always
there. -/
def tablesIn (file : Json) : Except PickerError (List (String × Json)) := do
  let found ← wantedTables.filterMapM fun name => do
    return (← member? name file).map fun t => (name, t)
  return if found.any fun t => t.1 == "International" then found
    else found ++ [("International", asciiTable)]

/-- The value of a file; what is no JSON counts as an empty object. -/
def fileValue (text : List Char) : Json :=
  match Json.read text with
  | .ok j => j
  | .error _ => .obj []

/-- The picker: its tables, the table in use, the number of cells drawn, the buffer, and the texts
sent to the editor, if there is one (`MSXEncodingViewer`). -/
structure Picker where
  tables : List (String × Json)
  table : Json := .null
  images : Nat := 0
  buffer : String := ""
  inserted : List String := []
  connected : Bool := true

namespace Picker

/-- Shows the table of a version of the machine (`_load_charset`). There is no Korean table; the
international one stands in for it. -/
def choose (p : Picker) (version : String) : Picker × Option PickerError :=
  let found := (p.tables.lookup (if version == "Korean" then "International" else version)).getD .null
  let fits : Except PickerError Bool :=
    if found.isNothing then .ok false else (itemCount found).map (· == 256)
  match fits with
  | .error e => (p, some e)
  | .ok fits =>
    let table := if fits then found else asciiTable
    match itemAt 0 table with
    | .ok _ => ({ p with table, images := 256 }, none)
    | .error e => ({ p with table, images := 0 }, some e)

/-- Opens the picker with the value of a file of tables. -/
def start (file : Json) (connected : Bool) : Except PickerError Picker := do
  let tables ← tablesIn file
  match choose { tables, connected } "International" with
  | (p, none) => .ok p
  | (_, some e) => .error e

/-- The text that marks a code without a character. -/
def unmapped : Json := .str "\\uFFFD"

/-- The text for a code that has no character: a backslash, an x and two hexadecimal digits. -/
def codeText (code : Nat) : String :=
  String.ofList ('\\' :: 'x' :: Text.upper (Text.hexDigits 2 code))

/-- A click at a pixel of the table (`_on_table_click`). -/
def click (p : Picker) (x y : Int) : Picker × Option PickerError :=
  let cell := y.fdiv 16 * 32 + x.fdiv 16
  if cell < 0 || 255 < cell then (p, none)
  else
    let code := cell.toNat
    match itemAt code p.table with
    | .error e => (p, some e)
    | .ok mapped =>
      if mapped.isNothing || mapped == unmapped then
        ({ p with buffer := p.buffer ++ codeText code }, none)
      else
        match mapped with
        | .str s => ({ p with buffer := p.buffer ++ s }, none)
        | j => ({ p with buffer := "" }, some (.noText j.kindWord))

/-- A click in the cell of a code. -/
def clickCell (p : Picker) (cell : Int) : Picker × Option PickerError :=
  p.click (cell.fmod 32 * 16) (cell.fdiv 32 * 16)

/-- Clicks in several cells; the first error ends them. -/
def clickCells (p : Picker) : List Int → Picker × Option PickerError
  | [] => (p, none)
  | cell :: rest =>
    match p.clickCell cell with
    | (p, none) => p.clickCells rest
    | (p, some e) => (p, some e)

/-- Sends the buffer to the editor, unless it is empty (`_insert_to_editor`). -/
def insert (p : Picker) : Picker × Notices :=
  if p.buffer.isEmpty then (p, {})
  else if p.connected then
    ({ p with inserted := p.inserted ++ [p.buffer] }, .box .info "Sucesso" "Texto inserido no editor.")
  else (p, .box .warning "Aviso" "Editor não conectado.")

end Picker

end MsxWorkbench.Charset
