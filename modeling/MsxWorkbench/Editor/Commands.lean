import MsxWorkbench.Editor.State
import MsxWorkbench.Program.Renumber
import MsxWorkbench.Program.Spacing
import MsxWorkbench.Program.Tokens
import MsxWorkbench.Text.Encoding
import MsxWorkbench.Text.Search
/-
# Commands of the editor

The keys that move the cursor and edit, and the commands that work on the whole program.
-/
namespace MsxWorkbench.Editor

open Settings

/-! ## Keys -/

/-- Goes to the very start (`_on_shift_home`). The answer tells whether the key is used up: a
failure leaves it to the window. -/
def goHome : Edit Bool :=
  tryCatch (do
    setCursor fun _ => 0
    tryCatch showCursor fun _ => showCursor
    updateStatus
    return true) fun _ => return false

/-- Moves the cursor to the start of the word before it (`_on_ctrl_b`). -/
def wordBack : Edit Unit := do
  let spot ← indexOf fun b => b.wordStart (b.move b.cursor (-1))
  setCursor fun b => b.position spot.line spot.column
  showCursor
  updateStatus

/-- Moves the cursor to the end of the word after it (`_on_ctrl_f`). -/
def wordForward : Edit Unit := do
  let spot ← indexOf fun b => b.wordEnd (b.move b.cursor 1)
  setCursor fun b => b.position spot.line spot.column
  showCursor
  updateStatus

/-- The end of the cursor's line. -/
def cursorLineEnd (b : Buffer) : Nat := b.lineEnd (b.spot b.cursor).line

/-- Deletes from the cursor to the end of its line (`_on_ctrl_e`). -/
def deleteToLineEnd : Edit Unit := do
  edit fun b => b.delete b.cursor (cursorLineEnd b)
  updateStatus

/-- Deletes the selection, or else the character before the cursor (`_on_ctrl_h`). -/
def deleteBack : Edit Unit := quietly do
  match (← get).buffer.selection with
  | some (first, last) => edit fun b => b.delete first last
  | none =>
    let spot ← indexOf fun b => b.cursor
    if spot ≠ ⟨1, 0⟩ then edit fun b => b.delete (b.move b.cursor (-1)) b.cursor
  showCursor
  updateStatus

/-- Moves the cursor to the next of the columns that are multiples of eight (`_on_ctrl_i`). -/
def nextTab : Edit Unit := quietly do
  let spot ← indexOf fun b => b.cursor
  setCursor fun b => b.position spot.line ((spot.column / 8 + 1) * 8 : Nat)
  showCursor
  updateStatus

/-- Moves the cursor one line down (`_on_ctrl_j`). -/
def lineDown : Edit Unit := quietly do
  let spot ← indexOf fun b => b.moveLines b.cursor 1
  setCursor fun b => b.position spot.line spot.column
  showCursor
  updateStatus

/-- Moves the cursor to the first visible line, in the same column (`_on_ctrl_k`). -/
def toTopLine : Edit Unit := quietly do
  let view := (← get).view
  let top ← indexOf (topPosition view)
  let spot ← indexOf fun b => b.cursor
  setCursor fun b => b.position top.line spot.column
  updateStatus

/-- Moves the cursor to the end of its line (`_on_ctrl_n`). -/
def toLineEnd : Edit Unit := quietly do
  let spot ← indexOf cursorLineEnd
  setCursor fun b => b.position spot.line spot.column
  showCursor
  updateStatus

/-- Is the column of a line inside a string? -/
def insideString (line : List Char) (column : Nat) : Bool := (line.take column).count '"' % 2 != 0

/-- Puts the blanks of the line before the cursor in order. -/
def respaceLineAbove (keepCase : Bool) (line : Nat) (b : Buffer) : Buffer :=
  if line ≤ 1 then b
  else
    let old := b.lineText (line - 1 : Nat)
    let new := Program.respace keepCase old
    if new = old then b else b.replaceLine (line - 1 : Nat) new

/-- After a key: the Return key puts the blanks of the line above in order, any other key those of
the cursor's line, unless the cursor is inside a string (`_on_key_beautify`). The cursor then moves
on by as much as the line has grown. -/
def respaceAfterKey (returnKey : Bool) : Edit Unit := do
  let spot ← indexOf fun b => b.cursor
  let s ← get
  let old := s.buffer.lineText spot.line
  if insideString old spot.column then return
  if returnKey then edit (respaceLineAbove s.keepsCase spot.line)
  else
    let new := Program.respace s.keepsCase old
    if new ≠ old then
      edit fun b => b.replaceLine spot.line new
      setCursor fun b => b.position spot.line (spot.column + new.length - old.length)

/-- A line break at the cursor (`_on_ctrl_m`). -/
def newLine : Edit Unit := quietly do
  edit fun b => b.insert b.cursor ['\n']
  showCursor
  respaceAfterKey true
  updateStatus

/-! ## The whole program -/

/-- The program without blanks around it. -/
def State.program (s : State) : List Char := Text.trim s.buffer.content

/-- The whole number that a setting holds. A text that is no numeral is `none`. -/
def wholeSetting : Json → Except EditorError (Option Int)
  | .null => .error (.notNumber "NoneType")
  | .bool b => .ok (some (if b then 1 else 0))
  | .int n => .ok (some n)
  | .real (.infinite _) => .error .infinite
  | .real .nan => .ok none
  | .real (.finite neg m e) =>
    let (num, den) := Binary64.ratio m e
    let n : Int := num / den
    .ok (some (if neg then -n else n))
  | .str s =>
    match Text.readInteger 10 s.toList with
    | .ok n => .ok (some n)
    | .error _ => .ok none
  | .arr _ => .error (.notNumber "list")
  | .obj _ => .error (.notNumber "dict")

/-- The numbering that the settings ask for; tens from ten if one of them is no number. -/
def State.numbering (s : State) : Except EditorError Program.Numbering := do
  match ← wholeSetting (s.setting "start_line" (.int 10)) with
  | none => return {}
  | some start =>
    match ← wholeSetting (s.setting "increment" (.int 10)) with
    | none => return {}
    | some increment => return { start, increment }

/-- The text of a store's new number for a reference; a number that is not in the table stays. -/
def lookupStored (store : Store) (digits : List Char) : Except Text.IntegerError (List Char) :=
  .ok (((store.newNumber? (String.ofList digits)).map fun n => (toString n).toList).getD digits)

/-- The lines of the program with their new numbers. -/
def State.assigned (s : State) : Except EditorError (List (Program.Line × Int)) := do
  let numbering ← s.numbering
  let lines ← (Program.programLines s.program).mapError .number
  return numbering.assign lines

/-- The store with the table of old and new numbers, if it is in use. -/
def State.storeNumbers (s : State) (assigned : List (Program.Line × Int)) :
    Except EditorError State := do
  if !s.connected then return s
  let store ← (s.store.setRenumbering (Program.numberPairs assigned)).mapError .store
  return { s with store }

/-- The renumbered program; references are looked up in the store if it is in use. -/
def State.renumbered (s : State) (assigned : List (Program.Line × Int)) :
    Except EditorError (List Char) :=
  let lookup := if s.connected then lookupStored s.store else Program.lookupAssigned assigned
  (Program.renumberLines lookup assigned).mapError .number

/-- Renumbers the program (`_on_renum`). The store keeps the table of numbers even if a number then
turns out too long to be written. -/
def renumber : Edit Unit := do
  if (← get).program.isEmpty then return
  let assigned ← ofExcept (← get).assigned
  set (← ofExcept ((← get).storeNumbers assigned))
  let text ← ofExcept ((← get).renumbered assigned)
  edit (·.replace text)
  highlight

/-- Removes the line numbers of the program (`_remove_line_numbers`). -/
def removeNumbers : Edit Unit := do
  let program := (← get).program
  if !program.isEmpty then edit fun b => b.replace (Program.dropNumbers program)

/-- The program with the blanks of each line put in order. -/
def State.respaced (s : State) : List Char :=
  Text.unrows ((Text.rows s.program).map (Program.respace s.keepsCase))

/-- Puts the blanks of all lines in order (`_on_beautify_all`). -/
def respaceAll : Edit Unit := do
  let s ← get
  if !s.program.isEmpty then
    edit fun b => b.replace s.respaced
    highlight
    tell (.box .info "Beautify" "Código formatado com sucesso!")

/-! ## Files -/

/-- The text of a file: the listing of a tokenised program, else text in UTF-8 or Latin-1. -/
def fileText (bytes : List UInt8) : Except Program.TokenError (List Char) :=
  if Program.isTokenised bytes then Program.listing bytes
  else .ok ((Text.decodeUtf8? bytes).getD (Text.decodeLatin1 bytes))

/-- Opens a file (`_open_file`). -/
def openFile (file : Except FileError (List UInt8)) : Edit Unit := do
  let failed (message : String) : Edit Unit :=
    tell (.box .error "Erro" ("Nao foi possivel abrir o arquivo:\n" ++ message))
  match file with
  | .error e => failed e.message
  | .ok bytes =>
    match fileText bytes with
    | .error e => failed e.message
    | .ok text =>
      tryCatch (do edit (·.replace text); highlight) fun e => failed e.message

/-- The bytes of a text in Latin-1, with question marks for other characters. A line feed is written as
it is, the newline of the platform. -/
def savedBytes (text : List Char) : List UInt8 :=
  text.map fun c => (Text.latin1Byte? c).getD 0x3F

/-- The first line that is not blank and has no number, with its place from 0. -/
def unnumberedLine? (program : List Char) : Option (List Char × Nat) :=
  (Text.rows program).zipIdx.find? fun (line, _) =>
    !Text.allBlank line && !((Text.trim line).head?.map Text.isDigit).getD false

/-- May the program be saved? In the classic dialect every line needs a number. -/
def State.saveRefusal? (s : State) : Option Notices :=
  if s.setting "dialect" .null == .str "MSX-BASIC" then
    (unnumberedLine? s.program).map fun (line, i) =>
      .box .error "Erro de Dialeto"
        (s!"No MSX-BASIC clássico, todas as linhas devem ser numeradas.\nErro na linha {i + 1}: " ++
          String.ofList (line.take 30) ++ "...")
  else none

/-- Saves the program (`_save_file`). `place` is where it may be written, asked for only if the
program may be saved: `none` if the user gives up. The bytes written are the result. -/
def saveFile (place : Option (Except FileError Unit)) : Edit (Option (List UInt8)) := do
  let s ← get
  match s.saveRefusal? with
  | some n => tell n; return none
  | none =>
    match place with
    | none => return none
    | some (.error e) =>
      tell (.box .error "Erro" ("Erro ao salvar:\n" ++ e.message))
      return none
    | some (.ok ()) =>
      tell (.box .info "Sucesso" "Arquivo salvo com sucesso (formato ASCII).")
      return some (savedBytes s.buffer.content)

/-- Deletes the whole text if the user says so (`_clear_editor`). -/
def clearText (yes : Bool) : Edit Unit := do
  tell (.box .question "Limpar" "Deseja limpar todo o conteudo?")
  if yes then edit (·.clear)

end MsxWorkbench.Editor
