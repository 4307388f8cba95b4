import MsxWorkbench.Settings.Cell
import MsxWorkbench.Program.Analysis
/-
# The settings store

Three tables that outlive a session: settings by key, recently opened files by path, and the line
numbers of the last renumbering. Writing to a key replaces its row; a row without a key is never found
and never replaced. A refused write changes nothing.
-/
namespace MsxWorkbench.Settings

/-- The tables (`AppDatabase`). Rows are in the order in which they were first written. -/
structure Store where
  settings : List (Option Entry × Entry) := []
  recent : List (Option Entry × Cell) := []
  renumbering : List (Int × Int) := []
deriving DecidableEq, Repr

/-- The file of a store; a table that was never made is missing. -/
structure StoreFile where
  settings : Option (List (Option Entry × Entry)) := none
  recent : Option (List (Option Entry × Cell)) := none
  renumbering : Option (List (Int × Int)) := none
deriving DecidableEq, Repr

/-- The rows with the value of a key set: in the row of that key if there is one, else in a new row at
the end. -/
def putRow {α : Type} (key : Option Entry) (value : α) :
    List (Option Entry × α) → List (Option Entry × α)
  | [] => [(key, value)]
  | (k, v) :: rest =>
    if key.isSome && k == key then (k, value) :: rest else (k, v) :: putRow key value rest

/-- The value of a key. -/
def findRow? {α : Type} (key : Option Entry) (rows : List (Option Entry × α)) : Option α :=
  if key.isNone then none else (rows.find? fun row => row.1 == key).map Prod.snd

namespace Store

/-- Opens a file: tables that are missing are made, and the others are left as they are
(`_ensure_schema`). -/
def openOn (f : StoreFile) : Store :=
  ⟨f.settings.getD [], f.recent.getD [], f.renumbering.getD []⟩

/-- What the file of an open store holds. -/
def file (s : Store) : StoreFile := ⟨some s.settings, some s.recent, some s.renumbering⟩

/-- Opens the file of a store once more. -/
def reopen (s : Store) : Store := openOn s.file

/-- The setting of a key given as any value. -/
def lookup (s : Store) (key : Given) : Except StoreError (Option Entry) := do
  let key ← Cell.ofGiven 1 key
  .ok (findRow? key.toEntry? s.settings)

/-- The setting of a key given as any value, as its reader takes it, or a default
(`get_setting`). -/
def lookupOr {α : Type} (s : Store) (key : Given) (take : Entry → α) (default : α) :
    Except StoreError α := do
  let found ← s.lookup key
  .ok ((found.map take).getD default)

/-- Writes a setting given as any values (`set_setting`). -/
def put (s : Store) (key value : Given) : Except StoreError Store := do
  let key ← Cell.ofGiven 1 key
  let value ← Cell.ofGiven 2 value
  match value.toEntry? with
  | none => .error (.missingValue "settings.value")
  | some entry => .ok { s with settings := putRow key.toEntry? entry s.settings }

/-- Records when a file was opened (`touch_recent_file`). -/
def touch (s : Store) (path time : Given) : Except StoreError Store := do
  let path ← Cell.ofGiven 1 path
  let time ← Cell.ofGiven 2 time
  match time.toWhole with
  | .null => .error (.missingValue "recent_files.last_opened")
  | cell => .ok { s with recent := putRow path.toEntry? cell s.recent }

/-- The store after a write, which is taken back if it was refused. -/
def settle (s : Store) : Except StoreError Store → Store × Option StoreError
  | .ok next => (next, none)
  | .error e => (s, some e)

/-- The setting of a key. -/
def get? (s : Store) (key : String) : Option Entry := findRow? (some (.text key)) s.settings

/-- The setting of a key if it is a text. -/
def text? (s : Store) (key : String) : Option String := (s.get? key).bind Entry.text?

/-- The setting of a key if it is a text, or a default. -/
def get (s : Store) (key default : String) : String := (s.text? key).getD default

/-- The store with a setting written. -/
def set (s : Store) (key value : String) : Store :=
  { s with settings := putRow (some (.text key)) (.text value) s.settings }

/-- Whether bytes come before others. -/
def bytesLe : List UInt8 → List UInt8 → Bool
  | [], _ => true
  | _ :: _, [] => false
  | a :: as, b :: bs => a < b || (a == b && bytesLe as bs)

/-- Whether an entry comes before another: texts first, by code points. -/
def entryLe : Entry → Entry → Bool
  | .text a, .text b => Program.Analysis.textLe a.toList b.toList
  | .text _, .bytes _ => true
  | .bytes _, .text _ => false
  | .bytes a, .bytes b => bytesLe a b

/-- Whether a key comes before another: no key first. -/
def keyLe : Option Entry → Option Entry → Bool
  | none, _ => true
  | some _, none => false
  | some a, some b => entryLe a b

/-- The settings by key and then by value. -/
def sortedSettings (s : Store) : List (Option Entry × Entry) :=
  s.settings.mergeSort fun a b => if a.1 = b.1 then entryLe a.2 b.2 else keyLe a.1 b.1

/-- The recent files by path. -/
def sortedRecent (s : Store) : List (Option Entry × Cell) :=
  s.recent.mergeSort fun a b => keyLe a.1 b.1

/-! ## Renumbering -/

/-- Replaces the table of the last renumbering: the old numbers must be distinct and all must fit.
Otherwise the table stays as it was. -/
def setRenumbering (s : Store) (pairs : List (Int × Int)) : Except StoreError Store :=
  let rec add : List (Int × Int) → List (Int × Int) → Except StoreError (List (Int × Int))
    | rows, [] => .ok rows
    | rows, (old, new) :: rest =>
      if !fitsCell old || !fitsCell new then .error .tooLarge
      else if rows.any (·.1 == old) then .error (.duplicate "renum_map.old_ln")
      else add (rows ++ [(old, new)]) rest
  (add [] pairs).map fun rows => { s with renumbering := rows }

/-- The new number of the line that a text names; a text that is no numeral names none. -/
def newNumber? (s : Store) (text : String) : Option Int :=
  match (Cell.text text).toWhole with
  | .int n => s.renumbering.lookup n
  | _ => none

end Store

end MsxWorkbench.Settings
