import MsxWorkbench.Json.Value
import MsxWorkbench.Json.Reader
/-
# Cells of the settings tables

A cell of a table holds nothing, a number, a text or bytes. A column of texts turns numbers into texts,
and a column of whole numbers turns texts that are numerals into numbers; both leave bytes as they are.
-/
namespace MsxWorkbench.Settings

/-- Why the store refused a value. -/
inductive StoreError where
  | missingValue (column : String)
  | tooLarge
  | unsupported (position : Nat) (type : String)
  | duplicate (column : String)
  | noTable (table : String)
deriving DecidableEq, Repr

/-- The message for a refused value. -/
def StoreError.message : StoreError → String
  | .missingValue column => s!"NOT NULL constraint failed: {column}"
  | .tooLarge => "Python int too large to convert to SQLite INTEGER"
  | .unsupported position type =>
    s!"Error binding parameter {position}: type '{type}' is not supported"
  | .duplicate column => s!"UNIQUE constraint failed: {column}"
  | .noTable table => s!"no such table: {table}"

/-- A value given to a statement. -/
inductive Given where
  | null
  | bool (b : Bool)
  | int (n : Int)
  | real (x : Binary64)
  | text (s : String)
  | bytes (bs : List UInt8)
  /-- A value of a type that no statement takes. -/
  | other (type : String)
deriving DecidableEq, Repr

/-- A JSON value given to a statement. -/
def Given.ofJson : Json → Given
  | .null => .null
  | .bool b => .bool b
  | .int n => .int n
  | .real x => .real x
  | .str s => .text s
  | .arr _ => .other "list"
  | .obj _ => .other "dict"

/-- What a cell holds. -/
inductive Cell where
  | null
  | int (n : Int)
  | real (x : Binary64)
  | text (s : String)
  | bytes (bs : List UInt8)
deriving DecidableEq, Repr

/-- Whether a number fits in a cell. -/
def fitsCell (n : Int) : Bool := -0x8000000000000000 ≤ n && n < 0x8000000000000000

/-- The cell for a value given at a position of a statement. -/
def Cell.ofGiven (position : Nat) : Given → Except StoreError Cell
  | .null => .ok .null
  | .bool b => .ok (.int (if b then 1 else 0))
  | .int n => if fitsCell n then .ok (.int n) else .error .tooLarge
  | .real .nan => .ok .null
  | .real x => .ok (.real x)
  | .text s => .ok (.text s)
  | .bytes bs => .ok (.bytes bs)
  | .other type => .error (.unsupported position type)

/-- What a column of texts holds where it holds something. -/
inductive Entry where
  | text (s : String)
  | bytes (bs : List UInt8)
deriving DecidableEq, Repr

/-- The text of an entry that is one. -/
def Entry.text? : Entry → Option String
  | .text s => some s
  | .bytes _ => none

/-- Does an entry hold no character and no byte? -/
def Entry.isEmpty : Entry → Bool
  | .text s => s.isEmpty
  | .bytes bs => bs.isEmpty

/-- What a column of texts makes of a cell; nothing stays nothing. -/
def Cell.toEntry? : Cell → Option Entry
  | .null => none
  | .int n => some (.text (toString n))
  | .real x => some (.text (String.ofList x.toText15))
  | .text s => some (.text s)
  | .bytes bs => some (.bytes bs)

/-- Blanks around a numeral in a cell. -/
def isCellBlank (c : Char) : Bool := c == ' ' || (9 ≤ c.toNat && c.toNat ≤ 13)

/-- A numeral that is the whole text but for blanks: whether it has a point or an exponent, its sign,
its digits and the power of ten they are multiplied with. -/
def numeral? (s : List Char) : Option (Bool × Bool × Nat × Int) :=
  let s := s.dropWhile isCellBlank
  let (neg, s) := match s with
    | '-' :: r => (true, r)
    | '+' :: r => (false, r)
    | _ => (false, s)
  let (whole, s) := Json.spanDigits s
  let (pointed, fraction, s) := match s with
    | '.' :: r => let (ds, r') := Json.spanDigits r; (true, ds, r')
    | _ => (false, [], s)
  let exponent? : Option (Bool × Int × List Char) := match s with
    | e :: r =>
      if e == 'e' || e == 'E' then
        let (minus, r) := match r with
          | '-' :: r' => (true, r')
          | '+' :: r' => (false, r')
          | _ => (false, r)
        let (ds, r') := Json.spanDigits r
        if ds.isEmpty then none
        else some (true, (if minus then -1 else 1) * (Json.decimalValue ds : Int), r')
      else some (false, 0, s)
    | [] => some (false, 0, s)
  match exponent? with
  | none => none
  | some (scaled, exponent, rest) =>
    if (whole ++ fraction).isEmpty || !rest.all isCellBlank then none
    else some (pointed || scaled, neg, Json.decimalValue (whole ++ fraction),
      exponent - fraction.length)

/-- A floating-point number in a column of whole numbers: one that is whole, and lies inside the range
of such numbers, becomes whole. -/
def wholeCell (x : Binary64) : Cell :=
  match x.toInt? with
  | some n => if -0x8000000000000000 < n ∧ n < 0x8000000000000000 - 1 then .int n else .real x
  | none => .real x

/-- What a column of whole numbers makes of a cell. -/
def Cell.toWhole : Cell → Cell
  | .text s =>
    match numeral? s.toList with
    | none => .text s
    | some (broken, neg, digits, power) =>
      let n : Int := if neg then -(digits : Int) else digits
      if !broken && fitsCell n then .int n
      else wholeCell (.ofDecimal neg digits power)
  | .real x => wholeCell x
  | c => c

end MsxWorkbench.Settings
