import MsxWorkbench.Text.Blank
import MsxWorkbench.Text.Digit
import MsxWorkbench.Text.Quoted
/-
# Reading and writing whole numbers

A numeral may have blanks around it, a sign, digits of any script and single underscores between
digits. A decimal numeral of more than 4300 digits is refused, as is any text that is no numeral. Nor is
a number of more than 4300 digits written.
-/
namespace MsxWorkbench.Text

/-- Why a text was not read as a whole number, or a whole number not written. -/
inductive IntegerError where
  | invalid (base : Nat) (text : List Char)
  | tooLong (digits : Nat)
  /-- The number has too many digits to be written. -/
  | unwritable
deriving DecidableEq, Repr

/-- The message; at most 200 characters of a text that was not read are quoted. -/
def IntegerError.message : IntegerError → String
  | .invalid base text =>
    s!"invalid literal for int() with base {base}: " ++ String.ofList ((quoted text).take 200)
  | .tooLong digits =>
    s!"Exceeds the limit (4300 digits) for integer string conversion: value has {digits} digits; " ++
      "use sys.set_int_max_str_digits() to increase the limit"
  | .unwritable =>
    "Exceeds the limit (4300 digits) for integer string conversion; " ++
      "use sys.set_int_max_str_digits() to increase the limit"

/-- How many digits a decimal numeral may have. -/
def mostDigits : Nat := 4300

/-- Blanks allowed around a numeral. -/
def isNumeralBlank (c : Char) : Bool :=
  (9 ≤ c.toNat && c.toNat ≤ 13) || c == ' ' || (c.toNat > 127 && isBlank c)

/-- The value of a digit in a base up to sixteen. -/
def baseDigit? (base : Nat) (c : Char) : Option Nat :=
  let value? := match digitValue? c with
    | some v => some v
    | none =>
      if 'a' ≤ c ∧ c ≤ 'f' then some (c.toNat - 87)
      else if 'A' ≤ c ∧ c ≤ 'F' then some (c.toNat - 55)
      else none
  value?.filter (· < base)

/-- The digits at the start of a text, with single underscores between them left out, and what
follows; `none` when an underscore is misplaced. `after` tells whether a digit came just before. -/
def spanNumeral (base : Nat) : Bool → List Char → Option (List Nat × List Char)
  | _, [] => some ([], [])
  | after, c :: rest =>
    match baseDigit? base c with
    | some v => (spanNumeral base true rest).map fun (ds, r) => (v :: ds, r)
    | none =>
      if c == '_' then
        match rest with
        | d :: _ =>
          if after && (baseDigit? base d).isSome then spanNumeral base false rest else none
        | [] => none
      else some ([], c :: rest)

/-- A sign at the start of a text. -/
def spanSign : List Char → Bool × List Char
  | '-' :: rest => (true, rest)
  | '+' :: rest => (false, rest)
  | s => (false, s)

/-- Without a hexadecimal mark at the start, a zero of any script and an `x`, after which one
underscore is allowed. -/
def dropHexMark : List Char → List Char
  | z :: x :: rest =>
    if digitValue? z == some 0 && (x == 'x' || x == 'X') then
      match rest with
      | '_' :: rest => rest
      | _ => rest
    else z :: x :: rest
  | s => s

/-- Reads a whole number in base ten or sixteen. -/
def readInteger (base : Nat) (text : List Char) : Except IntegerError Int :=
  let (neg, s) := spanSign (text.dropWhile isNumeralBlank)
  let s := if base = 16 then dropHexMark s else s
  match spanNumeral base false s with
  | none => .error (.invalid base text)
  | some (ds, rest) =>
    if ds.isEmpty then .error (.invalid base text)
    else if base = 10 ∧ mostDigits < ds.length then .error (.tooLong ds.length)
    else if rest.all isNumeralBlank then
      let n : Nat := ds.foldl (fun n d => base * n + d) 0
      .ok (if neg then -(n : Int) else n)
    else .error (.invalid base text)

/-- The value of a text that consists of digits. -/
def readDigits (digits : List Char) : Except IntegerError Nat :=
  if mostDigits < digits.length then .error (.tooLong digits.length) else .ok (digitsValue digits)

/-- The decimal numeral of a number. -/
def writeInteger (n : Int) : Except IntegerError (List Char) :=
  if Nat.pow 10 mostDigits ≤ n.natAbs then .error .unwritable else .ok (toString n).toList

end MsxWorkbench.Text
