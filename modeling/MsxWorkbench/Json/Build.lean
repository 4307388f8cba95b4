import MsxWorkbench.Json.Writer
/-
# Building JSON

Values of other types as JSON.
-/
namespace MsxWorkbench.Json

/-- A text. -/
def ofChars (s : List Char) : Json := .str (String.ofList s)

/-- A natural number. -/
def ofNat (n : Nat) : Json := .int n

/-- A list. -/
def ofList {α : Type} (f : α → Json) (xs : List α) : Json := .arr (xs.map f)

/-- A value that may be missing. -/
def ofOption {α : Type} (f : α → Json) : Option α → Json
  | some x => f x
  | none => .null

/-- Bytes as pairs of hexadecimal digits. -/
def ofBytes (bs : List UInt8) : Json :=
  ofChars (bs.flatMap fun b => [hexDigit (b.toNat / 16), hexDigit b.toNat])

/-- A floating-point number; one without a fraction is written as an integer. -/
def ofReal (x : Binary64) : Json :=
  match x.toInt? with
  | some n => .int n
  | none => .real x

end MsxWorkbench.Json
