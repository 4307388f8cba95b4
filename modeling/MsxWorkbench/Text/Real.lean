import MsxWorkbench.Number.Binary64
import MsxWorkbench.Text.Integer
/-
# Reading numbers with a fraction

A numeral may have blanks around it, a sign, digits of any script with at most one point among them,
single underscores between digits, and an exponent. The words for infinity and for no number are
numerals too, in small and capital letters.
-/
namespace MsxWorkbench.Text

/-- The value of some digits. -/
def digitListValue (ds : List Nat) : Nat := ds.foldl (fun n d => 10 * n + d) 0

/-- The digits behind a point at the start of a text, none if there is no point. -/
def spanFraction : List Char → Option (List Nat × List Char)
  | '.' :: rest => spanNumeral 10 false rest
  | s => some ([], s)

/-- The exponent that the whole text is; zero if the text is empty. -/
def readExponent? : List Char → Option Int
  | [] => some 0
  | e :: rest => do
    if e != 'e' && e != 'E' then none
    let (minus, digits) := spanSign rest
    let (ds, rest) ← spanNumeral 10 false digits
    if ds.isEmpty || !rest.isEmpty then none
    let n : Int := digitListValue ds
    return if minus then -n else n

/-- The words that stand for numbers that cannot be written with digits. -/
def readNumberWord? (neg : Bool) (s : List Char) : Option Binary64 :=
  let word := String.ofList (s.map Char.toLower)
  if word == "inf" || word == "infinity" then some (.infinite neg)
  else if word == "nan" then some .nan
  else none

/-- A text without the blanks around a numeral. -/
def trimNumeral (s : List Char) : List Char :=
  ((s.dropWhile isNumeralBlank).reverse.dropWhile isNumeralBlank).reverse

/-- Reads a number that may have a fraction and an exponent. -/
def readReal? (s : List Char) : Option Binary64 :=
  let (neg, s) := spanSign (trimNumeral s)
  match readNumberWord? neg s with
  | some x => some x
  | none => do
    let (whole, s) ← spanNumeral 10 false s
    let (fraction, s) ← spanFraction s
    if whole.isEmpty && fraction.isEmpty then none
    let e ← readExponent? s
    return .ofDecimal neg (digitListValue (whole ++ fraction)) (e - fraction.length)

end MsxWorkbench.Text
