/-
# Binary floating point

Numbers of 64 bits, held exactly as a sign, a mantissa and a power of two. Every operation computes
the exact rational result and rounds once, to the nearest number and on a tie to the even mantissa.
-/
namespace MsxWorkbench

/-- A floating-point number of 64 bits. A finite one is `± mantissa * 2 ^ exponent` with
`mantissa < 2 ^ 53` and `-1074 ≤ exponent ≤ 971`. -/
inductive Binary64 where
  | finite (neg : Bool) (mantissa : Nat) (exponent : Int)
  | infinite (neg : Bool)
  | nan
deriving BEq, DecidableEq, Repr, Inhabited

namespace Binary64

/-- The quotient `num / den` rounded to the nearest whole number, a tie going to the even one. -/
def roundHalfEven (num den : Nat) : Nat :=
  let q := num / den
  let r := num % den
  if 2 * r < den then q else if 2 * r > den then q + 1 else q + q % 2

/-- The quotient `num / (den * 2 ^ e)` as a pair of numerator and denominator. -/
def scaled (num den : Nat) (e : Int) : Nat × Nat :=
  if 0 ≤ e then (num, den * Nat.pow 2 e.toNat) else (num * Nat.pow 2 (-e).toNat, den)

/-- The number nearest to `± num / den`. -/
def ofRatio (neg : Bool) (num den : Nat) : Binary64 :=
  if num = 0 then .finite neg 0 (-1074)
  else
    let guess : Int := (num.log2 : Int) - (den.log2 : Int) - 53
    let fits := let (n, d) := scaled num den (max guess (-1074)); n / d < 0x20000000000000
    let e := max (if fits then guess else guess + 1) (-1074)
    let (n, d) := scaled num den e
    let m := roundHalfEven n d
    let (m, e) := if m = 0x20000000000000 then (0x10000000000000, e + 1) else (m, e)
    if e > 971 then .infinite neg else .finite neg m e

/-- The number nearest to a whole number. -/
def ofInt (n : Int) : Binary64 := ofRatio (n < 0) n.natAbs 1

/-- The number nearest to `± digits * 10 ^ exponent`. Exponents beyond the range of the type are cut
before the power is formed. -/
def ofDecimal (neg : Bool) (digits : Nat) (exponent : Int) : Binary64 :=
  let size : Int := (toString digits).length
  if digits = 0 then .finite neg 0 (-1074)
  else if exponent + size > 400 then .infinite neg
  else if exponent + size < -400 then .finite neg 0 (-1074)
  else if 0 ≤ exponent then ofRatio neg (digits * Nat.pow 10 exponent.toNat) 1
  else ofRatio neg digits (Nat.pow 10 (-exponent).toNat)

/-- Numerator and denominator of the absolute value of a finite number. -/
def ratio (m : Nat) (e : Int) : Nat × Nat :=
  if 0 ≤ e then (m * Nat.pow 2 e.toNat, 1) else (m, Nat.pow 2 (-e).toNat)

/-- The number of opposite sign. -/
def negate : Binary64 → Binary64
  | .finite neg m e => .finite (!neg) m e
  | .infinite neg => .infinite (!neg)
  | .nan => .nan

/-- The sum; of two finite numbers, the exact sum rounded. -/
def add : Binary64 → Binary64 → Binary64
  | .finite s m e, .finite t k f =>
    let low := min e f
    let a : Int := (m * Nat.pow 2 (e - low).toNat : Nat)
    let b : Int := (k * Nat.pow 2 (f - low).toNat : Nat)
    let total := (if s then -a else a) + (if t then -b else b)
    let neg := if total = 0 then s && t else total < 0
    let (n, d) := ratio total.natAbs low
    ofRatio neg n d
  | .infinite s, .infinite t => if s = t then .infinite s else .nan
  | .infinite s, .finite .. => .infinite s
  | .finite .., .infinite t => .infinite t
  | _, _ => .nan

/-- The difference. -/
def sub (x y : Binary64) : Binary64 := add x y.negate

/-- The product of finite numbers, rounded. -/
def mul : Binary64 → Binary64 → Binary64
  | .finite s m e, .finite t k f =>
    let (n, d) := ratio (m * k) (e + f)
    ofRatio (s != t) n d
  | _, _ => .nan

/-- The quotient of finite numbers, rounded; `nan` when the divisor is zero. -/
def div : Binary64 → Binary64 → Binary64
  | .finite s m e, .finite t k f =>
    if k = 0 then .nan
    else
      let (n, d) := ratio m (e - f)
      ofRatio (s != t) n (d * k)
  | _, _ => .nan

/-- Whether the number is less than `y`; never when one of them is `nan`. -/
def lt : Binary64 → Binary64 → Bool
  | .finite s m e, .finite t k f =>
    let low := min e f
    let a : Int := (m * Nat.pow 2 (e - low).toNat : Nat)
    let b : Int := (k * Nat.pow 2 (f - low).toNat : Nat)
    (if s then -a else a) < (if t then -b else b)
  | .infinite s, .infinite t => s && !t
  | .infinite s, .finite .. => s
  | .finite .., .infinite t => !t
  | _, _ => false

/-- The whole number it equals, if it is one. -/
def toInt? : Binary64 → Option Int
  | .finite neg m e =>
    let (n, d) := ratio m e
    if n % d = 0 then some (if neg then -((n / d : Nat) : Int) else ((n / d : Nat) : Int)) else none
  | _ => none

/-! ## Decimal forms -/

/-- The absolute value rounded to `places` decimals, in units of the last place; a tie goes to the
even digit. -/
def fixedUnits (num den places : Nat) : Nat := roundHalfEven (num * Nat.pow 10 places) den

/-- A natural number with at least `width` digits. -/
def padded (width n : Nat) : List Char :=
  let ds := Nat.toDigits 10 n
  List.replicate (width - ds.length) '0' ++ ds

/-- `units` written with a point before its last `places` digits. -/
def pointed (units places : Nat) : List Char :=
  let ds := padded (places + 1) units
  if places = 0 then ds
  else ds.take (ds.length - places) ++ '.' :: ds.drop (ds.length - places)

/-- The number with a fixed count of decimals. -/
def fixed (x : Binary64) (places : Nat) : List Char :=
  match x with
  | .finite neg m e =>
    let (n, d) := ratio m e
    (if neg then ['-'] else []) ++ pointed (fixedUnits n d places) places
  | .infinite neg => if neg then "-inf".toList else "inf".toList
  | .nan => "nan".toList

/-- The number nearest to `x` rounded to a count of decimals. -/
def roundTo (x : Binary64) (places : Nat) : Binary64 :=
  match x with
  | .finite neg m e =>
    let (n, d) := ratio m e
    ofRatio neg (fixedUnits n d places) (Nat.pow 10 places)
  | _ => x

/-- The power of ten of the leading digit of `num / den`, found by counting from a bound. -/
def leadingPower (num den : Nat) : Int :=
  let estimate : Int := (toString num).length - (toString den).length
  -- the quotient lies in `[10 ^ (estimate - 1), 10 ^ (estimate + 1))`
  let reaches (k : Int) : Bool :=
    if 0 ≤ k then den * Nat.pow 10 k.toNat ≤ num else den ≤ num * Nat.pow 10 (-k).toNat
  if reaches estimate then estimate else estimate - 1

/-- `num / den` cut to `count` significant digits: the digits below and above it, and the power of
ten they are multiplied with. -/
def significant (num den count : Nat) : Nat × Nat × Int :=
  let power := leadingPower num den - (count : Int) + 1
  let (n, d) := if 0 ≤ power then (num, den * Nat.pow 10 power.toNat) else (num * Nat.pow 10 (-power).toNat, den)
  let low := n / d
  (low, if n % d = 0 then low else low + 1, power)

/-- Searches digit counts from `count` upwards, `left` of them, for a decimal that reads back. -/
def shortestFrom (x : Binary64) (num den : Nat) : Nat → Nat → Nat × Int
  | 0, count => let (low, _, power) := significant num den count; (low, power)
  | left + 1, count =>
    let (low, high, power) := significant num den count
    let lowHits := ofDecimal false low power == x
    let highHits := ofDecimal false high power == x
    -- twice the value against the sum of the two neighbours
    let (n, d) := if 0 ≤ power then (num, den * Nat.pow 10 power.toNat)
      else (num * Nat.pow 10 (-power).toNat, den)
    let lowNearer := 2 * n < (low + high) * d || (2 * n == (low + high) * d && low % 2 == 0)
    if lowHits && (!highHits || lowNearer) then (low, power)
    else if highHits then (high, power)
    else shortestFrom x num den left (count + 1)

/-- The fewest significant digits that read back as the number, and their power of ten. Seventeen
digits always do. -/
def shortest (m : Nat) (e : Int) : Nat × Int :=
  if m = 0 then (0, 0)
  else
    let (n, d) := ratio m e
    shortestFrom (.finite false m e) n d 17 1

/-- Digits and power of ten without trailing zeros in the digits. -/
def withoutZeros : Nat → Nat × Int → Nat × Int
  | 0, r => r
  | fuel + 1, (n, p) => if n != 0 && n % 10 == 0 then withoutZeros fuel (n / 10, p + 1) else (n, p)

/-- The shortest decimal text: positional from `1e-4` to below `1e16`, otherwise with an exponent of
at least two digits. A whole number keeps one decimal. -/
def toText : Binary64 → List Char
  | .finite neg m e =>
    let (n, p) := withoutZeros 400 (shortest m e)
    let ds := Nat.toDigits 10 n
    let lead : Int := p + ds.length - 1
    let body :=
      if n = 0 then "0.0".toList
      else if -4 ≤ lead && lead < 16 then
        if 0 ≤ p then ds ++ List.replicate p.toNat '0' ++ ['.', '0']
        else pointed n (-p).toNat
      else
        let tail := ds.drop 1
        ds.take 1 ++ (if tail.isEmpty then [] else '.' :: tail) ++ 'e' ::
          (if lead < 0 then '-' else '+') :: padded 2 lead.natAbs
    (if neg then ['-'] else []) ++ body
  | .infinite neg => if neg then "-inf".toList else "inf".toList
  | .nan => "nan".toList

/-- The text with at most fifteen significant digits: positional for exponents from -4 to 14, and
always with a point and a digit after it. -/
def toText15 : Binary64 → List Char
  | .finite neg m e =>
    let sign := if neg && m != 0 then ['-'] else []
    let (num, den) := ratio m e
    if m = 0 then ['0', '.', '0']
    else
      let (low, _, power) := significant num den 15
      let (n, d) := if 0 ≤ power then (num, den * Nat.pow 10 power.toNat)
        else (num * Nat.pow 10 (-power).toNat, den)
      let units := if 2 * (n % d) < d then low else low + 1
      let (digits, p) := withoutZeros 400 (units, power)
      let ds := Nat.toDigits 10 digits
      let lead : Int := p + ds.length - 1
      sign ++
        if lead < -4 || lead > 14 then
          let tail := ds.drop 1
          ds.take 1 ++ '.' :: (if tail.isEmpty then ['0'] else tail) ++ 'e' ::
            (if lead < 0 then '-' else '+') :: padded 2 lead.natAbs
        else if 0 ≤ p then ds ++ List.replicate p.toNat '0' ++ ['.', '0']
        else pointed digits (-p).toNat
  | .infinite neg => if neg then "-Inf".toList else "Inf".toList
  | .nan => []

end Binary64

end MsxWorkbench
