import ManifestLint.Number.Binary64

/-!
# The shortest decimal of a binary64 number

Every finite number has a decimal with at most seventeen digits that reads back
as that number.  `shortest` looks for one digit after the other: the first
length at which a decimal lies in the interval of reals that round to the
number wins, and of two such decimals the nearer one.
-/

namespace ManifestLint.Number

/-- The decimal `digits * 10 ^ exponent`. -/
structure Decimal where
  digits : Nat
  exponent : Int
deriving DecidableEq, Repr

/-- Which of two equally near decimals is taken. -/
inductive Tie where
  | even
  | up
deriving DecidableEq, Repr

namespace Binary64

/-- The reals that round to a positive number, as multiples of one unit: the
number itself and the two ends, which belong to the interval for an even
coefficient only. -/
structure Interval where
  low : Nat
  value : Nat
  high : Nat
  closed : Bool

/-- Whether a multiple of the unit lies in the interval. -/
def Interval.contains (interval : Interval) (point : Nat) : Bool :=
  if interval.closed then interval.low ≤ point && point ≤ interval.high
  else interval.low < point && point < interval.high

/-- The rounding interval of `coefficient * 2 ^ exponent`, together with its
unit `unitNumerator / unitDenominator`.  The lower end is nearer where the
number is the least one of its exponent. -/
def roundingInterval (coefficient : Nat) (exponent : Int) : Interval × Nat × Nat :=
  let atBinade : Bool := coefficient = powerOfTwo 52 && -1074 < exponent
  let interval : Interval :=
    { low := 4 * coefficient - (if atBinade then 1 else 2)
      value := 4 * coefficient
      high := 4 * coefficient + 2
      closed := coefficient % 2 = 0 }
  let unitExponent := exponent - 2
  if 0 ≤ unitExponent then (interval, powerOfTwo unitExponent.toNat, 1)
  else (interval, 1, powerOfTwo (-unitExponent).toNat)

/-- The same interval in multiples of a smaller unit, chosen so that powers of
ten up to the given one are whole: the factor for the interval and the size of
`10 ^ exponent`. -/
def gridScale (unitNumerator unitDenominator : Nat) (exponent : Int) : Nat × Nat :=
  if 0 ≤ exponent then (unitNumerator, unitDenominator * powerOfTen exponent.toNat)
  else (unitNumerator * powerOfTen (-exponent).toNat, unitDenominator)

/-- The decimal on the grid of `10 ^ exponent` that lies in the interval and is
nearest to its value. -/
def onGrid (tie : Tie) (interval : Interval) (unitNumerator unitDenominator : Nat)
    (exponent : Int) : Option Decimal :=
  let scale := gridScale unitNumerator unitDenominator exponent
  let scaled : Interval :=
    { low := interval.low * scale.1
      value := interval.value * scale.1
      high := interval.high * scale.1
      closed := interval.closed }
  let below := scaled.value / scale.2
  let above := below + 1
  let belowFits := 0 < below && scaled.contains (below * scale.2)
  let aboveFits := scaled.contains (above * scale.2)
  let belowGap := scaled.value - below * scale.2
  let aboveGap := above * scale.2 - scaled.value
  match belowFits, aboveFits with
  | false, false => none
  | true, false => some ⟨below, exponent⟩
  | false, true => some ⟨above, exponent⟩
  | true, true =>
      if belowGap < aboveGap then some ⟨below, exponent⟩
      else if aboveGap < belowGap then some ⟨above, exponent⟩
      else match tie with
        | .up => some ⟨above, exponent⟩
        | .even => some ⟨if below % 2 = 0 then below else above, exponent⟩

/-- The exponent of the leading digit: the largest `e` with `10 ^ e ≤ x`. -/
def leadingExponent (numerator denominator : Nat) : Int :=
  let whole := numerator / denominator
  if 0 < whole then (Nat.toDigits 10 whole).length - 1
  else
    let flipped := denominator / numerator
    let digits : Int := (Nat.toDigits 10 flipped).length
    if numerator * powerOfTen (digits - 1).toNat = denominator then 1 - digits else -digits

/-- Try the grids from one digit on. -/
def searchGrids (tie : Tie) (interval : Interval) (unitNumerator unitDenominator : Nat)
    (leading : Int) : Nat → Nat → Decimal
  | 0, count => ⟨0, leading + 1 - count⟩
  | fuel + 1, count =>
      match onGrid tie interval unitNumerator unitDenominator (leading + 1 - count) with
      | some decimal => decimal
      | none => searchGrids tie interval unitNumerator unitDenominator leading fuel (count + 1)

/-- Drop zeros at the end of the digits, at most as many as given. -/
def dropTrailingZeros : Nat → Decimal → Decimal
  | 0, decimal => decimal
  | fuel + 1, decimal =>
      if 0 < decimal.digits && decimal.digits % 10 = 0 then
        dropTrailingZeros fuel ⟨decimal.digits / 10, decimal.exponent + 1⟩
      else decimal

/-- The shortest decimal that reads back as the magnitude of a finite number;
zero has the digit zero. -/
def shortest (tie : Tie) (x : Binary64) : Decimal :=
  let parts := x.decompose
  if parts.1 = 0 then ⟨0, 0⟩
  else
    let framed := roundingInterval parts.1 parts.2
    let interval := framed.1
    let numerator := interval.value * framed.2.1
    let leading := leadingExponent numerator framed.2.2
    dropTrailingZeros 20
      (searchGrids tie interval framed.2.1 framed.2.2 leading 17 1)

end Binary64

/-- The digits of a natural number in base ten. -/
def decimalDigits (n : Nat) : List Char :=
  Nat.toDigits 10 n

/-- Positional notation of a decimal, with a point and at least one digit on
both sides of it. -/
def Decimal.positional (decimal : Decimal) : List Char :=
  let digits := decimalDigits decimal.digits
  if 0 ≤ decimal.exponent then
    digits ++ List.replicate decimal.exponent.toNat '0' ++ ['.', '0']
  else
    let places := (-decimal.exponent).toNat
    if places < digits.length then
      digits.take (digits.length - places) ++ '.' :: digits.drop (digits.length - places)
    else '0' :: '.' :: (List.replicate (places - digits.length) '0' ++ digits)

/-- Exponent notation of a decimal: one digit, the others behind a point if
there are any, and the power of ten of the first. -/
def Decimal.scientific (decimal : Decimal) : List Char :=
  let digits := decimalDigits decimal.digits
  let power : Int := decimal.exponent + digits.length - 1
  let exponentText := (toString power).toList
  match digits with
  | [] => []
  | [digit] => digit :: 'e' :: exponentText
  | digit :: rest => digit :: '.' :: rest ++ 'e' :: exponentText

namespace Binary64

/-- Text that is always positional, as used in messages about values: `1000.0`,
`inf`, `NaN`. -/
def positionalText (x : Binary64) : String :=
  if x.isNaN then "NaN"
  else
    let sign := if x.isNegative then ['-'] else []
    let body := if x.isInfinite then ['i', 'n', 'f'] else (x.shortest .up).positional
    String.ofList (sign ++ body)

/-- Text as a data format writes the number: positional while the leading digit
stands within sixteen places before or five places behind the point, and with
an exponent otherwise. -/
def compactText (x : Binary64) : String :=
  if x.isNaN then ".nan"
  else
    let sign := if x.isNegative then ['-'] else []
    let body :=
      if x.isInfinite then ['.', 'i', 'n', 'f']
      else
        let decimal := x.shortest .even
        let pointPlace : Int := decimal.exponent + (decimalDigits decimal.digits).length
        if -5 < pointPlace ∧ pointPlace ≤ 16 then decimal.positional else decimal.scientific
    String.ofList (sign ++ body)

end Binary64

end ManifestLint.Number
