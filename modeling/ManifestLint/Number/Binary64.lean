/-!
# Binary64 numbers as bit patterns

A double precision number is kept as its sixty-four bits.  Arithmetic on the
patterns is done in `Nat`, so every step is exact until the single rounding in
`roundRatio`, which goes to the nearest representable number and from a tie to
the even one.
-/

namespace ManifestLint.Number

/-- A power of two. -/
def powerOfTwo (exponent : Nat) : Nat :=
  Nat.pow 2 exponent

/-- A power of ten. -/
def powerOfTen (exponent : Nat) : Nat :=
  Nat.pow 10 exponent

/-- The bits of a double precision number: sign, eleven exponent bits, and
fifty-two fraction bits, from the highest down. -/
structure Binary64 where
  bits : UInt64
deriving DecidableEq, Repr, Inhabited

namespace Binary64

/-- The pattern below the sign bit. -/
def magnitude (x : Binary64) : Nat :=
  x.bits.toNat % powerOfTwo 63

/-- Whether the sign bit is set. -/
def isNegative (x : Binary64) : Bool :=
  powerOfTwo 63 ≤ x.bits.toNat

/-- The pattern of positive infinity.  Larger magnitudes are not numbers. -/
def infiniteMagnitude : Nat :=
  2047 * powerOfTwo 52

/-- Whether the pattern stands for no number at all. -/
def isNaN (x : Binary64) : Bool :=
  infiniteMagnitude < x.magnitude

/-- Whether the pattern is one of the two infinities. -/
def isInfinite (x : Binary64) : Bool :=
  x.magnitude = infiniteMagnitude

/-- Whether the pattern is a real number. -/
def isFinite (x : Binary64) : Bool :=
  x.magnitude < infiniteMagnitude

/-- Put a sign on a magnitude below `2 ^ 63`. -/
def ofMagnitude (negative : Bool) (magnitude : Nat) : Binary64 :=
  ⟨UInt64.ofNat (if negative then powerOfTwo 63 + magnitude else magnitude)⟩

/-- Positive infinity. -/
def infinity : Binary64 :=
  ofMagnitude false infiniteMagnitude

/-- Negative infinity. -/
def negativeInfinity : Binary64 :=
  ofMagnitude true infiniteMagnitude

/-- The quiet pattern that stands for every result that is not a number. -/
def nan : Binary64 :=
  ofMagnitude false (2047 * powerOfTwo 52 + powerOfTwo 51)

/-- The coefficient and the power of two of a finite magnitude: the number is
`coefficient * 2 ^ exponent`. -/
def decompose (x : Binary64) : Nat × Int :=
  let biased : Nat := x.magnitude / powerOfTwo 52
  let fraction : Nat := x.magnitude % powerOfTwo 52
  if biased = 0 then (fraction, -1074)
  else (fraction + powerOfTwo 52, (biased : Int) - 1075)

/-- Round a quotient to the nearest integer, a tie to the even one. -/
def divideToNearest (numerator denominator : Nat) : Nat :=
  let quotient := numerator / denominator
  let twice := 2 * (numerator % denominator)
  if twice < denominator then quotient
  else if denominator < twice then quotient + 1
  else if quotient % 2 = 0 then quotient else quotient + 1

/-- Scale a ratio by a power of two that may be negative. -/
def scaleRatio (numerator denominator : Nat) (exponent : Int) : Nat × Nat :=
  if 0 ≤ exponent then (numerator, denominator * powerOfTwo exponent.toNat)
  else (numerator * powerOfTwo (-exponent).toNat, denominator)

/-- The magnitude nearest to a ratio.  The exponent is chosen so that the
coefficient has fifty-three bits, or is the smallest one; adding the
coefficient to the exponent field lets a carry move into that field. -/
def roundMagnitude (numerator denominator : Nat) : Nat :=
  if numerator = 0 then 0
  else
    let guess : Int := (numerator.log2 : Int) - denominator.log2 - 52
    let exponentOf (exponent : Int) : Int :=
      let scaled := scaleRatio numerator denominator exponent
      if scaled.1 < scaled.2 * powerOfTwo 52 then exponent - 1 else exponent
    let exponent := max (exponentOf guess) (-1074)
    let scaled := scaleRatio numerator denominator exponent
    let coefficient := divideToNearest scaled.1 scaled.2
    min ((exponent + 1074).toNat * powerOfTwo 52 + coefficient) infiniteMagnitude

/-- The number nearest to `± numerator / denominator`. -/
def roundRatio (negative : Bool) (numerator denominator : Nat) : Binary64 :=
  ofMagnitude negative (roundMagnitude numerator denominator)

/-- The number nearest to `± coefficient * 10 ^ exponent`.  Exponents far
outside the range are settled by the number of digits alone, which keeps the
powers small. -/
def ofDecimal (negative : Bool) (coefficient : Nat) (exponent : Int) : Binary64 :=
  let digitCount : Int := (Nat.toDigits 10 coefficient).length
  if coefficient = 0 then ofMagnitude negative 0
  else if 400 < exponent + digitCount then ofMagnitude negative infiniteMagnitude
  else if exponent + digitCount < -400 then ofMagnitude negative 0
  else if 0 ≤ exponent then roundRatio negative (coefficient * powerOfTen exponent.toNat) 1
  else roundRatio negative coefficient (powerOfTen (-exponent).toNat)

/-- Numerical equality, in which the two zeros agree, except that all patterns
that are not numbers count as one. -/
def sameNumber (x y : Binary64) : Bool :=
  (x.isNaN && y.isNaN) || x.bits = y.bits || (x.magnitude = 0 && y.magnitude = 0)

end Binary64

end ManifestLint.Number
