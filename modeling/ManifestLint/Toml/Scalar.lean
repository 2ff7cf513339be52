import ManifestLint.Number.Digits

/-!
# Scalars without quotes

The booleans, numbers, dates, and times of a configuration text.  An underscore
may stand between two digits of a number, and a decimal number has no leading
zero.  Dates and times are checked but not kept, because nothing asks for them.
-/

namespace ManifestLint.Toml

open ManifestLint.Number (Binary64 spanSign decimalValue numeral? digitValue?)

/-- A value that is neither an array nor a table. -/
inductive Scalar where
  | string (value : String)
  | integer (value : Int)
  /-- No number stands for one that is out of range. -/
  | float (value : Option Binary64)
  | boolean (value : Bool)
  /-- A date, a time, or both. -/
  | moment
deriving DecidableEq, Repr

/-! ## Numbers -/

/-- At least one digit, without the underscores that stand between digits. -/
def ungroup? (isDigit : Char → Bool) : List Char → Option (List Char)
  | [] => none
  | [c] => if isDigit c then some [c] else none
  | c :: '_' :: rest => if isDigit c then (ungroup? isDigit rest).map (c :: ·) else none
  | c :: rest => if isDigit c then (ungroup? isDigit rest).map (c :: ·) else none

/-- The number that digits of a base denote. -/
def grouped? (radix : Nat) (text : List Char) : Option Nat := do
  let digits ← ungroup? (fun c => (digitValue? radix c).isSome) text
  numeral? radix digits

/-- Decimal digits without a superfluous zero. -/
def wholeDigits? (text : List Char) : Option (List Char) := do
  let digits ← ungroup? Char.isDigit text
  if 1 < digits.length && digits.head? = some '0' then none else some digits

/-- The integer that a text spells.  A base other than ten has no sign. -/
def integer? (text : List Char) : Option Int :=
  match text with
  | '0' :: 'x' :: digits => (grouped? 16 digits).map Int.ofNat
  | '0' :: 'o' :: digits => (grouped? 8 digits).map Int.ofNat
  | '0' :: 'b' :: digits => (grouped? 2 digits).map Int.ofNat
  | text => do
      let (sign, rest) := spanSign text
      let digits ← wholeDigits? rest
      let size : Int := decimalValue digits
      return if sign = some true then -size else size

/-- The exponent that a text spells, without its letter. -/
def power? (text : List Char) : Option Int := do
  let (sign, rest) := spanSign text
  let digits ← ungroup? Char.isDigit rest
  let size : Int := decimalValue digits
  return if sign = some true then -size else size

/-- The decimal number that an unsigned text spells: it has a fraction, an
exponent, or both. -/
def decimal? (text : List Char) : Option (Nat × Int) := do
  let mantissa := text.takeWhile fun c => c != 'e' && c != 'E'
  let exponent := text.drop mantissa.length
  let whole := mantissa.takeWhile (· != '.')
  let fraction := mantissa.drop whole.length
  if fraction.isEmpty && exponent.isEmpty then none
  else
    let digits ← wholeDigits? whole
    let places ← if fraction.isEmpty then some [] else ungroup? Char.isDigit (fraction.drop 1)
    let power ← if exponent.isEmpty then some 0 else power? (exponent.drop 1)
    return (decimalValue (digits ++ places), power - places.length)

/-- The floating point number that a text spells; none stands for one that is
out of range. -/
def float? (text : List Char) : Option (Option Binary64) := do
  let (sign, rest) := spanSign text
  let negative := sign = some true
  if rest = "inf".toList then
    return some (if negative then Binary64.negativeInfinity else Binary64.infinity)
  else if rest = "nan".toList then return some Binary64.nan
  else
    let (coefficient, exponent) ← decimal? rest
    let number := Binary64.ofDecimal negative coefficient exponent
    return if number.isFinite then some number else none

/-! ## Dates and times -/

/-- A number of so many digits, and what follows it. -/
def readDigits (count : Nat) (text : List Char) : Option (Nat × List Char) :=
  let digits := text.take count
  if digits.length = count && digits.all Char.isDigit then
    some (decimalValue digits, text.drop count)
  else none

/-- What follows a character that has to come next. -/
def dropChar? (expected : Char) : List Char → Option (List Char)
  | [] => none
  | c :: rest => if c = expected then some rest else none

/-- The number of days of a month. -/
def daysIn (year month : Nat) : Nat :=
  if month = 2 then
    if year % 4 = 0 && (year % 100 != 0 || year % 400 = 0) then 29 else 28
  else if month = 4 || month = 6 || month = 9 || month = 11 then 30
  else 31

/-- What follows a date. -/
def dropDate? (text : List Char) : Option (List Char) := do
  let (year, rest) ← readDigits 4 text
  let rest ← dropChar? '-' rest
  let (month, rest) ← readDigits 2 rest
  let rest ← dropChar? '-' rest
  let (day, rest) ← readDigits 2 rest
  if 1 ≤ month && month ≤ 12 && 1 ≤ day && day ≤ daysIn year month then some rest else none

/-- What follows the fraction of a second, if there is one. -/
def dropFraction? : List Char → Option (List Char)
  | '.' :: c :: rest => if c.isDigit then some (rest.dropWhile Char.isDigit) else none
  | '.' :: [] => none
  | rest => some rest

/-- What follows the seconds, if there are any. -/
def dropSeconds? : List Char → Option (List Char)
  | ':' :: rest => do
      let (second, rest) ← readDigits 2 rest
      if second ≤ 60 then dropFraction? rest else none
  | rest => some rest

/-- What follows hours and minutes. -/
def dropMinutes? (text : List Char) : Option (List Char) := do
  let (hour, rest) ← readDigits 2 text
  let rest ← dropChar? ':' rest
  let (minute, rest) ← readDigits 2 rest
  if hour ≤ 23 && minute ≤ 59 then some rest else none

/-- Whether a text is a time of day. -/
def isTime (text : List Char) : Bool :=
  ((dropMinutes? text).bind dropSeconds?) = some []

/-- Whether a text is empty or an offset from universal time. -/
def isOffset : List Char → Bool
  | [] => true
  | ['Z'] => true
  | ['z'] => true
  | '+' :: rest => dropMinutes? rest = some []
  | '-' :: rest => dropMinutes? rest = some []
  | _ => false

/-- Whether a text is a time of day, perhaps with an offset. -/
def isOffsetTime (text : List Char) : Bool :=
  ((dropMinutes? text).bind dropSeconds?).any isOffset

/-- Whether a text is a date and nothing else. -/
def isDate (text : List Char) : Bool :=
  dropDate? text = some []

/-- Whether a text is a date and a time, with a letter between them. -/
def isDateTime (text : List Char) : Bool :=
  match dropDate? text with
  | some (c :: rest) => (c = 'T' || c = 't') && isOffsetTime rest
  | _ => false

/-! ## Scalars -/

/-- The scalar that a text spells. -/
def Scalar.ofText? (text : List Char) : Option Scalar :=
  if text = "true".toList then some (.boolean true)
  else if text = "false".toList then some (.boolean false)
  else
    match integer? text, float? text with
    | some value, _ => some (.integer value)
    | none, some value => some (.float value)
    | none, none => if isDate text || isTime text || isDateTime text then some .moment else none

/-- Whether a character may be part of a scalar without quotes. -/
def isScalarChar (c : Char) : Bool :=
  !(c = ' ' || c = '\t' || c = '\n' || c = '\r' || c = '#' || c = ',' || c = ']' || c = '\x7d')

/-- A scalar without quotes, and what follows it.  A blank may stand between a
date and a time. -/
def readScalar (text : List Char) : Option (Scalar × List Char) :=
  let word := text.takeWhile isScalarChar
  let rest := text.drop word.length
  match rest with
  | ' ' :: c :: behind =>
      if isDate word && c.isDigit then
        let time := (c :: behind).takeWhile isScalarChar
        if isOffsetTime time then some (.moment, (c :: behind).drop time.length) else none
      else (Scalar.ofText? word).map fun scalar => (scalar, rest)
  | rest => (Scalar.ofText? word).map fun scalar => (scalar, rest)

end ManifestLint.Toml
