import ManifestLint.Number.Binary64

/-!
# Numerals

The numbers that digits denote, in any base up to sixteen, and the decimal
numbers with a point and an exponent that data formats share.
-/

namespace ManifestLint.Number

/-- The value of a digit; letters count from ten in either case. -/
def digitValue? (radix : Nat) (c : Char) : Option Nat :=
  let value :=
    if '0' ≤ c && c ≤ '9' then c.toNat - '0'.toNat
    else if 'a' ≤ c && c ≤ 'f' then c.toNat - 'a'.toNat + 10
    else if 'A' ≤ c && c ≤ 'F' then c.toNat - 'A'.toNat + 10
    else radix
  if value < radix then some value else none

/-- The number that some digits denote; no digits denote zero. -/
def ofDigits? (radix : Nat) (digits : List Char) : Option Nat :=
  digits.foldlM (fun value digit => (digitValue? radix digit).map (radix * value + ·)) 0

/-- The number that at least one digit denotes. -/
def numeral? (radix : Nat) (digits : List Char) : Option Nat :=
  if digits.isEmpty then none else ofDigits? radix digits

/-- The number that decimal digits denote. -/
def decimalValue (digits : List Char) : Nat :=
  digits.foldl (fun value digit => 10 * value + (digit.toNat - '0'.toNat)) 0

/-- The leading decimal digits of a text and what follows them. -/
def spanDigits (text : List Char) : List Char × List Char :=
  (text.takeWhile Char.isDigit, text.dropWhile Char.isDigit)

/-- A sign, if there is one. -/
def spanSign : List Char → Option Bool × List Char
  | '+' :: rest => (some false, rest)
  | '-' :: rest => (some true, rest)
  | rest => (none, rest)

/-- The exponent that a text consists of, without its letter. -/
def exponent? (text : List Char) : Option Int :=
  let (sign, digits) := spanSign text
  (numeral? 10 digits).map fun value => if sign = some true then -(value : Int) else value

/-- The unsigned decimal number that a text consists of: digits with perhaps a
point among, before, or behind them, and perhaps an exponent. -/
def decimal? (text : List Char) : Option (Nat × Int) := do
  let (whole, rest) := spanDigits text
  let (places, rest) := match rest with
    | '.' :: rest => spanDigits rest
    | rest => ([], rest)
  if whole.isEmpty && places.isEmpty then none
  else
    let scale : Int := -(places.length : Int)
    match rest with
    | [] => some (decimalValue (whole ++ places), scale)
    | e :: rest =>
        if e = 'e' || e = 'E' then do
          let exponent ← exponent? rest
          some (decimalValue (whole ++ places), exponent + scale)
        else none

end ManifestLint.Number
