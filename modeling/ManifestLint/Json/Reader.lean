import ManifestLint.Json.Value
import ManifestLint.Number.Digits

/-!
# Reading JSON

A reader for the whole of the JSON grammar.  A number without a fraction and an
exponent is an integer if it fits a word of sixty-four bits; every other number,
and a negative zero, is the nearest binary64 number.
-/

namespace ManifestLint.Json

open ManifestLint.Number (ofDigits? spanDigits spanSign decimalValue)

/-- Drop blanks and line breaks. -/
def dropBlanks : List Char → List Char
  | [] => []
  | c :: rest =>
      if c = ' ' || c = '\n' || c = '\r' || c = '\t' then dropBlanks rest else c :: rest

/-- Drop a fixed word. -/
def dropWord : List Char → List Char → Option (List Char)
  | [], rest => some rest
  | _ :: _, [] => none
  | w :: word, c :: rest => if w = c then dropWord word rest else none

/-- Four hexadecimal digits. -/
def readUnit : List Char → Option (Nat × List Char)
  | a :: b :: c :: d :: rest => (ofDigits? 16 [a, b, c, d]).map fun unit => (unit, rest)
  | _ => none

/-- The character of a `u` escape, whose first digits are the next ones.  A high
surrogate needs a low one behind it. -/
def readEscapedUnit (text : List Char) : Option (Char × List Char) := do
  let (unit, rest) ← readUnit text
  if 0xD800 ≤ unit && unit < 0xDC00 then
    match rest with
    | '\\' :: 'u' :: rest =>
        let (low, rest) ← readUnit rest
        if 0xDC00 ≤ low && low < 0xE000 then
          some (Char.ofNat (0x10000 + 0x400 * (unit - 0xD800) + (low - 0xDC00)), rest)
        else none
    | _ => none
  else if 0xDC00 ≤ unit && unit < 0xE000 then none
  else some (Char.ofNat unit, rest)

/-- The character of an escape other than `u`. -/
def simpleEscape? (c : Char) : Option Char :=
  match c with
  | '"' => some '"'
  | '\\' => some '\\'
  | '/' => some '/'
  | 'b' => some '\x08'
  | 'f' => some '\x0c'
  | 'n' => some '\n'
  | 'r' => some '\r'
  | 't' => some '\t'
  | _ => none

/-- The rest of a string behind its opening quote. -/
def readStringRest : Nat → List Char → Option (List Char × List Char)
  | 0, _ => none
  | _ + 1, [] => none
  | fuel + 1, c :: rest =>
      if c = '"' then some ([], rest)
      else if c = '\\' then
        match rest with
        | [] => none
        | e :: rest =>
            if e = 'u' then do
              let (decoded, rest) ← readEscapedUnit rest
              let (chars, rest) ← readStringRest fuel rest
              some (decoded :: chars, rest)
            else do
              let decoded ← simpleEscape? e
              let (chars, rest) ← readStringRest fuel rest
              some (decoded :: chars, rest)
      else if c.toNat < 0x20 then none
      else do
        let (chars, rest) ← readStringRest fuel rest
        some (c :: chars, rest)

/-- A string, whose opening quote is the next character. -/
def readString (fuel : Nat) : List Char → Option (String × List Char)
  | '"' :: rest =>
      (readStringRest fuel rest).map fun result => (String.ofList result.1, result.2)
  | _ => none

/-- The digits of a fraction, if there is a point. -/
def readFraction : List Char → Option (Option (List Char) × List Char)
  | '.' :: rest =>
      let (digits, rest) := spanDigits rest
      if digits.isEmpty then none else some (some digits, rest)
  | rest => some (none, rest)

/-- The exponent, if there is one. -/
def readExponent : List Char → Option (Option Int × List Char)
  | [] => some (none, [])
  | e :: rest =>
      if e = 'e' || e = 'E' then
        let (sign, rest) := spanSign rest
        let (digits, rest) := spanDigits rest
        if digits.isEmpty then none
        else
          let size : Int := decimalValue digits
          some (some (if sign = some true then -size else size), rest)
      else some (none, e :: rest)

/-- The number with the given parts. -/
def assembleNumber (negative : Bool) (whole : List Char) (fraction : Option (List Char))
    (exponent : Option Int) : Number :=
  match fraction, exponent with
  | none, none =>
      let size : Int := decimalValue whole
      let value := if negative then -size else size
      if Number.isWord value && !(negative && value = 0) then .integer value
      else .float (Number.Binary64.ofDecimal negative (decimalValue whole) 0)
  | fraction, exponent =>
      let places := fraction.getD []
      .float (Number.Binary64.ofDecimal negative (decimalValue (whole ++ places))
        (exponent.getD 0 - places.length))

/-- A number. -/
def readNumber (text : List Char) : Option (Number × List Char) := do
  let (negative, rest) := match text with
    | '-' :: rest => (true, rest)
    | rest => (false, rest)
  let (whole, rest) := spanDigits rest
  if whole.isEmpty || (1 < whole.length && whole.head? = some '0') then none
  else
    let (fraction, rest) ← readFraction rest
    let (exponent, rest) ← readExponent rest
    some (assembleNumber negative whole fraction exponent, rest)

mutual

/-- A value, and what follows it. -/
def readValue : Nat → List Char → Option (Json × List Char)
  | 0, _ => none
  | fuel + 1, text =>
      match dropBlanks text with
      | [] => none
      | c :: rest =>
          if c = '\x7b' then
            match dropBlanks rest with
            | '\x7d' :: rest => some (.object [], rest)
            | rest => (readMembers fuel rest).map fun result => (.object result.1, result.2)
          else if c = '[' then
            match dropBlanks rest with
            | ']' :: rest => some (.array [], rest)
            | rest => (readItems fuel rest).map fun result => (.array result.1, result.2)
          else if c = '"' then
            (readString (fuel + 1) (c :: rest)).map fun result => (.string result.1, result.2)
          else if c = 'n' then (dropWord "ull".toList rest).map fun rest => (.null, rest)
          else if c = 't' then (dropWord "rue".toList rest).map fun rest => (.bool true, rest)
          else if c = 'f' then (dropWord "alse".toList rest).map fun rest => (.bool false, rest)
          else (readNumber (c :: rest)).map fun result => (.number result.1, result.2)

/-- The items of an array up to its closing bracket. -/
def readItems : Nat → List Char → Option (List Json × List Char)
  | 0, _ => none
  | fuel + 1, text => do
      let (item, rest) ← readValue fuel text
      match dropBlanks rest with
      | ']' :: rest => some ([item], rest)
      | ',' :: rest =>
          let (items, rest) ← readItems fuel rest
          some (item :: items, rest)
      | _ => none

/-- The members of an object up to its closing brace. -/
def readMembers : Nat → List Char → Option (List (String × Json) × List Char)
  | 0, _ => none
  | fuel + 1, text => do
      let (name, rest) ← readString (fuel + 1) (dropBlanks text)
      match dropBlanks rest with
      | ':' :: rest =>
          let (value, rest) ← readValue fuel rest
          match dropBlanks rest with
          | '\x7d' :: rest => some ([(name, value)], rest)
          | ',' :: rest =>
              let (members, rest) ← readMembers fuel rest
              some ((name, value) :: members, rest)
          | _ => none
      | _ => none

end

/-- Read a document that holds one value and nothing else.  Each character is
met by at most two nested calls, which the fuel allows for. -/
def read (text : String) : Option Json :=
  let chars := text.toList
  match readValue (2 * chars.length + 2) chars with
  | some (value, rest) => if (dropBlanks rest).isEmpty then some value else none
  | none => none

end ManifestLint.Json
