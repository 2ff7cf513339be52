import ManifestLint.Number.Digits

/-!
# Quoted strings

Strings between double quotes have escapes, those between single quotes have
none.  Three quotes bound a string of several lines, which starts behind the
line break that follows the quotes, and in which up to two quotes in a row stand
for themselves.
-/

namespace ManifestLint.Toml

open ManifestLint.Number (ofDigits?)

/-- Characters that stand for themselves: no control characters but the tab. -/
def isPlain (c : Char) : Bool :=
  c = '\t' || (0x20 ≤ c.toNat && c.toNat != 0x7f)

/-- Drop spaces and tabs. -/
def dropBlanks (text : List Char) : List Char :=
  text.dropWhile fun c => c = ' ' || c = '\t'

/-- What follows a line break. -/
def dropBreak? : List Char → Option (List Char)
  | '\n' :: rest => some rest
  | '\r' :: '\n' :: rest => some rest
  | _ => none

/-- Drop blanks and line breaks. -/
def dropSpace : List Char → List Char
  | [] => []
  | '\r' :: '\n' :: rest => dropSpace rest
  | c :: rest => if c = ' ' || c = '\t' || c = '\n' then dropSpace rest else c :: rest

/-- The characters behind escapes of one letter. -/
def simpleEscapes : List (Char × Char) :=
  [('b', '\x08'), ('t', '\t'), ('n', '\n'), ('f', '\x0c'), ('r', '\r'), ('e', '\x1b'),
    ('"', '"'), ('\\', '\\')]

/-- The character whose code is written with so many hexadecimal digits. -/
def readCode (count : Nat) (text : List Char) : Option (Char × List Char) := do
  let digits := text.take count
  let code ← if digits.length = count then ofDigits? 16 digits else none
  if code < 0xD800 || (0xE000 ≤ code && code < 0x110000) then
    some (Char.ofNat code, text.drop count)
  else none

/-- The character of an escape, whose backslash is read. -/
def readEscape : List Char → Option (Char × List Char)
  | [] => none
  | c :: rest =>
      if c = 'x' then readCode 2 rest
      else if c = 'u' then readCode 4 rest
      else if c = 'U' then readCode 8 rest
      else (simpleEscapes.lookup c).map fun decoded => (decoded, rest)

/-- What follows a backslash that joins lines: all blanks and line breaks. -/
def dropJoint? (text : List Char) : Option (List Char) :=
  (dropBreak? (dropBlanks text)).map dropSpace

/-- The rest of a string of one line, behind its opening quote. -/
def readShort (quote : Char) : Nat → List Char → Option (List Char × List Char)
  | 0, _ => none
  | _ + 1, [] => none
  | fuel + 1, c :: rest =>
      if c = quote then some ([], rest)
      else if c = '\\' && quote = '"' then do
        let (decoded, rest) ← readEscape rest
        let (chars, rest) ← readShort quote fuel rest
        return (decoded :: chars, rest)
      else if isPlain c then do
        let (chars, rest) ← readShort quote fuel rest
        return (c :: chars, rest)
      else none

/-- The rest of a string of several lines, behind its opening quotes. -/
def readLong (quote : Char) : Nat → List Char → Option (List Char × List Char)
  | 0, _ => none
  | _ + 1, [] => none
  | fuel + 1, c :: rest =>
      if c = quote then
        let count := min 5 ((c :: rest).takeWhile (· = quote)).length
        let behind := (c :: rest).drop count
        if 3 ≤ count then some (List.replicate (count - 3) quote, behind)
        else do
          let (chars, rest) ← readLong quote fuel behind
          return (List.replicate count quote ++ chars, rest)
      else if c = '\\' && quote = '"' then
        match dropJoint? rest with
        | some rest => readLong quote fuel rest
        | none => do
            let (decoded, rest) ← readEscape rest
            let (chars, rest) ← readLong quote fuel rest
            return (decoded :: chars, rest)
      else if isPlain c || c = '\n' || (c = '\r' && rest.head? = some '\n') then do
        let (chars, rest) ← readLong quote fuel rest
        return (c :: chars, rest)
      else none

/-- A string of one line, which starts here. -/
def readQuoted (text : List Char) : Option (String × List Char) :=
  match text with
  | [] => none
  | quote :: rest =>
      if quote = '"' || quote = '\x27' then
        (readShort quote text.length rest).map fun result => (String.ofList result.1, result.2)
      else none

/-- A string of one or of several lines, which starts here. -/
def readString (text : List Char) : Option (String × List Char) :=
  match text with
  | first :: second :: third :: rest =>
      if (first = '"' || first = '\x27') && second = first && third = first then
        let body := (dropBreak? rest).getD rest
        (readLong first text.length body).map fun result => (String.ofList result.1, result.2)
      else readQuoted text
  | _ => readQuoted text

end ManifestLint.Toml
