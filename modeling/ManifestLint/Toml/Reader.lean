import ManifestLint.Toml.Fault
import ManifestLint.Toml.Quoted

/-!
# Reading a configuration text

A configuration text is a list of statements.  A header opens a table, or one
more table under a repeated header, and a pair gives the open table a value; at
the start the table of the whole text is open.  No value is given twice.
-/

namespace ManifestLint.Toml

/-! ## Gaps -/

/-- Drop blanks, line breaks, and comments.  The flag tells whether the text is
inside of a comment, in which control characters may not stand. -/
def dropGap (inComment : Bool) : List Char → Option (List Char)
  | [] => some []
  | '\n' :: rest => dropGap false rest
  | '\r' :: '\n' :: rest => dropGap false rest
  | c :: rest =>
      if inComment then if isPlain c then dropGap true rest else none
      else if c = ' ' || c = '\t' then dropGap false rest
      else if c = '#' then dropGap true rest
      else some (c :: rest)

/-- What follows the rest of a line, which may hold a comment and nothing
else. -/
def dropLineEnd? (text : List Char) : Option (List Char) :=
  let text := dropBlanks text
  let rest := if text.head? = some '#' then text.dropWhile isPlain else text
  if rest.isEmpty then some [] else dropBreak? rest

/-! ## Keys -/

/-- Characters of keys without quotes. -/
def isKeyChar (c : Char) : Bool :=
  c.isAlphanum || c = '_' || c = '-'

/-- A key without dots. -/
def readKey (text : List Char) : Option (Key × List Char) := do
  let bare := text.takeWhile isKeyChar
  let (name, rest) ←
    if bare.isEmpty then readQuoted text
    else some (String.ofList bare, text.drop bare.length)
  return (⟨name, .between text rest⟩, rest)

/-- Keys with dots between them, the last one apart. -/
def readPath : Nat → List Char → Option (List Key × Key × List Char)
  | 0, _ => none
  | fuel + 1, text => do
      let (key, rest) ← readKey text
      match dropBlanks rest with
      | '.' :: rest =>
          let (path, last, rest) ← readPath fuel (dropBlanks rest)
          return (key :: path, last, rest)
      | _ => return ([], key, rest)

/-! ## Values -/

/-- How deep arrays and tables between brackets may be nested. -/
def nestingLimit : Nat :=
  80

/-- A value that holds no others. -/
def readLeaf (text : List Char) : Option (Value × List Char) := do
  let (value, rest) ←
    match text with
    | [] => none
    | c :: _ =>
        if c = '"' || c = '\x27' then
          (readString text).map fun result => (Scalar.string result.1, result.2)
        else readScalar text
  return (.scalar (.between text rest) value, rest)

mutual

/-- A value, given how many levels it may have. -/
def readValue : Nat → Nat → List Char → Option (Value × List Char)
  | 0, _, _ => none
  | fuel + 1, levels, text =>
      match text, levels with
      | '[' :: rest, levels + 1 => do
          let (items, rest) ← readItems fuel levels rest
          return (.array (.between text rest) items, rest)
      | '\x7b' :: rest, levels + 1 => do
          let (entries, rest) ← readPairs fuel levels rest []
          return (.table (.between text rest) .inline entries, rest)
      | text, _ => readLeaf text

/-- The items of an array up to its closing bracket; a comma may follow the last
one. -/
def readItems : Nat → Nat → List Char → Option (List Value × List Char)
  | 0, _, _ => none
  | fuel + 1, levels, text => do
      match ← dropGap false text with
      | ']' :: rest => return ([], rest)
      | text =>
          let (item, rest) ← readValue fuel levels text
          match ← dropGap false rest with
          | ']' :: rest => return ([item], rest)
          | ',' :: rest =>
              let (items, rest) ← readItems fuel levels rest
              return (item :: items, rest)
          | _ => none

/-- The entries of a table up to its closing brace, added to those before them; a
comma may follow the last one. -/
def readPairs : Nat → Nat → List Char → Entries → Option (Entries × List Char)
  | 0, _, _, _ => none
  | fuel + 1, levels, text, entries => do
      match ← dropGap false text with
      | '\x7d' :: rest => return (entries, rest)
      | text =>
          let (path, key, rest) ← readPath text.length text
          let rest ← dropChar? '=' (dropBlanks rest)
          let (value, rest) ← readValue fuel levels (dropBlanks rest)
          let entries ← within .dotted (define key.name value) path entries
          match ← dropGap false rest with
          | '\x7d' :: rest => return (entries, rest)
          | ',' :: rest => readPairs fuel levels rest entries
          | _ => none

end

/-! ## Statements -/

/-- What is read so far: the path to the open table, and all entries. -/
structure Progress where
  current : List Key
  entries : Entries

namespace Progress

/-- Read a header, whose brackets start here. -/
def readHeader (progress : Progress) (text : List Char) : Option (Progress × List Char) := do
  let repeated := text.take 2 = ['[', '[']
  let count := if repeated then 2 else 1
  let (path, key, rest) ← readPath text.length (dropBlanks (text.drop count))
  let rest := dropBlanks rest
  let behind := rest.drop count
  if rest.take count = List.replicate count ']' then
    let span := Span.between text behind
    let opening := if repeated then openElement key.name span else openTable key.name span
    let entries ← within .header opening path progress.entries
    return (⟨path ++ [key], entries⟩, behind)
  else none

/-- Read a key and its value, which start here. -/
def readPair (progress : Progress) (text : List Char) : Option (Progress × List Char) := do
  let (path, key, rest) ← readPath text.length text
  let rest ← dropChar? '=' (dropBlanks rest)
  let (value, rest) ← readValue (2 * rest.length + 2) nestingLimit (dropBlanks rest)
  let change := within .dotted (define key.name value) path
  let entries ← within .header change progress.current progress.entries
  return ({ progress with entries }, rest)

/-- Read a statement and the rest of its line. -/
def readStatement (progress : Progress) (text : List Char) :
    Option (Progress × List Char) := do
  let (progress, rest) ←
    if text.head? = some '[' then progress.readHeader text else progress.readPair text
  return (progress, ← dropLineEnd? rest)

end Progress

/-- The place from here to the end of the line. -/
def lineSpan (text : List Char) : Span where
  remaining := text.length
  octets := octetCount (text.takeWhile (· != '\n'))

/-- Read all statements of a text; each takes at least one character. -/
def readStatements : Nat → Progress → List Char → Except Fault Entries
  | 0, _, text => .error ⟨lineSpan text, .grammar⟩
  | fuel + 1, progress, text =>
      match dropGap false text with
      | none => .error ⟨lineSpan text, .grammar⟩
      | some [] => .ok progress.entries
      | some start =>
          match progress.readStatement start with
          | none => .error ⟨lineSpan start, .grammar⟩
          | some (progress, rest) => readStatements fuel progress rest

/-- The entries of the table that a text stands for.  A byte order mark at the
start does not count. -/
def read (text : String) : Except Fault Entries :=
  let chars := text.toList
  let body := if chars.head? = some '\ufeff' then chars.drop 1 else chars
  readStatements (body.length + 1) ⟨[], []⟩ body

end ManifestLint.Toml
