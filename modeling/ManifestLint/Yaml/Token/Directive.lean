import ManifestLint.Yaml.Token.Tag

/-!
# Directives

A directive takes a line of its own.  It tells the version of the language, or
gives a handle for tags its meaning.
-/

namespace ManifestLint.Yaml

/-- The number of digits that a version number may have. -/
def versionDigitLimit : Nat :=
  9

/-- Read a part of a version. -/
def readVersionNumber (start : Mark) (cursor : Cursor) : Except Fault (Nat × Cursor) :=
  let (digits, after) := cursor.span Char.isDigit
  if versionDigitLimit < digits.length then
    misplaced .longVersionNumber (cursor.mark.nextBy versionDigitLimit) .versionDirective start
  else if digits.isEmpty then
    misplaced .expectedVersionNumber after.mark .versionDirective start
  else
    .ok (Number.decimalValue digits, after)

/-- Read a version. -/
def readVersion (start : Mark) (cursor : Cursor) : Except Fault (TokenKind × Cursor) := do
  let (major, cursor) ← readVersionNumber start cursor.skipBlanks
  if cursor.sees (· = '.') then
    let (minor, cursor) ← readVersionNumber start cursor.advance
    return (.version major minor, cursor)
  else misplaced .expectedVersionDot cursor.mark .versionDirective start

/-- Read the handle that a directive defines. -/
def readDefinedHandle (start : Mark) (cursor : Cursor) : Except Fault (String × Cursor) :=
  if cursor.sees (· = '!') then
    let (handle, after) := readHandle cursor
    if isClosedHandle handle || handle.length = 1 then .ok (String.ofList handle, after)
    else misplaced .expectedBang after.mark .tagDirectiveHandleEnd start
  else misplaced .expectedBang cursor.mark .tagDirectiveHandle start

/-- Read the definition of a handle. -/
def readTagDirective (start : Mark) (cursor : Cursor) : Except Fault (TokenKind × Cursor) := do
  let (handle, cursor) ← readDefinedHandle start cursor.skipBlanks
  if !cursor.sees isBlank then misplaced .expectedBlank cursor.mark .tagDirective start
  else
    let (image, cursor) ← readUri ⟨true, .tagDirectiveUri, start⟩ [] cursor.skipBlanks
    if cursor.atWordEnd then return (.tagDirective handle image, cursor)
    else misplaced .expectedWordEnd cursor.mark .tagDirective start

/-- Read what follows the name of a directive. -/
def readDirectiveValue (name : List Char) (start : Mark) (cursor : Cursor) :
    Except Fault (TokenKind × Cursor) :=
  if name = "YAML".toList then readVersion start cursor
  else if name = "TAG".toList then readTagDirective start cursor
  else misplaced .unknownDirective cursor.mark .directive start

/-- Read a directive, whose percent sign is the next character: its token, the
end of that, and the cursor behind the line. -/
def readDirective (cursor : Cursor) : Except Fault (TokenKind × Mark × Cursor) := do
  let start := cursor.mark
  let (name, after) := cursor.advance.span isWord
  if name.isEmpty then misplaced .expectedDirectiveName after.mark .directive start
  else if !after.atWordEnd then misplaced .nonAlphabetic after.mark .directive start
  else
    let (kind, after) ← readDirectiveValue name start after
    let line := after.skipBlanks.skipComment
    if line.atLineEnd then return (kind, after.mark, line.skipBreak)
    else misplaced .expectedLineEnd line.mark .directive start

end ManifestLint.Yaml
