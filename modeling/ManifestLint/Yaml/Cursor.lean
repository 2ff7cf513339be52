/-!
# Positions in a text

A cursor is the rest of a text together with the place where it starts.  Lines
end at a carriage return, a line feed, both together, and the Unicode line
separators; columns and indices count characters.
-/

namespace ManifestLint.Yaml

/-- A place in a text, counted from zero. -/
structure Mark where
  index : Nat
  line : Nat
  column : Nat
deriving DecidableEq, Repr, Inhabited

namespace Mark

/-- The start of a text. -/
def start : Mark :=
  ⟨0, 0, 0⟩

/-- The place behind a character that does not end the line. -/
def next (mark : Mark) : Mark :=
  ⟨mark.index + 1, mark.line, mark.column + 1⟩

/-- The start of the next line behind a line break of the given length. -/
def nextLine (mark : Mark) (length : Nat) : Mark :=
  ⟨mark.index + length, mark.line + 1, 0⟩

/-- Whether this is the start of the text, which messages leave out. -/
def isStart (mark : Mark) : Bool :=
  mark.line = 0 && mark.column = 0

/-- The place as messages name it, counted from one. -/
def text (mark : Mark) : String :=
  "line " ++ toString (mark.line + 1) ++ " column " ++ toString (mark.column + 1)

/-- The place behind a message, unless it is the start of the text. -/
def suffix (mark : Mark) : String :=
  if mark.isStart then "" else " at " ++ mark.text

end Mark

/-! ## Classes of characters -/

/-- Spaces and tabs. -/
def isBlank (c : Char) : Bool :=
  c = ' ' || c = '\t'

/-- Characters that end a line. -/
def isBreak (c : Char) : Bool :=
  c = '\n' || c = '\r' || c = '\u0085' || c = '\u2028' || c = '\u2029'

/-- Characters of names: letters, digits, the underscore, and the hyphen. -/
def isWord (c : Char) : Bool :=
  c.isAlphanum || c = '_' || c = '-'

/-- Whether a text starts with a blank or a line break, or is at its end. -/
def endsWord : List Char → Bool
  | [] => true
  | c :: _ => isBlank c || isBreak c

/-- Whether the first character of a text is one of a class. -/
def startsWith (p : Char → Bool) : List Char → Bool
  | [] => false
  | c :: _ => p c

/-- Whether three hyphens or three points stand here as a word, which at the
start of a line bounds a document. -/
def startsIndicator : List Char → Bool
  | '-' :: '-' :: '-' :: rest => endsWord rest
  | '.' :: '.' :: '.' :: rest => endsWord rest
  | _ => false

/-- The character that stands for a line break in a scalar. -/
def normalizeBreak (c : Char) : Char :=
  if c = '\u2028' || c = '\u2029' then c else '\n'

/-! ## Cursors -/

/-- The rest of a text and its place. -/
structure Cursor where
  rest : List Char
  mark : Mark
deriving Repr, Inhabited

namespace Cursor

/-- The cursor behind one character that does not end the line. -/
def advance (cursor : Cursor) : Cursor :=
  ⟨cursor.rest.drop 1, cursor.mark.next⟩

/-- The cursor behind some characters that do not end the line. -/
def advanceBy (count : Nat) (cursor : Cursor) : Cursor :=
  ⟨cursor.rest.drop count,
    ⟨cursor.mark.index + count, cursor.mark.line, cursor.mark.column + count⟩⟩

/-- The cursor behind the line break that starts here, if there is one. -/
def skipBreak (cursor : Cursor) : Cursor :=
  match cursor.rest with
  | '\r' :: '\n' :: rest => ⟨rest, cursor.mark.nextLine 2⟩
  | c :: rest => if isBreak c then ⟨rest, cursor.mark.nextLine 1⟩ else cursor
  | [] => cursor

/-- The text before the first character outside a class, and the cursor there.
The class has no line breaks. -/
def span (p : Char → Bool) (cursor : Cursor) : List Char × Cursor :=
  let taken := cursor.rest.takeWhile p
  (taken, cursor.advanceBy taken.length)

/-- The cursor at the first character outside a class. -/
def skipWhile (p : Char → Bool) (cursor : Cursor) : Cursor :=
  (cursor.span p).2

/-- The cursor behind blanks. -/
def skipBlanks (cursor : Cursor) : Cursor :=
  cursor.skipWhile isBlank

/-- The cursor at the end of the line. -/
def skipLine (cursor : Cursor) : Cursor :=
  cursor.skipWhile fun c => !isBreak c

/-- The cursor behind a comment that starts here. -/
def skipComment (cursor : Cursor) : Cursor :=
  if startsWith (· = '#') cursor.rest then cursor.skipLine else cursor

/-- Whether the cursor is at a blank, a line break, or the end. -/
def atWordEnd (cursor : Cursor) : Bool :=
  endsWord cursor.rest

/-- Whether the cursor is at a line break or the end. -/
def atLineEnd (cursor : Cursor) : Bool :=
  match cursor.rest with
  | [] => true
  | c :: _ => isBreak c

/-- Whether the next character is one of a class. -/
def sees (cursor : Cursor) (p : Char → Bool) : Bool :=
  startsWith p cursor.rest

end Cursor

end ManifestLint.Yaml
