import ManifestLint.Yaml.Token.Fold
import ManifestLint.Number.Digits

/-!
# Quoted scalars

Lines fold as in plain scalars, but blanks are kept next to the quotes.  Between
single quotes two of them stand for one; between double quotes a backslash
starts an escape, and escapes a line break.
-/

namespace ManifestLint.Yaml

/-- The character that a one-letter escape stands for. -/
def shortEscape? (c : Char) : Option Char :=
  match c with
  | '0' => some '\x00'
  | 'a' => some '\x07'
  | 'b' => some '\x08'
  | 't' => some '\t'
  | '\t' => some '\t'
  | 'n' => some '\n'
  | 'v' => some '\x0b'
  | 'f' => some '\x0c'
  | 'r' => some '\r'
  | 'e' => some '\x1b'
  | ' ' => some ' '
  | '"' => some '"'
  | '/' => some '/'
  | '\\' => some '\\'
  | 'N' => some '\u0085'
  | '_' => some '\u00a0'
  | 'L' => some '\u2028'
  | 'P' => some '\u2029'
  | _ => none

/-- The character of an escape by code point whose digits stand at a place. -/
def codePointEscape (start mark : Mark) (digits : List Char) : Except Fault Char :=
  match Number.ofDigits? 16 digits with
  | none => misplaced .expectedHexadecimal mark .quotedEscape start
  | some code =>
      if (0xD800 ≤ code && code ≤ 0xDFFF) || 0x10FFFF < code then
        misplaced .badCodePoint mark .quotedEscape start
      else .ok (Char.ofNat code)

/-- Move a place over some characters of a line. -/
def Mark.nextBy (mark : Mark) (count : Nat) : Mark :=
  ⟨mark.index + count, mark.line, mark.column + count⟩

/-- Read on behind the given text, which is reversed, and a gap.  `quote` is the
character that closes the scalar. -/
def quotedRest (quote : Char) (start : Mark) (text : List Char) (gap : Gap)
    (rest : List Char) (mark : Mark) : Except Fault (String × Cursor) :=
  let joined := gap.folded ++ text
  match rest with
  | [] => misplaced .endOfStream mark .quotedScalar start
  | '\r' :: '\n' :: rest =>
      quotedRest quote start text (gap.addBreak '\n') rest (mark.nextLine 2)
  | c :: rest =>
      if isBreak c then
        quotedRest quote start text (gap.addBreak c) rest (mark.nextLine 1)
      else if isBlank c then
        quotedRest quote start text (gap.addBlank c) rest mark.next
      else if mark.column = 0 && startsIndicator (c :: rest) then
        misplaced .documentIndicator mark .quotedScalar start
      else if c = '\'' && quote = '\'' then
        match rest with
        | '\'' :: rest => quotedRest quote start ('\'' :: joined) .none rest (mark.nextBy 2)
        | rest => .ok (String.ofList joined.reverse, ⟨rest, mark.next⟩)
      else if c = '"' && quote = '"' then
        .ok (String.ofList joined.reverse, ⟨rest, mark.next⟩)
      else if c = '\\' && quote = '"' then
        match rest with
        | '\r' :: '\n' :: rest =>
            quotedRest quote start joined (.breaks [] []) rest (mark.next.nextLine 2)
        | 'x' :: a :: b :: rest => do
            let decoded ← codePointEscape start (mark.nextBy 2) [a, b]
            quotedRest quote start (decoded :: joined) .none rest (mark.nextBy 4)
        | 'u' :: a :: b :: c :: d :: rest => do
            let decoded ← codePointEscape start (mark.nextBy 2) [a, b, c, d]
            quotedRest quote start (decoded :: joined) .none rest (mark.nextBy 6)
        | 'U' :: a :: b :: c :: d :: e :: f :: g :: h :: rest => do
            let decoded ← codePointEscape start (mark.nextBy 2) [a, b, c, d, e, f, g, h]
            quotedRest quote start (decoded :: joined) .none rest (mark.nextBy 10)
        | e :: rest =>
            if isBreak e then
              quotedRest quote start joined (.breaks [] []) rest (mark.next.nextLine 1)
            else if e = 'x' || e = 'u' || e = 'U' then
              misplaced .expectedHexadecimal (mark.nextBy 2) .quotedEscape start
            else
              match shortEscape? e with
              | some decoded =>
                  quotedRest quote start (decoded :: joined) .none rest (mark.nextBy 2)
              | none => misplaced .unknownEscape mark .quotedEscape start
        | [] => misplaced .unknownEscape mark .quotedEscape start
      else quotedRest quote start (c :: joined) .none rest mark.next
termination_by structural rest

/-- Read a quoted scalar, whose opening quote is the next character. -/
def readQuoted (quote : Char) (cursor : Cursor) : Except Fault (String × Cursor) :=
  quotedRest quote cursor.mark [] .none (cursor.rest.drop 1) cursor.mark.next

end ManifestLint.Yaml
