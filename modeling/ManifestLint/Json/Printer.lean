import ManifestLint.Json.Value

/-!
# Printing JSON

Every member and item stands on a line of its own, indented by two spaces for
each level; an empty array or object is written without a line break.  Strings
escape the quote, the backslash, and controls, and leave everything else as it
is.
-/

namespace ManifestLint.Json

/-- The low hexadecimal digit of a number. -/
def hexDigit (n : Nat) : Char :=
  (Nat.digitChar (n % 16))

/-- One character inside a JSON string. -/
def escapeChar (c : Char) : List Char :=
  if c = '"' then ['\\', '"']
  else if c = '\\' then ['\\', '\\']
  else if c = '\n' then ['\\', 'n']
  else if c = '\r' then ['\\', 'r']
  else if c = '\t' then ['\\', 't']
  else if c = '\x08' then ['\\', 'b']
  else if c = '\x0c' then ['\\', 'f']
  else if c.toNat < 0x20 then
    ['\\', 'u', '0', '0', hexDigit (c.toNat / 16), hexDigit c.toNat]
  else [c]

/-- A JSON string. -/
def stringText (text : String) : List Char :=
  '"' :: (text.toList.flatMap escapeChar ++ ['"'])

/-- The text of a number. -/
def numberText : Number → List Char
  | .integer value => (toString value).toList
  | .float value => value.compactText.toList

/-- A line break and the indentation of a level. -/
def newline (level : Nat) : List Char :=
  '\n' :: List.replicate (2 * level) ' '

mutual

/-- The text of a value whose first line stands at the given level. -/
def render (level : Nat) : Json → List Char
  | .null => "null".toList
  | .bool true => "true".toList
  | .bool false => "false".toList
  | .number value => numberText value
  | .string text => stringText text
  | .array [] => ['[', ']']
  | .array (item :: items) =>
      '[' :: newline (level + 1) ++ render (level + 1) item ++
        renderItems (level + 1) items ++ newline level ++ [']']
  | .object [] => ['\x7b', '\x7d']
  | .object (member :: members) =>
      '\x7b' :: newline (level + 1) ++ renderMember (level + 1) member ++
        renderMembers (level + 1) members ++ newline level ++ ['\x7d']

/-- The items behind the first one, each with the comma before it. -/
def renderItems (level : Nat) : List Json → List Char
  | [] => []
  | item :: items => ',' :: newline level ++ render level item ++ renderItems level items

/-- One member of an object. -/
def renderMember (level : Nat) : String × Json → List Char
  | (name, value) => stringText name ++ [':', ' '] ++ render level value

/-- The members behind the first one, each with the comma before it. -/
def renderMembers (level : Nat) : List (String × Json) → List Char
  | [] => []
  | member :: members =>
      ',' :: newline level ++ renderMember level member ++ renderMembers level members

end

/-- The text of a document. -/
def pretty (value : Json) : String :=
  String.ofList (render 0 value)

end ManifestLint.Json
