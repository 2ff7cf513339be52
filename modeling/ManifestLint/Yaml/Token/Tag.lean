import ManifestLint.Yaml.Token.Quoted

/-!
# Tags, anchors, and aliases

A tag is written between angle brackets, or as a handle and a suffix.  Inside a
tag a percent sign starts an octet in hexadecimal digits; the octets of one
character have to follow each other.
-/

namespace ManifestLint.Yaml

/-- Characters of a tag besides escapes.  Commas and square brackets belong to
it only where brackets or a directive bound the tag. -/
def isUriChar (bounded : Bool) (c : Char) : Bool :=
  isWord c || ";/?:@&=+$.!~*'()".toList.contains c ||
    (bounded && (c = ',' || c = '[' || c = ']'))

/-- The number of octets of a character, by its first one. -/
def octetCount? (octet : Nat) : Option Nat :=
  if octet < 0x80 then some 1
  else if octet < 0xC0 then none
  else if octet < 0xE0 then some 2
  else if octet < 0xF0 then some 3
  else if octet < 0xF8 then some 4
  else none

/-- What the reading of a tag is part of. -/
structure TagContext where
  bounded : Bool
  activity : Activity
  start : Mark

/-- Read the octets of a tag behind those given, which are reversed.  `owed` is
the number of octets that the current character still needs. -/
def uriRest (context : TagContext) (octets : List UInt8) (owed : Nat) (rest : List Char)
    (mark : Mark) : Except Fault (List UInt8 × Cursor) :=
  match rest with
  | '%' :: a :: b :: rest =>
      match Number.ofDigits? 16 [a, b] with
      | none => misplaced .expectedOctet mark context.activity context.start
      | some octet =>
          if owed = 0 then
            match octetCount? octet with
            | none => misplaced .badLeadingOctet mark context.activity context.start
            | some count =>
                uriRest context (UInt8.ofNat octet :: octets) (count - 1) rest (mark.nextBy 3)
          else if 0x80 ≤ octet && octet < 0xC0 then
            uriRest context (UInt8.ofNat octet :: octets) (owed - 1) rest (mark.nextBy 3)
          else misplaced .badTrailingOctet mark context.activity context.start
  | c :: rest =>
      if c = '%' || 0 < owed then misplaced .expectedOctet mark context.activity context.start
      else if isUriChar context.bounded c then
        uriRest context (UInt8.ofNat c.toNat :: octets) 0 rest mark.next
      else .ok (octets.reverse, ⟨c :: rest, mark⟩)
  | [] =>
      if 0 < owed then misplaced .expectedOctet mark context.activity context.start
      else .ok (octets.reverse, ⟨[], mark⟩)
termination_by structural rest

/-- The octets of ASCII text. -/
def asciiOctets (text : List Char) : List UInt8 :=
  text.map fun c => UInt8.ofNat c.toNat

/-- Read the octets of a tag behind its first characters, which the handle has
already taken.  A zero octet ends the tag early. -/
def readUri (context : TagContext) (taken : List Char) (cursor : Cursor) :
    Except Fault (List UInt8 × Cursor) := do
  let (octets, after) ← uriRest context [] 0 cursor.rest cursor.mark
  if octets.isEmpty && taken.isEmpty then
    misplaced .expectedTagUri after.mark context.activity context.start
  else return ((asciiOctets (taken.drop 1) ++ octets).takeWhile (· ≠ 0), after)

/-- Read a handle: an exclamation mark, and perhaps a word and another one. -/
def readHandle (cursor : Cursor) : List Char × Cursor :=
  let (word, after) := cursor.advance.span isWord
  if after.sees (· = '!') then ('!' :: word ++ ['!'], after.advance) else ('!' :: word, after)

/-- Whether a handle ends with a second exclamation mark. -/
def isClosedHandle (handle : List Char) : Bool :=
  2 ≤ handle.length && handle.getLast? = some '!'

/-- Read the parts of a tag, whose exclamation mark is the next character. -/
def readTagParts (start : Mark) (cursor : Cursor) :
    Except Fault (String × List UInt8 × Cursor) :=
  if startsWith (· = '<') (cursor.rest.drop 1) then do
    let (octets, after) ← readUri ⟨true, .tagUri, start⟩ [] (cursor.advanceBy 2)
    if after.sees (· = '>') then return ("", octets, after.advance)
    else misplaced .expectedClosingAngle after.mark .tag start
  else do
    let (handle, after) := readHandle cursor
    if isClosedHandle handle then
      let (octets, after) ← readUri ⟨false, .tagUri, start⟩ [] after
      return (String.ofList handle, octets, after)
    else
      let (octets, after) ← readUri ⟨false, .tagUri, start⟩ handle after
      if octets.isEmpty then return ("", asciiOctets ['!'], after)
      else return ("!", octets, after)

/-- Read a tag.  A blank, a line break, or in a flow collection a comma ends
it. -/
def readTag (inFlow : Bool) (cursor : Cursor) : Except Fault (TokenKind × Cursor) := do
  let start := cursor.mark
  let (handle, suffix, after) ← readTagParts start cursor
  if after.atWordEnd || (inFlow && after.sees (· = ',')) then
    return (.tag handle suffix, after)
  else misplaced .expectedWordEnd after.mark .tag start

/-- Characters besides blanks that may follow an anchor or an alias. -/
def endsAnchor (c : Char) : Bool :=
  isBlank c || isBreak c || "?:,]\x7d%@`".toList.contains c

/-- Read the name of an anchor or an alias, whose indicator is the next
character. -/
def readName (activity : Activity) (cursor : Cursor) : Except Fault (String × Cursor) :=
  let (name, after) := cursor.advance.span isWord
  if name.isEmpty || !(after.rest.isEmpty || after.sees endsAnchor) then
    misplaced .expectedWord after.mark activity cursor.mark
  else .ok (String.ofList name, after)

end ManifestLint.Yaml
