import ManifestLint.Yaml.Token.Fold

/-!
# Block scalars

The header of a block scalar tells how its last line breaks are treated and
perhaps its indentation, which is otherwise that of its first line with content.
A literal scalar keeps its line breaks; in a folded one a break between two
lines that start with a visible character becomes a space.
-/

namespace ManifestLint.Yaml

/-- What happens to the line breaks at the end. -/
inductive Chomping where
  | strip
  | clip
  | keep
deriving DecidableEq, Repr

/-- The header of a block scalar. -/
structure BlockHeader where
  chomping : Chomping
  /-- The indentation beyond that of the surroundings, zero if it is to be
  found. -/
  increment : Nat

/-- The chomping that an indicator asks for. -/
def chomping? (c : Char) : Option Chomping :=
  if c = '+' then some .keep else if c = '-' then some .strip else none

/-- Read a digit of indentation if there is one. -/
def readIncrement (start : Mark) (cursor : Cursor) : Except Fault (Nat × Cursor) :=
  match cursor.rest with
  | c :: _ =>
      if c = '0' then misplaced .zeroIndentation cursor.mark .blockScalar start
      else if c.isDigit then .ok (c.toNat - '0'.toNat, cursor.advance)
      else .ok (0, cursor)
  | [] => .ok (0, cursor)

/-- Read a chomping indicator if there is one. -/
def readChomping (cursor : Cursor) : Option Chomping × Cursor :=
  match cursor.rest with
  | c :: _ =>
      match chomping? c with
      | some chomping => (some chomping, cursor.advance)
      | none => (none, cursor)
  | [] => (none, cursor)

/-- Read the indicators of a header, which may come in either order. -/
def readIndicators (start : Mark) (cursor : Cursor) : Except Fault (BlockHeader × Cursor) :=
  match readChomping cursor with
  | (some chomping, cursor) => do
      let (increment, cursor) ← readIncrement start cursor
      return (⟨chomping, increment⟩, cursor)
  | (none, cursor) => do
      let (increment, cursor) ← readIncrement start cursor
      if increment = 0 then return (⟨.clip, 0⟩, cursor)
      else
        let (chomping, cursor) := readChomping cursor
        return (⟨chomping.getD .clip, increment⟩, cursor)

/-- Read the header line. -/
def readHeader (start : Mark) (cursor : Cursor) : Except Fault (BlockHeader × Cursor) := do
  let (header, cursor) ← readIndicators start cursor
  let cursor := cursor.skipBlanks.skipComment
  if cursor.atLineEnd then return (header, cursor.skipBreak)
  else misplaced .expectedLineEnd cursor.mark .blockScalar start

/-- Look for the first line with content: the line breaks before it, reversed,
the greatest column that was reached, and the cursor there. -/
def findContent (start : Mark) (breaks : List Char) (widest : Nat) (rest : List Char)
    (mark : Mark) : Except Fault (List Char × Nat × Cursor) :=
  match rest with
  | [] => .ok (breaks, max widest mark.column, ⟨[], mark⟩)
  | '\r' :: '\n' :: rest =>
      findContent start ('\n' :: breaks) (max widest mark.column) rest (mark.nextLine 2)
  | c :: rest =>
      if c = ' ' then findContent start breaks widest rest mark.next
      else if c = '\t' then misplaced .tabInIndentation mark .blockScalar start
      else if isBreak c then
        findContent start (normalizeBreak c :: breaks) (max widest mark.column) rest
          (mark.nextLine 1)
      else .ok (breaks, max widest mark.column, ⟨c :: rest, mark⟩)
termination_by structural rest

/-- What has been read of a block scalar.  All lists are reversed. -/
structure BlockText where
  text : List Char
  /-- The line break behind the last line with content. -/
  leading : List Char
  /-- The line breaks behind that one. -/
  trailing : List Char
  /-- Whether the last line with content starts with a blank. -/
  startsBlank : Bool

namespace BlockText

/-- Start a line with content whose first character is given. -/
def startLine (literal : Bool) (block : BlockText) (c : Char) : BlockText :=
  let folds := !literal && block.leading = ['\n'] && !block.startsBlank && !isBlank c
  let joint :=
    if folds then (if block.trailing.isEmpty then [' '] else []) else block.leading
  { text := c :: (block.trailing ++ joint ++ block.text)
    leading := []
    trailing := []
    startsBlank := isBlank c }

/-- The text with the line breaks at its end chomped. -/
def chomped (chomping : Chomping) (block : BlockText) : String :=
  let reversed := match chomping with
    | .strip => block.text
    | .clip => block.leading ++ block.text
    | .keep => block.trailing ++ block.leading ++ block.text
  String.ofList reversed.reverse

end BlockText

/-- Read the lines of a block scalar.  `inLine` tells whether the place lies
within the content of a line. -/
def blockLines (literal : Bool) (indent : Nat) (start : Mark) (block : BlockText) (inLine : Bool)
    (rest : List Char) (mark : Mark) : Except Fault (BlockText × Cursor) :=
  match rest with
  | [] => .ok (block, ⟨[], mark⟩)
  | '\r' :: '\n' :: rest =>
      let block := if inLine then { block with leading := ['\n'] }
        else { block with trailing := '\n' :: block.trailing }
      blockLines literal indent start block false rest (mark.nextLine 2)
  | c :: rest =>
      if isBreak c then
        let block := if inLine then { block with leading := [normalizeBreak c] }
          else { block with trailing := normalizeBreak c :: block.trailing }
        blockLines literal indent start block false rest (mark.nextLine 1)
      else if inLine then
        blockLines literal indent start { block with text := c :: block.text } true rest mark.next
      else if mark.column < indent && c = ' ' then
        blockLines literal indent start block false rest mark.next
      else if mark.column < indent && c = '\t' then
        misplaced .tabInIndentation mark .blockScalar start
      else if mark.column = indent then
        blockLines literal indent start (block.startLine literal c) true rest mark.next
      else .ok (block, ⟨c :: rest, mark⟩)
termination_by structural rest

/-- Read a block scalar, whose indicator is the next character.  `outer` is the
least column of content inside the surrounding block. -/
def readBlock (literal : Bool) (outer : Nat) (cursor : Cursor) :
    Except Fault (String × Cursor) := do
  let start := cursor.mark
  let (header, cursor) ← readHeader start cursor.advance
  if header.increment = 0 then
    let (breaks, widest, cursor) ← findContent start [] 0 cursor.rest cursor.mark
    let indent := max widest (max outer 1)
    let (block, cursor) ←
      blockLines literal indent start ⟨[], [], breaks, false⟩ false cursor.rest cursor.mark
    return (block.chomped header.chomping, cursor)
  else
    let indent := outer - 1 + header.increment
    let (block, cursor) ←
      blockLines literal indent start ⟨[], [], [], false⟩ false cursor.rest cursor.mark
    return (block.chomped header.chomping, cursor)

end ManifestLint.Yaml
