import ManifestLint.Yaml.Token.Plain
import ManifestLint.Yaml.Token.Block
import ManifestLint.Yaml.Token.Directive

/-!
# The stream of tokens

Indentation and the colon behind a key become tokens of their own.  A token
that may turn out to be a key is held back until the colon is met or can no
longer come: a key ends on its line and has at most 1024 characters.  The
stream of a text is the list of its tokens up to the first fault, and that
fault if there is one; tokens held back at a fault are lost.
-/

namespace ManifestLint.Yaml

/-- A token that may be a key: its number in the stream, its place, and whether
it has to be a key because nothing else can stand at its column. -/
structure PendingKey where
  number : Nat
  mark : Mark
  required : Bool
deriving Repr

/-- The state between two tokens. -/
structure Scanner where
  cursor : Cursor
  /-- Tokens that are read and held back. -/
  queue : List Token
  /-- The number of tokens that have left the queue. -/
  released : Nat
  /-- The columns of the open blocks, the innermost first. -/
  indents : List Nat
  /-- The pending key of the innermost collection. -/
  key : Option PendingKey
  /-- The pending keys outside each open flow collection, the innermost first. -/
  outerKeys : List (Option PendingKey)
  /-- Whether a key may start here. -/
  keyAllowed : Bool
  /-- Whether the end of the text has been reached. -/
  finished : Bool

namespace Scanner

/-- The state at the start of a text. -/
def start (text : List Char) : Scanner where
  cursor := ⟨text, .start⟩
  queue := []
  released := 0
  indents := []
  key := none
  outerKeys := []
  keyAllowed := true
  finished := false

/-- Whether a flow collection is open. -/
def inFlow (scanner : Scanner) : Bool :=
  !scanner.outerKeys.isEmpty

/-- The least column of content inside the innermost block. -/
def indent (scanner : Scanner) : Nat :=
  match scanner.indents with
  | [] => 0
  | column :: _ => column + 1

/-- The place of the next token. -/
def mark (scanner : Scanner) : Mark :=
  scanner.cursor.mark

/-- Put a token at the end of the queue. -/
def enqueue (scanner : Scanner) (kind : TokenKind) (start stop : Mark) : Scanner :=
  { scanner with queue := scanner.queue ++ [⟨kind, start, stop⟩] }

/-- Put a token before the one with the given number. -/
def insertToken (scanner : Scanner) (number : Nat) (kind : TokenKind) (mark : Mark) : Scanner :=
  let place := number - scanner.released
  { scanner with
    queue := scanner.queue.take place ++ ⟨kind, mark, mark⟩ :: scanner.queue.drop place }

/-- Read a token of one indicator with the given number of characters. -/
def indicator (scanner : Scanner) (kind : TokenKind) (length : Nat) : Scanner :=
  let after := scanner.cursor.advanceBy length
  { scanner with cursor := after }.enqueue kind scanner.mark after.mark

/-! ## Pending keys -/

/-- Whether a pending key can no longer become a key. -/
def isStale (mark : Mark) (key : PendingKey) : Bool :=
  key.mark.line < mark.line || key.mark.index + 1024 < mark.index

/-- Drop a pending key that is stale. -/
def dropStale (mark : Mark) : Option PendingKey → Except Fault (Option PendingKey)
  | none => .ok none
  | some key =>
      if isStale mark key then
        if key.required then misplaced .missingColon mark .simpleKey key.mark else .ok none
      else .ok (some key)

/-- Drop all pending keys that are stale. -/
def dropStaleKeys (scanner : Scanner) : Except Fault Scanner := do
  let outerKeys ← scanner.outerKeys.mapM (dropStale scanner.mark)
  let key ← dropStale scanner.mark scanner.key
  return { scanner with key, outerKeys }

/-- Give up the pending key of the innermost collection. -/
def dropKey (scanner : Scanner) : Except Fault Scanner :=
  match scanner.key with
  | some key =>
      if key.required then misplaced .missingColon scanner.mark .simpleKey key.mark
      else .ok { scanner with key := none }
  | none => .ok scanner

/-- Note that the next token may be a key. -/
def noteKey (scanner : Scanner) : Except Fault Scanner :=
  if scanner.keyAllowed then do
    let required := !scanner.inFlow && scanner.indents.head? = some scanner.mark.column
    let number := scanner.released + scanner.queue.length
    let scanner ← scanner.dropKey
    return { scanner with key := some ⟨number, scanner.mark, required⟩ }
  else .ok scanner

/-! ## Indentation -/

/-- Open a block at a column if it lies deeper than the innermost one. -/
def openBlock (scanner : Scanner) (column : Nat) (kind : TokenKind)
    (place : Option PendingKey) : Scanner :=
  if scanner.inFlow || column < scanner.indent then scanner
  else
    let opened := { scanner with indents := column :: scanner.indents }
    match place with
    | some key => opened.insertToken key.number kind key.mark
    | none => opened.enqueue kind scanner.mark scanner.mark

/-- The open blocks up to a column, and the number of those beyond it. -/
def splitIndents (least : Nat) : List Nat → List Nat × Nat
  | [] => ([], 0)
  | column :: outer =>
      if least ≤ column then
        let split := splitIndents least outer
        (split.1, split.2 + 1)
      else (column :: outer, 0)

/-- Close the blocks at the given column and beyond. -/
def closeBlocks (scanner : Scanner) (least : Nat) : Scanner :=
  if scanner.inFlow then scanner
  else
    let split := splitIndents least scanner.indents
    { scanner with
      indents := split.1
      queue := scanner.queue ++
        List.replicate split.2 ⟨.blockEnd, scanner.mark, scanner.mark⟩ }

/-! ## Tokens -/

/-- Pass blanks, comments, and line breaks.  Tabs are blanks except where a key
may start in a block, and a byte order mark may start a line. -/
def passBlanks (inFlow keyAllowed inComment : Bool) (rest : List Char) (mark : Mark) :
    Cursor × Bool :=
  match rest with
  | [] => (⟨[], mark⟩, keyAllowed)
  | '\r' :: '\n' :: rest =>
      passBlanks inFlow (keyAllowed || !inFlow) false rest (mark.nextLine 2)
  | c :: rest =>
      if isBreak c then
        passBlanks inFlow (keyAllowed || !inFlow) false rest (mark.nextLine 1)
      else if inComment || c = '#' then passBlanks inFlow keyAllowed true rest mark.next
      else if c = ' ' || (c = '\t' && (inFlow || !keyAllowed)) ||
          (c = '\ufeff' && mark.column = 0) then
        passBlanks inFlow keyAllowed false rest mark.next
      else (⟨c :: rest, mark⟩, keyAllowed)
termination_by structural rest

/-- Move to the next token. -/
def approach (scanner : Scanner) : Scanner :=
  let (cursor, keyAllowed) :=
    passBlanks scanner.inFlow scanner.keyAllowed false scanner.cursor.rest scanner.mark
  { scanner with cursor, keyAllowed }

/-- End the text.  An unfinished last line counts as ended. -/
def readEnd (scanner : Scanner) : Except Fault Scanner := do
  let mark := scanner.mark
  let ended : Mark := if mark.column = 0 then mark else ⟨mark.index, mark.line + 1, 0⟩
  let scanner := { scanner with cursor := ⟨[], ended⟩ }.closeBlocks 0
  let scanner ← scanner.dropKey
  return { scanner with keyAllowed := false, finished := true }.enqueue .streamEnd ended ended

/-- Read a directive. -/
def readDirectiveLine (scanner : Scanner) : Except Fault Scanner := do
  let scanner ← (scanner.closeBlocks 0).dropKey
  let (kind, stop, cursor) ← readDirective scanner.cursor
  return { scanner with cursor, keyAllowed := false }.enqueue kind scanner.mark stop

/-- Read the indicator that starts or ends a document. -/
def readDocumentIndicator (scanner : Scanner) (kind : TokenKind) : Except Fault Scanner := do
  let scanner ← (scanner.closeBlocks 0).dropKey
  return { scanner with keyAllowed := false }.indicator kind 3

/-- Open a flow collection. -/
def openFlow (scanner : Scanner) (kind : TokenKind) : Except Fault Scanner := do
  let scanner ← scanner.noteKey
  return { scanner with
    key := none
    outerKeys := scanner.key :: scanner.outerKeys
    keyAllowed := true }.indicator kind 1

/-- Close a flow collection. -/
def closeFlow (scanner : Scanner) (kind : TokenKind) : Except Fault Scanner := do
  let scanner ← scanner.dropKey
  let popped := match scanner.outerKeys with
    | [] => scanner
    | key :: outerKeys => { scanner with key, outerKeys }
  return { popped with keyAllowed := false }.indicator kind 1

/-- Read the comma between the items of a flow collection. -/
def readFlowEntry (scanner : Scanner) : Except Fault Scanner := do
  let scanner ← scanner.dropKey
  return { scanner with keyAllowed := true }.indicator .flowEntry 1

/-- Refuse a token outside flow collections where no key may start; otherwise
open a block at it if need be. -/
def enterBlock (scanner : Scanner) (problem : Problem) (kind : TokenKind) :
    Except Fault Scanner :=
  if !scanner.inFlow && !scanner.keyAllowed then
    .error (.misplaced problem scanner.mark none)
  else .ok (scanner.openBlock scanner.mark.column kind none)

/-- Read the hyphen before an item of a block. -/
def readBlockEntry (scanner : Scanner) : Except Fault Scanner := do
  let scanner ← scanner.enterBlock .strayEntry .blockSequenceStart
  let scanner ← scanner.dropKey
  return { scanner with keyAllowed := true }.indicator .blockEntry 1

/-- Read the question mark before a key. -/
def readKey (scanner : Scanner) : Except Fault Scanner := do
  let scanner ← scanner.enterBlock .strayKey .blockMappingStart
  let scanner ← scanner.dropKey
  return { scanner with keyAllowed := !scanner.inFlow }.indicator .key 1

/-- Read the colon before a value.  The pending key, if there is one, becomes a
key. -/
def readValue (scanner : Scanner) : Except Fault Scanner :=
  match scanner.key with
  | some key =>
      let keyed := scanner.insertToken key.number .key key.mark
      let opened := keyed.openBlock key.mark.column .blockMappingStart (some key)
      .ok ({ opened with key := none, keyAllowed := false }.indicator .value 1)
  | none => do
      let scanner ← scanner.enterBlock .strayValue .blockMappingStart
      return { scanner with keyAllowed := !scanner.inFlow }.indicator .value 1

/-- Put a token that has been read into the queue. -/
def accept (scanner : Scanner) (kind : TokenKind) (cursor : Cursor) (keyAllowed : Bool) : Scanner :=
  { scanner with cursor, keyAllowed }.enqueue kind scanner.mark cursor.mark

/-- Read an alias. -/
def readAlias (scanner : Scanner) : Except Fault Scanner := do
  let scanner ← scanner.noteKey
  let (name, cursor) ← readName .alias scanner.cursor
  return scanner.accept (.alias name) cursor false

/-- Read an anchor. -/
def readAnchor (scanner : Scanner) : Except Fault Scanner := do
  let scanner ← scanner.noteKey
  let (name, cursor) ← readName .anchor scanner.cursor
  return scanner.accept (.anchor name) cursor false

/-- Read the tag of a node. -/
def readNodeTag (scanner : Scanner) : Except Fault Scanner := do
  let scanner ← scanner.noteKey
  let (kind, cursor) ← readTag scanner.inFlow scanner.cursor
  return scanner.accept kind cursor false

/-- Read a block scalar. -/
def readBlockScalar (scanner : Scanner) (literal : Bool) : Except Fault Scanner := do
  let scanner ← scanner.dropKey
  let (text, cursor) ← readBlock literal scanner.indent scanner.cursor
  return scanner.accept (.scalar .block text) cursor true

/-- Read a quoted scalar. -/
def readQuotedScalar (scanner : Scanner) (quote : Char) : Except Fault Scanner := do
  let scanner ← scanner.noteKey
  let (text, cursor) ← readQuoted quote scanner.cursor
  return scanner.accept (.scalar .quoted text) cursor false

/-- Read a plain scalar.  A key may follow it on a further line. -/
def readPlainScalar (scanner : Scanner) : Except Fault Scanner := do
  let scanner ← scanner.noteKey
  let scalar ← readPlain scanner.inFlow scanner.indent scanner.cursor
  return { scanner with cursor := scalar.cursor, keyAllowed := scalar.brokeLine }.enqueue
    (.scalar .plain scalar.text) scanner.mark scalar.stop

/-- Characters that start no plain scalar. -/
def isIndicator (c : Char) : Bool :=
  "-?:,[]\x7b\x7d#&*!|>'\"%@`".toList.contains c

/-- Whether a plain scalar may start with a character before the given text. -/
def startsPlain (inFlow : Bool) (c : Char) (rest : List Char) : Bool :=
  !(isBlank c || isBreak c || isIndicator c) ||
    (c = '-' && !startsWith isBlank rest) ||
    (!inFlow && (c = '?' || c = ':') && !endsWord rest)

/-- Read the token that starts with the given character. -/
def readToken (scanner : Scanner) (c : Char) (rest : List Char) : Except Fault Scanner :=
  let atLineStart : Bool := scanner.mark.column = 0
  let alone := scanner.inFlow || endsWord rest
  if atLineStart && c = '%' then scanner.readDirectiveLine
  else if atLineStart && startsIndicator (c :: rest) then
    scanner.readDocumentIndicator (if c = '-' then .documentStart else .documentEnd)
  else if c = '[' then scanner.openFlow .flowSequenceStart
  else if c = '\x7b' then scanner.openFlow .flowMappingStart
  else if c = ']' then scanner.closeFlow .flowSequenceEnd
  else if c = '\x7d' then scanner.closeFlow .flowMappingEnd
  else if c = ',' then scanner.readFlowEntry
  else if c = '-' && endsWord rest then scanner.readBlockEntry
  else if c = '?' && alone then scanner.readKey
  else if c = ':' && alone then scanner.readValue
  else if c = '*' then scanner.readAlias
  else if c = '&' then scanner.readAnchor
  else if c = '!' then scanner.readNodeTag
  else if (c = '|' || c = '>') && !scanner.inFlow then scanner.readBlockScalar (c = '|')
  else if c = '\'' || c = '"' then scanner.readQuotedScalar c
  else if startsPlain scanner.inFlow c rest then scanner.readPlainScalar
  else misplaced .strayCharacter scanner.mark .nextToken scanner.mark

/-- Read the next token, with the ends of blocks before it. -/
def readNext (scanner : Scanner) : Except Fault Scanner := do
  let scanner ← scanner.approach.dropStaleKeys
  let scanner := scanner.closeBlocks (scanner.mark.column + 1)
  match scanner.cursor.rest with
  | [] => scanner.readEnd
  | c :: rest => scanner.readToken c rest

/-! ## The stream -/

/-- Whether a token with a number may still turn out to be a key. -/
def isPending (scanner : Scanner) (number : Nat) : Bool :=
  (scanner.key :: scanner.outerKeys).any fun key => key.any (·.number = number)

/-- The tokens at the head of a queue that are not held back, and the others. -/
def splitQueue (scanner : Scanner) : Nat → List Token → List Token × List Token
  | _, [] => ([], [])
  | number, token :: rest =>
      if scanner.isPending number then ([], token :: rest)
      else
        let split := splitQueue scanner (number + 1) rest
        (token :: split.1, split.2)

/-- Let the tokens go that are not held back. -/
def release (scanner : Scanner) : List Token × Scanner :=
  let split := scanner.splitQueue scanner.released scanner.queue
  (split.1,
    { scanner with queue := split.2, released := scanner.released + split.1.length })

end Scanner

/-- Tokens up to a fault, if there is one. -/
structure TokenStream where
  tokens : List Token
  fault : Option Fault

/-- A fault alone. -/
def TokenStream.failed (fault : Fault) : TokenStream :=
  ⟨[], some fault⟩

/-- Put tokens before a stream. -/
def TokenStream.prepend (tokens : List Token) (stream : TokenStream) : TokenStream :=
  { stream with tokens := tokens ++ stream.tokens }

namespace Scanner

/-- Read tokens until the end or a fault.  Every token but the last takes at
least one character, so the number of characters bounds the number of steps. -/
def run : Nat → Scanner → TokenStream
  | 0, _ => ⟨[], none⟩
  | steps + 1, scanner =>
      match scanner.readNext.bind dropStaleKeys with
      | .error fault => .failed fault
      | .ok next =>
          let (tokens, rest) := next.release
          if rest.finished then ⟨tokens, none⟩
          else (run steps rest).prepend tokens

end Scanner

/-- Whether a text may contain a character. -/
def isAllowed (c : Char) : Bool :=
  let code := c.toNat
  code = 0x09 || code = 0x0A || code = 0x0D || (0x20 ≤ code && code ≤ 0x7E) || code = 0x85 ||
    (0xA0 ≤ code && code ≤ 0xFFFD) || 0x10000 ≤ code

/-- The offset, in octets, of the first character that a text may not
contain. -/
def forbiddenOffset (offset : Nat) : List Char → Option Nat
  | [] => none
  | c :: rest => if isAllowed c then forbiddenOffset (offset + c.utf8Size) rest else some offset

/-- The tokens of a text. -/
def TokenStream.ofText (text : List Char) : TokenStream :=
  match forbiddenOffset 0 text with
  | some offset => .failed (.forbiddenCharacter offset)
  | none => (Scanner.start text).run (text.length + 1)

end ManifestLint.Yaml
