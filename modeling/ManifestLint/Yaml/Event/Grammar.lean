import ManifestLint.Yaml.Event
import ManifestLint.Yaml.Token.Stream

/-!
# The grammar of documents

The grammar is a stack of expectations, the nearest one first.  Each token is
taken by the nearest expectation that has a use for it.  An expectation without
one stands for content that is left out: it ends a node, or gives an empty
scalar, and passes the token on.
-/

namespace ManifestLint.Yaml

/-- Where a node may stand: in a block, in a block as the content of a mapping,
where a sequence needs no indentation, or in a flow collection. -/
inductive NodePlace where
  | block
  | mappingContent
  | flow
deriving DecidableEq, Repr

/-- The activity of reading a node at a place. -/
def NodePlace.activity : NodePlace → Activity
  | .block => .blockNode
  | .mappingContent => .blockNode
  | .flow => .flowNode

/-- The handle of a tag and what it stands for. -/
structure TagHandle where
  handle : String
  image : List UInt8
deriving DecidableEq, Repr

/-- A tag before its handle is looked up. -/
structure WrittenTag where
  handle : String
  suffix : List UInt8
  mark : Mark
deriving DecidableEq, Repr

/-- The properties of a node that have been read so far. -/
structure WrittenProperties where
  start : Mark
  anchor : Option String := none
  tag : Option WrittenTag := none
deriving DecidableEq, Repr

/-- What may come next.  Marks tell where a collection was opened, or where an
empty scalar would stand. -/
inductive Expectation where
  /-- A document, which needs no indicator if it is the first one. -/
  | document (first : Bool)
  /-- More directives, or the start of their document. -/
  | directives (version : Bool)
  /-- The content of a document behind its indicator. -/
  | content
  /-- The end of a document. -/
  | documentEnd
  /-- The rest of a node behind some of its properties. -/
  | properties (place : NodePlace) (written : WrittenProperties)
  /-- A hyphen or the end of a block sequence. -/
  | blockEntry (opened : Mark)
  /-- The item behind a hyphen of a block sequence. -/
  | blockItem (opened mark : Mark)
  /-- A hyphen of a sequence without indentation, or anything else. -/
  | indentlessEntry
  /-- The item behind a hyphen of such a sequence. -/
  | indentlessItem (mark : Mark)
  /-- A key or the end of a block mapping. -/
  | blockKey (opened : Mark)
  /-- The node of a key of a block mapping. -/
  | blockKeyNode (opened mark : Mark)
  /-- The value of a block mapping. -/
  | blockValue (opened : Mark)
  /-- The node of a value of a block mapping. -/
  | blockValueNode (opened mark : Mark)
  /-- The first item of a flow sequence. -/
  | flowFirst (opened : Mark)
  /-- A comma or the end of a flow sequence. -/
  | flowSeparator (opened : Mark)
  /-- The item behind a comma of a flow sequence. -/
  | flowItem (opened : Mark)
  /-- The key of a single pair in a flow sequence. -/
  | pairKey (opened : Mark)
  /-- The value of such a pair. -/
  | pairValue (opened : Mark)
  /-- The node of the value of such a pair. -/
  | pairValueNode (opened : Mark)
  /-- The end of such a pair. -/
  | pairEnd (opened : Mark)
  /-- The first key of a flow mapping. -/
  | flowFirstKey (opened : Mark)
  /-- A comma or the end of a flow mapping. -/
  | flowKeySeparator (opened : Mark)
  /-- The key behind a comma of a flow mapping. -/
  | flowKey (opened : Mark)
  /-- The node of a key of a flow mapping. -/
  | flowKeyNode (opened : Mark)
  /-- The value of a flow mapping. -/
  | flowValue (opened : Mark)
  /-- The node of a value of a flow mapping. -/
  | flowValueNode (opened : Mark)
  /-- The value of a key that is not marked as one. -/
  | flowNoValue (opened : Mark)
deriving DecidableEq, Repr

/-- The state between two tokens. -/
structure Grammar where
  stack : List Expectation
  /-- The handles that the directives of the document define. -/
  handles : List TagHandle
deriving Repr

/-- The state at the start of a stream. -/
def Grammar.start : Grammar :=
  ⟨[.document true], []⟩

/-- What a token leads to: events, and the state behind it or a fault.  Events
that come before a fault stay. -/
structure Step where
  events : List Event
  outcome : Except Fault Grammar

namespace Step

/-- A step with some events and expectations behind it. -/
def give (handles : List TagHandle) (events : List Event) (stack : List Expectation) : Step :=
  ⟨events, .ok ⟨stack, handles⟩⟩

/-- A step that gives up. -/
def failed (fault : Fault) : Step :=
  ⟨[], .error fault⟩

/-- Put events before those of a step. -/
def after (events : List Event) (step : Step) : Step :=
  { step with events := events ++ step.events }

end Step

namespace Grammar

/-- The handles that every document knows. -/
def defaultHandles : List TagHandle :=
  [⟨"!", [33]⟩, ⟨"!!", "tag:yaml.org,2002:".toList.map fun c => UInt8.ofNat c.toNat⟩]

/-- Give up on a token. -/
def refuse (problem : Problem) (token : Token) (activity : Activity) (start : Mark) : Step :=
  .failed (.misplaced problem token.start (some (activity, start)))

/-- Give up on a token outside all nodes. -/
def refuseDocument (problem : Problem) (token : Token) : Step :=
  .failed (.misplaced problem token.start none)

/-- The tag that a handle and a suffix stand for. -/
def resolveTag (handles : List TagHandle) (start : Mark) (tag : WrittenTag) :
    Except Fault (List UInt8) :=
  if tag.handle = "" then .ok tag.suffix
  else
    match (handles ++ defaultHandles).find? (·.handle = tag.handle) with
    | some known => .ok (known.image ++ tag.suffix)
    | none => misplaced .undefinedHandle tag.mark .node start

/-- The properties of a node with its tag resolved. -/
def resolveProperties (handles : List TagHandle) (written : WrittenProperties) :
    Except Fault Properties :=
  match written.tag with
  | none => .ok { anchor := written.anchor }
  | some tag => do
      let octets ← resolveTag handles written.start tag
      return { anchor := written.anchor, tag := some octets }

/-- A scalar event.  A lone exclamation mark is no tag of a scalar. -/
def scalarEvent (properties : Properties) (style : ScalarStyle) (text : String) (mark : Mark) :
    Event :=
  let tag := if properties.tag = some [33] then none else properties.tag
  ⟨.scalar { properties with tag } style text, mark⟩

/-- The content of a node behind all its properties.  The result is nothing if
the token is no content; then only a node with properties may be empty. -/
def takeContent (handles : List TagHandle) (place : NodePlace) (properties : Properties)
    (start : Mark) (stack : List Expectation) (token : Token) : Option Step :=
  match token.kind, place with
  | .scalar style text, _ => some (.give handles [scalarEvent properties style text start] stack)
  | .flowSequenceStart, _ =>
      some (.give handles [⟨.sequenceStart properties, start⟩] (.flowFirst token.start :: stack))
  | .flowMappingStart, _ =>
      some (.give handles [⟨.mappingStart properties, start⟩] (.flowFirstKey token.start :: stack))
  | .blockSequenceStart, .block =>
      some (.give handles [⟨.sequenceStart properties, start⟩] (.blockEntry token.start :: stack))
  | .blockSequenceStart, .mappingContent =>
      some (.give handles [⟨.sequenceStart properties, start⟩] (.blockEntry token.start :: stack))
  | .blockMappingStart, .block =>
      some (.give handles [⟨.mappingStart properties, start⟩] (.blockKey token.start :: stack))
  | .blockMappingStart, .mappingContent =>
      some (.give handles [⟨.mappingStart properties, start⟩] (.blockKey token.start :: stack))
  | .blockEntry, .mappingContent =>
      some (.give handles [⟨.sequenceStart properties, start⟩]
        (.indentlessItem token.stop :: .indentlessEntry :: stack))
  | _, _ => none

/-- A node whose first token is given. -/
def takeNode (handles : List TagHandle) (place : NodePlace) (stack : List Expectation)
    (token : Token) : Step :=
  match token.kind with
  | .alias name => .give handles [⟨.alias name, token.start⟩] stack
  | .anchor name =>
      .give handles []
        (.properties place { start := token.start, anchor := some name } :: stack)
  | .tag handle suffix =>
      .give handles []
        (.properties place
          { start := token.start, tag := some ⟨handle, suffix, token.start⟩ } :: stack)
  | _ =>
      (takeContent handles place {} token.start stack token).getD
        (refuse .expectedNode token place.activity token.start)

/-- A node with one more property, if the token is one that it still lacks. -/
def takeProperty (handles : List TagHandle) (place : NodePlace) (written : WrittenProperties)
    (stack : List Expectation) (token : Token) : Option Step :=
  match token.kind, written.anchor, written.tag with
  | .anchor name, none, some _ =>
      some (.give handles [] (.properties place { written with anchor := some name } :: stack))
  | .tag handle suffix, some _, none =>
      some (.give handles []
        (.properties place
          { written with tag := some ⟨handle, suffix, token.start⟩ } :: stack))
  | _, _, _ => none

/-- The start of a document, or of the directives before it. -/
def takeDirective (handles : List TagHandle) (version : Bool) (stack : List Expectation)
    (token : Token) : Step :=
  match token.kind with
  | .version major minor =>
      if version then refuseDocument .duplicateVersion token
      else if major = 1 && (minor = 1 || minor = 2) then
        .give handles [] (.directives true :: stack)
      else refuseDocument .incompatibleVersion token
  | .tagDirective handle image =>
      if handles.any (·.handle = handle) then
        refuseDocument .duplicateTagDirective token
      else .give (handles ++ [⟨handle, image⟩]) [] (.directives version :: stack)
  | .documentStart =>
      .give handles [⟨.documentStart, token.start⟩] (.content :: .documentEnd :: stack)
  | _ => refuseDocument .expectedDocumentStart token

/-- The node of a document that starts without an indicator. -/
def takeBareDocument (stack : List Expectation) (token : Token) : Step :=
  (takeNode [] .block (.documentEnd :: .document false :: stack) token).after
    [⟨.documentStart, token.start⟩]

/-- A document, or the end of the stream. -/
def takeDocument (first : Bool) (stack : List Expectation) (token : Token) :
    Step :=
  match token.kind with
  | .streamEnd => .give [] [] stack
  | .documentEnd =>
      if first then takeBareDocument stack token
      else .give [] [] (.document false :: stack)
  | .version _ _ => takeDirective [] false (.document false :: stack) token
  | .tagDirective _ _ => takeDirective [] false (.document false :: stack) token
  | .documentStart => takeDirective [] false (.document false :: stack) token
  | _ =>
      if first then takeBareDocument stack token
      else refuseDocument .expectedDocumentStart token

/-- A key or the end of a block mapping. -/
def takeBlockKey (handles : List TagHandle) (opened : Mark) (stack : List Expectation)
    (token : Token) : Step :=
  match token.kind with
  | .key => .give handles [] (.blockKeyNode opened token.stop :: stack)
  | .blockEnd => .give handles [⟨.mappingEnd, token.start⟩] stack
  | _ => refuse .expectedBlockKey token .blockMapping opened

/-- A value of a block mapping, or what follows a key without one. -/
def takeBlockValue (handles : List TagHandle) (opened : Mark) (stack : List Expectation)
    (token : Token) : Step :=
  match token.kind with
  | .value => .give handles [] (.blockValueNode opened token.stop :: stack)
  | _ => (takeBlockKey handles opened stack token).after [.empty token.start]

/-- A hyphen or the end of a block sequence. -/
def takeBlockEntry (handles : List TagHandle) (opened : Mark) (stack : List Expectation)
    (token : Token) : Step :=
  match token.kind with
  | .blockEntry => .give handles [] (.blockItem opened token.stop :: stack)
  | .blockEnd => .give handles [⟨.sequenceEnd, token.start⟩] stack
  | _ => refuse .expectedHyphen token .blockCollection opened

/-- Whether a token cannot start the node of a block mapping. -/
def endsBlockNode : TokenKind → Bool
  | .key => true
  | .value => true
  | .blockEnd => true
  | _ => false

/-- An item of a flow sequence. -/
def takeFlowItem (handles : List TagHandle) (opened : Mark) (stack : List Expectation)
    (token : Token) : Step :=
  match token.kind with
  | .flowSequenceEnd => .give handles [⟨.sequenceEnd, token.start⟩] stack
  | .key => .give handles [⟨.mappingStart {}, token.start⟩] (.pairKey opened :: stack)
  | _ => takeNode handles .flow (.flowSeparator opened :: stack) token

/-- A comma or the end of a flow sequence. -/
def takeFlowSeparator (handles : List TagHandle) (opened : Mark) (stack : List Expectation)
    (token : Token) : Step :=
  match token.kind with
  | .flowEntry => .give handles [] (.flowItem opened :: stack)
  | .flowSequenceEnd => .give handles [⟨.sequenceEnd, token.start⟩] stack
  | _ => refuse .expectedSequenceSeparator token .flowSequence opened

/-- What follows a single pair in a flow sequence. -/
def takePairEnd (handles : List TagHandle) (opened : Mark) (stack : List Expectation)
    (token : Token) : Step :=
  (takeFlowSeparator handles opened stack token).after [⟨.mappingEnd, token.start⟩]

/-- A key or the end of a flow mapping. -/
def takeFlowKey (handles : List TagHandle) (opened : Mark) (stack : List Expectation)
    (token : Token) : Step :=
  match token.kind with
  | .flowMappingEnd => .give handles [⟨.mappingEnd, token.start⟩] stack
  | .key => .give handles [] (.flowKeyNode opened :: stack)
  | _ => takeNode handles .flow (.flowNoValue opened :: stack) token

/-- A comma or the end of a flow mapping. -/
def takeFlowKeySeparator (handles : List TagHandle) (opened : Mark) (stack : List Expectation)
    (token : Token) : Step :=
  match token.kind with
  | .flowEntry => .give handles [] (.flowKey opened :: stack)
  | .flowMappingEnd => .give handles [⟨.mappingEnd, token.start⟩] stack
  | _ => refuse .expectedMappingSeparator token .flowMapping opened

/-- A value of a flow mapping, or what follows a key without one. -/
def takeFlowValue (handles : List TagHandle) (opened : Mark) (stack : List Expectation)
    (token : Token) : Step :=
  match token.kind with
  | .value => .give handles [] (.flowValueNode opened :: stack)
  | _ => (takeFlowKeySeparator handles opened stack token).after [.empty token.start]

/-- Whether a token cannot start the content of a document. -/
def endsContent : TokenKind → Bool
  | .version _ _ => true
  | .tagDirective _ _ => true
  | .documentStart => true
  | .documentEnd => true
  | .streamEnd => true
  | _ => false

/-- Whether a token cannot start an item of a block sequence. -/
def endsBlockItem : TokenKind → Bool
  | .blockEntry => true
  | .blockEnd => true
  | _ => false

/-- Whether a token cannot start an item of a flow sequence. -/
def endsFlowItem : TokenKind → Bool
  | .flowEntry => true
  | .flowSequenceEnd => true
  | _ => false

/-- Whether a token cannot start the value of a flow mapping. -/
def endsFlowValue : TokenKind → Bool
  | .flowEntry => true
  | .flowMappingEnd => true
  | _ => false

/-- Let the nearest expectation take a token.  Behind the end of the stream
nothing is expected any more. -/
def feed (handles : List TagHandle) : List Expectation → Token → Step
  | [], _ => .give handles [] []
  | .document first :: stack, token => takeDocument first stack token
  | .directives version :: stack, token => takeDirective handles version stack token
  | .content :: stack, token =>
      if endsContent token.kind then (feed handles stack token).after [.empty token.start]
      else takeNode handles .block stack token
  | .documentEnd :: stack, token =>
      if token.kind = .documentEnd then .give [] [⟨.documentEnd, token.start⟩] stack
      else (feed [] stack token).after [⟨.documentEnd, token.start⟩]
  | .properties place written :: stack, token =>
      match takeProperty handles place written stack token with
      | some step => step
      | none =>
          match resolveProperties handles written with
          | .error fault => .failed fault
          | .ok properties =>
              match takeContent handles place properties written.start stack token with
              | some step => step
              | none =>
                  (feed handles stack token).after
                    [⟨.scalar properties .plain "", written.start⟩]
  | .blockEntry opened :: stack, token => takeBlockEntry handles opened stack token
  | .blockItem opened mark :: stack, token =>
      if endsBlockItem token.kind then
        (takeBlockEntry handles opened stack token).after [.empty mark]
      else takeNode handles .block (.blockEntry opened :: stack) token
  | .indentlessEntry :: stack, token =>
      if token.kind = .blockEntry then
        .give handles [] (.indentlessItem token.stop :: .indentlessEntry :: stack)
      else (feed handles stack token).after [⟨.sequenceEnd, token.start⟩]
  | .indentlessItem mark :: stack, token =>
      if endsBlockItem token.kind || endsBlockNode token.kind then
        (feed handles stack token).after [.empty mark]
      else takeNode handles .block stack token
  | .blockKey opened :: stack, token => takeBlockKey handles opened stack token
  | .blockKeyNode opened mark :: stack, token =>
      if endsBlockNode token.kind then
        (takeBlockValue handles opened stack token).after [.empty mark]
      else takeNode handles .mappingContent (.blockValue opened :: stack) token
  | .blockValue opened :: stack, token => takeBlockValue handles opened stack token
  | .blockValueNode opened mark :: stack, token =>
      if endsBlockNode token.kind then
        (takeBlockKey handles opened stack token).after [.empty mark]
      else takeNode handles .mappingContent (.blockKey opened :: stack) token
  | .flowFirst opened :: stack, token => takeFlowItem handles opened stack token
  | .flowSeparator opened :: stack, token => takeFlowSeparator handles opened stack token
  | .flowItem opened :: stack, token => takeFlowItem handles opened stack token
  | .pairKey opened :: stack, token =>
      if endsFlowItem token.kind || token.kind = .value then
        .give handles [.empty token.stop] (.pairValue opened :: stack)
      else takeNode handles .flow (.pairValue opened :: stack) token
  | .pairValue opened :: stack, token =>
      if token.kind = .value then .give handles [] (.pairValueNode opened :: stack)
      else (takePairEnd handles opened stack token).after [.empty token.start]
  | .pairValueNode opened :: stack, token =>
      if endsFlowItem token.kind then
        (takePairEnd handles opened stack token).after [.empty token.start]
      else takeNode handles .flow (.pairEnd opened :: stack) token
  | .pairEnd opened :: stack, token => takePairEnd handles opened stack token
  | .flowFirstKey opened :: stack, token => takeFlowKey handles opened stack token
  | .flowKeySeparator opened :: stack, token => takeFlowKeySeparator handles opened stack token
  | .flowKey opened :: stack, token => takeFlowKey handles opened stack token
  | .flowKeyNode opened :: stack, token =>
      if endsFlowValue token.kind || token.kind = .value then
        (takeFlowValue handles opened stack token).after [.empty token.start]
      else takeNode handles .flow (.flowValue opened :: stack) token
  | .flowValue opened :: stack, token => takeFlowValue handles opened stack token
  | .flowValueNode opened :: stack, token =>
      if endsFlowValue token.kind then
        (takeFlowKeySeparator handles opened stack token).after [.empty token.start]
      else takeNode handles .flow (.flowKeySeparator opened :: stack) token
  | .flowNoValue opened :: stack, token =>
      (takeFlowKeySeparator handles opened stack token).after [.empty token.start]

end Grammar

/-- Events up to a fault, if there is one. -/
structure EventStream where
  events : List Event
  fault : Option Fault

namespace EventStream

/-- Put events before a stream. -/
def prepend (events : List Event) (stream : EventStream) : EventStream :=
  { stream with events := events ++ stream.events }

/-- The events of the rest of a stream of tokens. -/
def ofTokens (fault : Option Fault) : List Token → Grammar → EventStream
  | [], _ => ⟨[], fault⟩
  | token :: rest, grammar =>
      let step := Grammar.feed grammar.handles grammar.stack token
      match step.outcome with
      | .error fault => ⟨step.events, some fault⟩
      | .ok next => (ofTokens fault rest next).prepend step.events

/-- The events of a text. -/
def ofText (text : List Char) : EventStream :=
  let stream := TokenStream.ofText text
  ofTokens stream.fault stream.tokens .start

end EventStream

end ManifestLint.Yaml
