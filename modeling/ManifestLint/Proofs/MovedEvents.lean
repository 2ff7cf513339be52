import ManifestLint.Proofs.PlacedScanner

/-!
# Moved events

The grammar hands the places of tokens on to events and faults and never compares them.
Tokens that stand elsewhere give the same events elsewhere.
-/

namespace ManifestLint.Yaml

open Grammar

variable (f : Mark → Mark)

/-! ## Moving marks -/

/-- A fault with its marks changed. -/
def Fault.mapMarks : Fault → Fault
  | .forbiddenCharacter offset => .forbiddenCharacter offset
  | .misplaced problem mark context => .misplaced problem (f mark) (context.map (Prod.map id f))
  | .value problem path mark => .value problem path (f mark)
  | .recursionLimit mark => .recursionLimit (f mark)
  | .repetitionLimit => .repetitionLimit
  | .unknownAnchor mark => .unknownAnchor (f mark)

/-- Properties with their marks changed. -/
def WrittenProperties.mapMarks (written : WrittenProperties) : WrittenProperties :=
  ⟨f written.start, written.anchor,
    written.tag.map fun tag => ⟨tag.handle, tag.suffix, f tag.mark⟩⟩

/-- An expectation with its marks changed. -/
def Expectation.mapMarks : Expectation → Expectation
  | .document first => .document first
  | .directives version => .directives version
  | .content => .content
  | .documentEnd => .documentEnd
  | .properties place written => .properties place (written.mapMarks f)
  | .blockEntry opened => .blockEntry (f opened)
  | .blockItem opened mark => .blockItem (f opened) (f mark)
  | .indentlessEntry => .indentlessEntry
  | .indentlessItem mark => .indentlessItem (f mark)
  | .blockKey opened => .blockKey (f opened)
  | .blockKeyNode opened mark => .blockKeyNode (f opened) (f mark)
  | .blockValue opened => .blockValue (f opened)
  | .blockValueNode opened mark => .blockValueNode (f opened) (f mark)
  | .flowFirst opened => .flowFirst (f opened)
  | .flowSeparator opened => .flowSeparator (f opened)
  | .flowItem opened => .flowItem (f opened)
  | .pairKey opened => .pairKey (f opened)
  | .pairValue opened => .pairValue (f opened)
  | .pairValueNode opened => .pairValueNode (f opened)
  | .pairEnd opened => .pairEnd (f opened)
  | .flowFirstKey opened => .flowFirstKey (f opened)
  | .flowKeySeparator opened => .flowKeySeparator (f opened)
  | .flowKey opened => .flowKey (f opened)
  | .flowKeyNode opened => .flowKeyNode (f opened)
  | .flowValue opened => .flowValue (f opened)
  | .flowValueNode opened => .flowValueNode (f opened)
  | .flowNoValue opened => .flowNoValue (f opened)

/-- The state of the grammar with its marks changed. -/
def Grammar.mapMarks (grammar : Grammar) : Grammar :=
  ⟨grammar.stack.map (.mapMarks f), grammar.handles⟩

/-- An event with its mark changed. -/
def Event.mapMarks (event : Event) : Event :=
  ⟨event.kind, f event.mark⟩

/-- A step with its marks changed. -/
def Step.mapMarks (step : Step) : Step :=
  ⟨step.events.map (.mapMarks f),
    (step.outcome.map (Grammar.mapMarks f)).mapError (Fault.mapMarks f)⟩

/-- A stream of events with its marks changed. -/
def EventStream.mapMarks (stream : EventStream) : EventStream :=
  ⟨stream.events.map (.mapMarks f), stream.fault.map (.mapMarks f)⟩

/-! ## Steps of the grammar -/

section

variable {f} (handles : List TagHandle) (stack : List Expectation) (token : Token) (opened : Mark)

theorem after_moved {step step' : Step} (moved : step' = step.mapMarks f) (events : List Event) :
    step'.after (events.map (.mapMarks f)) = (step.after events).mapMarks f := by
  rw [moved]
  simp [Step.after, Step.mapMarks]

theorem ite_moved {condition : Prop} [Decidable condition] {step step' other other' : Step}
    (pos : step' = step.mapMarks f) (neg : other' = other.mapMarks f) :
    (if condition then step' else other') = (if condition then step else other).mapMarks f := by
  split
  · exact pos
  · exact neg

theorem takeContent_mapMarks (place : NodePlace) (properties : Properties) (start : Mark) :
    takeContent handles place properties (f start) (stack.map (.mapMarks f)) (token.mapMarks f) =
      (takeContent handles place properties start stack token).map (.mapMarks f) := by
  obtain ⟨kind, first, stop⟩ := token
  cases kind <;> cases place <;> rfl

theorem takeNode_mapMarks (place : NodePlace) :
    takeNode handles place (stack.map (.mapMarks f)) (token.mapMarks f) =
      (takeNode handles place stack token).mapMarks f := by
  obtain ⟨kind, first, stop⟩ := token
  cases kind <;> cases place <;> rfl

theorem takeProperty_mapMarks (place : NodePlace) (written : WrittenProperties) :
    takeProperty handles place (written.mapMarks f) (stack.map (.mapMarks f)) (token.mapMarks f) =
      (takeProperty handles place written stack token).map (.mapMarks f) := by
  obtain ⟨kind, first, stop⟩ := token
  obtain ⟨start, anchor, tag⟩ := written
  cases kind <;> cases anchor <;> cases tag <;> rfl

theorem resolveProperties_mapMarks (written : WrittenProperties) :
    resolveProperties handles (written.mapMarks f) =
      (resolveProperties handles written).mapError (.mapMarks f) := by
  obtain ⟨start, anchor, tag⟩ := written
  cases tag with
  | none => rfl
  | some tag =>
      simp only [resolveProperties, resolveTag, WrittenProperties.mapMarks, Option.map_some]
      split
      · rfl
      · cases (handles ++ defaultHandles).find? fun known => known.handle = tag.handle <;> rfl

theorem takeDirective_mapMarks (version : Bool) :
    takeDirective handles version (stack.map (.mapMarks f)) (token.mapMarks f) =
      (takeDirective handles version stack token).mapMarks f := by
  obtain ⟨kind, first, stop⟩ := token
  cases kind with
  | version major minor =>
      simp only [takeDirective, Token.mapMarks]
      split
      · rfl
      · split <;> rfl
  | tagDirective handle image =>
      simp only [takeDirective, Token.mapMarks]
      split <;> rfl
  | _ => rfl

theorem takeBareDocument_mapMarks :
    takeBareDocument (stack.map (.mapMarks f)) (token.mapMarks f) =
      (takeBareDocument stack token).mapMarks f :=
  after_moved (takeNode_mapMarks [] (.documentEnd :: .document false :: stack) token .block)
    [⟨.documentStart, token.start⟩]

theorem takeDocument_mapMarks (first : Bool) :
    takeDocument first (stack.map (.mapMarks f)) (token.mapMarks f) =
      (takeDocument first stack token).mapMarks f := by
  have directive := takeDirective_mapMarks (f := f) [] (.document false :: stack) token false
  have bare := takeBareDocument_mapMarks (f := f) stack token
  obtain ⟨kind, start, stop⟩ := token
  cases kind with
  | streamEnd => rfl
  | version major minor => exact directive
  | tagDirective handle image => exact directive
  | documentStart => exact directive
  | _ =>
      cases first with
      | false => rfl
      | true => exact bare

theorem takeBlockKey_mapMarks :
    takeBlockKey handles (f opened) (stack.map (.mapMarks f)) (token.mapMarks f) =
      (takeBlockKey handles opened stack token).mapMarks f := by
  obtain ⟨kind, first, stop⟩ := token
  cases kind <;> rfl

theorem takeBlockValue_mapMarks :
    takeBlockValue handles (f opened) (stack.map (.mapMarks f)) (token.mapMarks f) =
      (takeBlockValue handles opened stack token).mapMarks f := by
  obtain ⟨kind, first, stop⟩ := token
  cases kind <;> rfl

theorem takeBlockEntry_mapMarks :
    takeBlockEntry handles (f opened) (stack.map (.mapMarks f)) (token.mapMarks f) =
      (takeBlockEntry handles opened stack token).mapMarks f := by
  obtain ⟨kind, first, stop⟩ := token
  cases kind <;> rfl

theorem takeFlowItem_mapMarks :
    takeFlowItem handles (f opened) (stack.map (.mapMarks f)) (token.mapMarks f) =
      (takeFlowItem handles opened stack token).mapMarks f := by
  obtain ⟨kind, first, stop⟩ := token
  cases kind <;> rfl

theorem takeFlowSeparator_mapMarks :
    takeFlowSeparator handles (f opened) (stack.map (.mapMarks f)) (token.mapMarks f) =
      (takeFlowSeparator handles opened stack token).mapMarks f := by
  obtain ⟨kind, first, stop⟩ := token
  cases kind <;> rfl

theorem takePairEnd_mapMarks :
    takePairEnd handles (f opened) (stack.map (.mapMarks f)) (token.mapMarks f) =
      (takePairEnd handles opened stack token).mapMarks f :=
  after_moved (takeFlowSeparator_mapMarks handles stack token opened) [⟨.mappingEnd, token.start⟩]

theorem takeFlowKey_mapMarks :
    takeFlowKey handles (f opened) (stack.map (.mapMarks f)) (token.mapMarks f) =
      (takeFlowKey handles opened stack token).mapMarks f := by
  obtain ⟨kind, first, stop⟩ := token
  cases kind <;> rfl

theorem takeFlowKeySeparator_mapMarks :
    takeFlowKeySeparator handles (f opened) (stack.map (.mapMarks f)) (token.mapMarks f) =
      (takeFlowKeySeparator handles opened stack token).mapMarks f := by
  obtain ⟨kind, first, stop⟩ := token
  cases kind <;> rfl

theorem takeFlowValue_mapMarks :
    takeFlowValue handles (f opened) (stack.map (.mapMarks f)) (token.mapMarks f) =
      (takeFlowValue handles opened stack token).mapMarks f := by
  obtain ⟨kind, first, stop⟩ := token
  cases kind <;> rfl

/-- A token that stands elsewhere leads to the same step elsewhere. -/
theorem feed_mapMarks :
    feed handles (stack.map (.mapMarks f)) (token.mapMarks f) =
      (feed handles stack token).mapMarks f := by
  induction stack generalizing handles with
  | nil => rfl
  | cons expectation stack ih =>
      cases expectation with
      | document first => exact takeDocument_mapMarks stack token first
      | directives version => exact takeDirective_mapMarks handles stack token version
      | content =>
          exact ite_moved (after_moved (ih handles) [.empty token.start])
            (takeNode_mapMarks handles stack token .block)
      | documentEnd =>
          exact ite_moved rfl (after_moved (ih []) [⟨.documentEnd, token.start⟩])
      | properties place written =>
          have property := takeProperty_mapMarks (f := f) handles stack token place written
          have resolved := resolveProperties_mapMarks (f := f) handles written
          simp only [List.map_cons, Expectation.mapMarks, feed, property, resolved]
          cases takeProperty handles place written stack token with
          | some step => rfl
          | none =>
              cases resolveProperties handles written with
              | error fault => rfl
              | ok properties =>
                  have content := takeContent_mapMarks (f := f) handles stack token place properties
                    written.start
                  dsimp only [Option.map_none, Except.mapError]
                  rw [WrittenProperties.mapMarks, content]
                  cases takeContent handles place properties written.start stack token with
                  | some step => rfl
                  | none =>
                      exact after_moved (ih handles)
                        [⟨.scalar properties .plain "", written.start⟩]
      | blockEntry opened => exact takeBlockEntry_mapMarks handles stack token opened
      | blockItem opened mark =>
          exact ite_moved
            (after_moved (takeBlockEntry_mapMarks handles stack token opened) [.empty mark])
            (takeNode_mapMarks handles (.blockEntry opened :: stack) token .block)
      | indentlessEntry =>
          exact ite_moved rfl (after_moved (ih handles) [⟨.sequenceEnd, token.start⟩])
      | indentlessItem mark =>
          exact ite_moved (after_moved (ih handles) [.empty mark])
            (takeNode_mapMarks handles stack token .block)
      | blockKey opened => exact takeBlockKey_mapMarks handles stack token opened
      | blockKeyNode opened mark =>
          exact ite_moved
            (after_moved (takeBlockValue_mapMarks handles stack token opened) [.empty mark])
            (takeNode_mapMarks handles (.blockValue opened :: stack) token .mappingContent)
      | blockValue opened => exact takeBlockValue_mapMarks handles stack token opened
      | blockValueNode opened mark =>
          exact ite_moved
            (after_moved (takeBlockKey_mapMarks handles stack token opened) [.empty mark])
            (takeNode_mapMarks handles (.blockKey opened :: stack) token .mappingContent)
      | flowFirst opened => exact takeFlowItem_mapMarks handles stack token opened
      | flowSeparator opened => exact takeFlowSeparator_mapMarks handles stack token opened
      | flowItem opened => exact takeFlowItem_mapMarks handles stack token opened
      | pairKey opened =>
          exact ite_moved rfl (takeNode_mapMarks handles (.pairValue opened :: stack) token .flow)
      | pairValue opened =>
          exact ite_moved rfl
            (after_moved (takePairEnd_mapMarks handles stack token opened) [.empty token.start])
      | pairValueNode opened =>
          exact ite_moved
            (after_moved (takePairEnd_mapMarks handles stack token opened) [.empty token.start])
            (takeNode_mapMarks handles (.pairEnd opened :: stack) token .flow)
      | pairEnd opened => exact takePairEnd_mapMarks handles stack token opened
      | flowFirstKey opened => exact takeFlowKey_mapMarks handles stack token opened
      | flowKeySeparator opened => exact takeFlowKeySeparator_mapMarks handles stack token opened
      | flowKey opened => exact takeFlowKey_mapMarks handles stack token opened
      | flowKeyNode opened =>
          exact ite_moved
            (after_moved (takeFlowValue_mapMarks handles stack token opened) [.empty token.start])
            (takeNode_mapMarks handles (.flowValue opened :: stack) token .flow)
      | flowValue opened => exact takeFlowValue_mapMarks handles stack token opened
      | flowValueNode opened =>
          exact ite_moved
            (after_moved (takeFlowKeySeparator_mapMarks handles stack token opened)
              [.empty token.start])
            (takeNode_mapMarks handles (.flowKeySeparator opened :: stack) token .flow)
      | flowNoValue opened =>
          exact after_moved (takeFlowKeySeparator_mapMarks handles stack token opened)
            [.empty token.start]

/-- Tokens that stand elsewhere give the same events elsewhere. -/
theorem EventStream.ofTokens_mapMarks (fault : Option Fault) (tokens : List Token)
    (grammar : Grammar) :
    ofTokens (fault.map (.mapMarks f)) (tokens.map (.mapMarks f)) (grammar.mapMarks f) =
      (ofTokens fault tokens grammar).mapMarks f := by
  induction tokens generalizing grammar with
  | nil => rfl
  | cons token rest ih =>
      have step := feed_mapMarks (f := f) grammar.handles grammar.stack token
      simp only [List.map_cons, ofTokens, Grammar.mapMarks, step]
      cases outcome : (feed grammar.handles grammar.stack token).outcome with
      | error fault => simp [Step.mapMarks, outcome, Except.map, Except.mapError, mapMarks]
      | ok next =>
          simp only [Step.mapMarks, outcome, Except.map, Except.mapError]
          rw [ih]
          simp [prepend, mapMarks]

end

end ManifestLint.Yaml
