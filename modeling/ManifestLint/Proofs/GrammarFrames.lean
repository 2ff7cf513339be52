import ManifestLint.Proofs.FlowDepth

/-!
# Expectations above a document

Inside a document the grammar works on the expectations of the open nodes.  A token is
either taken by one of them, whatever lies below, or passes all of them on to the
expectation of the document's end.
-/

namespace ManifestLint.Yaml

open Grammar

namespace Expectation

/-- Whether an expectation belongs to a node of a document. -/
def Inner : Expectation → Prop
  | .document _ => False
  | .directives _ => False
  | .documentEnd => False
  | _ => True

/-- Whether an expectation belongs to a flow collection: one for each that is open. -/
def depth : Expectation → Nat
  | .flowFirst _ => 1
  | .flowSeparator _ => 1
  | .flowItem _ => 1
  | .pairKey _ => 1
  | .pairValue _ => 1
  | .pairValueNode _ => 1
  | .pairEnd _ => 1
  | .flowFirstKey _ => 1
  | .flowKeySeparator _ => 1
  | .flowKey _ => 1
  | .flowKeyNode _ => 1
  | .flowValue _ => 1
  | .flowValueNode _ => 1
  | .flowNoValue _ => 1
  | _ => 0

end Expectation

/-- The number of flow collections that some expectations belong to. -/
def stackDepth : List Expectation → Nat
  | [] => 0
  | expectation :: stack => expectation.depth + stackDepth stack

@[simp]
theorem stackDepth_nil : stackDepth [] = 0 :=
  rfl

@[simp]
theorem stackDepth_cons (expectation : Expectation) (stack : List Expectation) :
    stackDepth (expectation :: stack) = expectation.depth + stackDepth stack :=
  rfl

@[simp]
theorem stackDepth_append (upper lower : List Expectation) :
    stackDepth (upper ++ lower) = stackDepth upper + stackDepth lower := by
  induction upper with
  | nil => rw [List.nil_append, stackDepth_nil, Nat.zero_add]
  | cons expectation rest ih =>
      rw [List.cons_append, stackDepth_cons, stackDepth_cons, ih, Nat.add_assoc]

namespace Step

theorem after_after (events later : List Event) (step : Step) :
    (step.after later).after events = step.after (events ++ later) := by
  simp [after]

end Step

/-! ## Frames -/

/-- Whether expectations that replace one of some depth still belong to all collections
that are open behind a token, if those before it did.  A token that closes a collection
may also be passed over as the key of a pair, so they can belong to more. -/
def Covers (kind : TokenKind) (depth : Nat) (upper : List Expectation) : Prop :=
  ∀ outer opened, opened ≤ depth + outer →
    ∃ behind, kind.deepen (some opened) = some behind ∧ behind ≤ stackDepth upper + outer

namespace Covers

variable {kind : TokenKind} {depth : Nat} {upper : List Expectation}

theorem flat (flat : kind.Flat) (covers : depth ≤ stackDepth upper) : Covers kind depth upper :=
  fun _ opened bound => ⟨opened, flat _, by omega⟩

theorem opens (opens : ∀ depth, kind.deepen depth = depth.map (· + 1))
    (covers : depth + 1 ≤ stackDepth upper) : Covers kind depth upper :=
  fun _ opened bound => ⟨opened + 1, opens _, by omega⟩

theorem closes (closes : ∀ depth, kind.deepen depth = depth.map (· - 1))
    (covers : depth ≤ stackDepth upper + 1) : Covers kind depth upper :=
  fun _ opened bound => ⟨opened - 1, closes _, by omega⟩

end Covers

/-- A way to take a token that replaces an expectation of some depth by others, whatever
lies below. -/
def Framed (handles : List TagHandle) (kind : TokenKind) (depth : Nat)
    (take : List Expectation → Step) : Prop :=
  ∃ (events : List Event) (outcome : Except Fault (List Expectation)),
    (∀ stack, take stack = ⟨events, outcome.map fun upper => ⟨upper ++ stack, handles⟩⟩) ∧
    ∀ upper, outcome = .ok upper →
      (∀ expectation ∈ upper, expectation.Inner) ∧ Covers kind depth upper

namespace Framed

variable {handles : List TagHandle} {kind other : TokenKind} {depth : Nat}

theorem give {events : List Event} (upper : List Expectation)
    (inner : ∀ expectation ∈ upper, expectation.Inner)
    (covers : Covers kind depth upper) :
    Framed handles kind depth fun stack => .give handles events (upper ++ stack) :=
  ⟨events, .ok upper, fun _ => rfl, fun _ same => Except.ok.inj same ▸ ⟨inner, covers⟩⟩

/-- A token leaves nothing in the place of an expectation. -/
theorem ended {events : List Event} (same : kind = other) (flat : other.Flat) :
    Framed handles kind 0 fun stack => .give handles events stack :=
  same ▸ .give [] nofun (.flat flat (Nat.le_refl _))

/-- A token closes a flow collection. -/
theorem closed {events : List Event} (same : kind = other)
    (closes : ∀ depth, other.deepen depth = depth.map (· - 1)) :
    Framed handles kind 1 fun stack => .give handles events stack :=
  same ▸ .give [] nofun (.closes closes (Nat.le_refl _))

/-- A token leaves one expectation in the place of another one. -/
theorem replaced {events : List Event} {expectation : Expectation} (same : kind = other)
    (flat : other.Flat) (inner : expectation.Inner) (covers : depth ≤ expectation.depth) :
    Framed handles kind depth fun stack => .give handles events (expectation :: stack) :=
  same ▸ .give [expectation] (by simpa using inner) (.flat flat (by simpa using covers))

theorem failed {fault : Fault} : Framed handles kind depth fun _ => .failed fault :=
  ⟨[], .error fault, fun _ => rfl, nofun⟩

theorem after {take : List Expectation → Step} (framed : Framed handles kind depth take)
    (events : List Event) : Framed handles kind depth fun stack => (take stack).after events := by
  obtain ⟨own, outcome, same, facts⟩ := framed
  refine ⟨events ++ own, outcome, fun stack => ?_, facts⟩
  dsimp only
  rw [same]
  rfl

theorem ite {condition : Prop} [Decidable condition] {take other : List Expectation → Step}
    (pos : Framed handles kind depth take) (neg : Framed handles kind depth other) :
    Framed handles kind depth fun stack => if condition then take stack else other stack := by
  split
  · exact pos
  · exact neg

/-- Expectations may be put below a token's own ones. -/
theorem raised {take : List Expectation → Step} (framed : Framed handles kind depth take)
    (lower : List Expectation) (inner : ∀ expectation ∈ lower, expectation.Inner) :
    Framed handles kind (depth + stackDepth lower) fun stack => take (lower ++ stack) := by
  obtain ⟨events, outcome, same, facts⟩ := framed
  refine ⟨events, outcome.map (· ++ lower), fun stack => ?_, ?_⟩
  · dsimp only
    rw [same]
    cases outcome <;> simp [Except.map]
  · intro upper success
    cases outcome with
    | error fault => cases success
    | ok own =>
        cases success
        obtain ⟨innerOwn, covers⟩ := facts own rfl
        constructor
        · intro expectation member
          obtain own | below := List.mem_append.mp member
          · exact innerOwn expectation own
          · exact inner expectation below
        · intro outer opened bound
          obtain ⟨behind, deeper, bound⟩ := covers (stackDepth lower + outer) opened (by omega)
          refine ⟨behind, deeper, ?_⟩
          rw [stackDepth_append]
          omega

theorem above {take : List Expectation → Step} (framed : Framed handles kind 0 take)
    (expectation : Expectation) (inner : expectation.Inner) :
    Framed handles kind expectation.depth fun stack => take (expectation :: stack) := by
  have put := framed.raised [expectation] (by simpa using inner)
  rw [stackDepth_cons, stackDepth_nil, Nat.zero_add] at put
  exact put

end Framed

section

variable (handles : List TagHandle) (token : Token)

/-- A token is content of a node whatever lies below, or not at all. -/
theorem takeContent_cases (place : NodePlace) (properties : Properties) (start : Mark) :
    (∀ stack, takeContent handles place properties start stack token = none) ∨
      ∃ take, Framed handles token.kind 0 take ∧
        ∀ stack, takeContent handles place properties start stack token = some (take stack) := by
  obtain ⟨kind, first, stop⟩ := token
  cases kind with
  | scalar style text =>
      exact .inr ⟨_, .ended rfl fun _ => rfl, fun _ => rfl⟩
  | flowSequenceStart =>
      exact .inr ⟨_, .give [.flowFirst first] (by simp [Expectation.Inner])
        (.opens (fun _ => rfl) (by simp [Expectation.depth])), fun _ => rfl⟩
  | flowMappingStart =>
      exact .inr ⟨_, .give [.flowFirstKey first] (by simp [Expectation.Inner])
        (.opens (fun _ => rfl) (by simp [Expectation.depth])), fun _ => rfl⟩
  | blockSequenceStart =>
      have entries : Framed handles .blockSequenceStart 0 fun stack =>
          .give handles [⟨.sequenceStart properties, start⟩] (.blockEntry first :: stack) :=
        .replaced rfl (fun _ => rfl) trivial (Nat.le_refl _)
      cases place with
      | block => exact .inr ⟨_, entries, fun _ => rfl⟩
      | mappingContent => exact .inr ⟨_, entries, fun _ => rfl⟩
      | flow => exact .inl fun _ => rfl
  | blockMappingStart =>
      have keys : Framed handles .blockMappingStart 0 fun stack =>
          .give handles [⟨.mappingStart properties, start⟩] (.blockKey first :: stack) :=
        .replaced rfl (fun _ => rfl) trivial (Nat.le_refl _)
      cases place with
      | block => exact .inr ⟨_, keys, fun _ => rfl⟩
      | mappingContent => exact .inr ⟨_, keys, fun _ => rfl⟩
      | flow => exact .inl fun _ => rfl
  | blockEntry =>
      have items : Framed handles .blockEntry 0 fun stack =>
          .give handles [⟨.sequenceStart properties, start⟩]
            ([.indentlessItem stop, .indentlessEntry] ++ stack) :=
        .give _ (by simp [Expectation.Inner]) (.flat (fun _ => rfl) (by simp [Expectation.depth]))
      cases place with
      | mappingContent => exact .inr ⟨_, items, fun _ => rfl⟩
      | _ => exact .inl fun _ => rfl
  | _ => exact .inl fun _ => rfl

variable {handles token}

theorem framed_takeNode (place : NodePlace) :
    Framed handles token.kind 0 fun stack => takeNode handles place stack token := by
  have content := takeContent_cases handles token place {} token.start
  unfold takeNode
  split
  · rename_i kind
    exact .ended kind fun _ => rfl
  · rename_i kind
    exact .replaced kind (fun _ => rfl) trivial (Nat.le_refl _)
  · rename_i kind
    exact .replaced kind (fun _ => rfl) trivial (Nat.le_refl _)
  · obtain none | ⟨take, framed, same⟩ := content
    · simp only [none, Option.getD_none]
      exact .failed
    · simp only [same, Option.getD_some]
      exact framed

/-- A token is one more property of a node whatever lies below, or not at all. -/
theorem takeProperty_cases (handles : List TagHandle) (token : Token) (place : NodePlace)
    (written : WrittenProperties) :
    (∀ stack, takeProperty handles place written stack token = none) ∨
      ∃ take, Framed handles token.kind 0 take ∧
        ∀ stack, takeProperty handles place written stack token = some (take stack) := by
  obtain ⟨kind, first, stop⟩ := token
  obtain ⟨start, anchor, tag⟩ := written
  cases kind with
  | anchor name =>
      cases anchor with
      | some _ => exact .inl fun _ => rfl
      | none =>
          cases tag with
          | none => exact .inl fun _ => rfl
          | some tag =>
              refine .inr ⟨_, ?_, fun _ => rfl⟩
              exact .replaced rfl (fun _ => rfl) trivial (Nat.le_refl _)
  | tag handle suffix =>
      cases anchor with
      | none => exact .inl fun _ => rfl
      | some name =>
          cases tag with
          | some _ => exact .inl fun _ => rfl
          | none =>
              refine .inr ⟨_, ?_, fun _ => rfl⟩
              exact .replaced rfl (fun _ => rfl) trivial (Nat.le_refl _)
  | _ => exact .inl fun _ => rfl

variable (opened : Mark)

theorem framed_takeBlockEntry :
    Framed handles token.kind 0 fun stack => takeBlockEntry handles opened stack token := by
  unfold takeBlockEntry
  split
  · rename_i kind
    exact .replaced kind (fun _ => rfl) trivial (Nat.le_refl _)
  · rename_i kind
    exact .ended kind fun _ => rfl
  · exact .failed

theorem framed_takeBlockKey :
    Framed handles token.kind 0 fun stack => takeBlockKey handles opened stack token := by
  unfold takeBlockKey
  split
  · rename_i kind
    exact .replaced kind (fun _ => rfl) trivial (Nat.le_refl _)
  · rename_i kind
    exact .ended kind fun _ => rfl
  · exact .failed

theorem framed_takeBlockValue :
    Framed handles token.kind 0 fun stack => takeBlockValue handles opened stack token := by
  unfold takeBlockValue
  split
  · rename_i kind
    exact .replaced kind (fun _ => rfl) trivial (Nat.le_refl _)
  · exact (framed_takeBlockKey opened).after _

theorem framed_takeFlowItem :
    Framed handles token.kind 1 fun stack => takeFlowItem handles opened stack token := by
  unfold takeFlowItem
  split
  · rename_i kind
    exact .closed kind fun _ => rfl
  · rename_i kind
    exact .replaced kind (fun _ => rfl) trivial (Nat.le_refl _)
  · exact (framed_takeNode .flow).above (.flowSeparator opened) trivial

theorem framed_takeFlowSeparator :
    Framed handles token.kind 1 fun stack => takeFlowSeparator handles opened stack token := by
  unfold takeFlowSeparator
  split
  · rename_i kind
    exact .replaced kind (fun _ => rfl) trivial (Nat.le_refl _)
  · rename_i kind
    exact .closed kind fun _ => rfl
  · exact .failed

theorem framed_takePairEnd :
    Framed handles token.kind 1 fun stack => takePairEnd handles opened stack token :=
  (framed_takeFlowSeparator opened).after _

theorem framed_takeFlowKey :
    Framed handles token.kind 1 fun stack => takeFlowKey handles opened stack token := by
  unfold takeFlowKey
  split
  · rename_i kind
    exact .closed kind fun _ => rfl
  · rename_i kind
    exact .replaced kind (fun _ => rfl) trivial (Nat.le_refl _)
  · exact (framed_takeNode .flow).above (.flowNoValue opened) trivial

theorem framed_takeFlowKeySeparator :
    Framed handles token.kind 1 fun stack => takeFlowKeySeparator handles opened stack token := by
  unfold takeFlowKeySeparator
  split
  · rename_i kind
    exact .replaced kind (fun _ => rfl) trivial (Nat.le_refl _)
  · rename_i kind
    exact .closed kind fun _ => rfl
  · exact .failed

theorem framed_takeFlowValue :
    Framed handles token.kind 1 fun stack => takeFlowValue handles opened stack token := by
  unfold takeFlowValue
  split
  · rename_i kind
    exact .replaced kind (fun _ => rfl) trivial (Nat.le_refl _)
  · exact (framed_takeFlowKeySeparator opened).after _

/-- An expectation of a node takes a token whatever lies below, or passes it on. -/
theorem feed_cons (handles : List TagHandle) (token : Token) {expectation : Expectation}
    (inner : expectation.Inner) :
    Framed handles token.kind expectation.depth
        (fun stack => feed handles (expectation :: stack) token) ∨
      expectation.depth = 0 ∧ ∃ events, ∀ stack,
        feed handles (expectation :: stack) token = (feed handles stack token).after events := by
  cases expectation with
  | document _ => exact inner.elim
  | directives _ => exact inner.elim
  | documentEnd => exact inner.elim
  | content =>
      by_cases ends : endsContent token.kind = true
      · exact .inr ⟨rfl, [.empty token.start], fun stack => if_pos ends⟩
      · left
        simp only [feed, ends]
        exact framed_takeNode .block
  | properties place written =>
      obtain absent | ⟨take, framed, same⟩ :=
        takeProperty_cases handles token place written
      · cases resolved : resolveProperties handles written with
        | error fault =>
            left
            simp only [feed, absent, resolved]
            exact .failed
        | ok properties =>
            obtain none | ⟨take, framed, same⟩ :=
              takeContent_cases handles token place properties written.start
            · right
              refine ⟨rfl, [⟨.scalar properties .plain "", written.start⟩], fun stack => ?_⟩
              simp only [feed, absent, resolved, none]
            · left
              simp only [feed, absent, resolved, same]
              exact framed
      · left
        simp only [feed, same]
        exact framed
  | blockEntry opened => exact .inl (framed_takeBlockEntry opened)
  | blockItem opened mark =>
      exact .inl (.ite ((framed_takeBlockEntry opened).after _)
        ((framed_takeNode .block).above (.blockEntry opened) trivial))
  | indentlessEntry =>
      by_cases hyphen : token.kind = .blockEntry
      · left
        simp only [feed, hyphen, if_true]
        exact .give [.indentlessItem token.stop, .indentlessEntry] (by simp [Expectation.Inner])
          (.flat (fun _ => rfl) (by simp [Expectation.depth]))
      · exact .inr ⟨rfl, [⟨.sequenceEnd, token.start⟩], fun stack => if_neg hyphen⟩
  | indentlessItem mark =>
      by_cases ends : (endsBlockItem token.kind || endsBlockNode token.kind) = true
      · exact .inr ⟨rfl, [.empty mark], fun stack => if_pos ends⟩
      · left
        simp only [feed, ends]
        exact framed_takeNode .block
  | blockKey opened => exact .inl (framed_takeBlockKey opened)
  | blockKeyNode opened mark =>
      exact .inl (.ite ((framed_takeBlockValue opened).after _)
        ((framed_takeNode .mappingContent).above (.blockValue opened) trivial))
  | blockValue opened => exact .inl (framed_takeBlockValue opened)
  | blockValueNode opened mark =>
      exact .inl (.ite ((framed_takeBlockKey opened).after _)
        ((framed_takeNode .mappingContent).above (.blockKey opened) trivial))
  | flowFirst opened => exact .inl (framed_takeFlowItem opened)
  | flowSeparator opened => exact .inl (framed_takeFlowSeparator opened)
  | flowItem opened => exact .inl (framed_takeFlowItem opened)
  | pairKey opened =>
      left
      by_cases ends : (endsFlowItem token.kind || token.kind = .value) = true
      · simp only [feed, ends, if_true]
        -- The bracket that closes the sequence is left for the end of the pair.
        have covers : Covers token.kind 1 [.pairValue opened] := by
          cases kind : token.kind with
          | flowEntry => exact .flat (fun _ => rfl) (by simp [Expectation.depth])
          | value => exact .flat (fun _ => rfl) (by simp [Expectation.depth])
          | flowSequenceEnd => exact .closes (fun _ => rfl) (by simp [Expectation.depth])
          | _ => simp [kind, endsFlowItem] at ends
        exact .give [.pairValue opened] (by simp [Expectation.Inner]) covers
      · simp only [feed, ends]
        exact (framed_takeNode .flow).above (.pairValue opened) trivial
  | pairValue opened =>
      left
      by_cases value : token.kind = .value
      · simp only [feed, value, if_true]
        exact .replaced rfl (fun _ => rfl) trivial (Nat.le_refl _)
      · simp only [feed, value, if_false]
        exact (framed_takePairEnd opened).after _
  | pairValueNode opened =>
      exact .inl (.ite ((framed_takePairEnd opened).after _)
        ((framed_takeNode .flow).above (.pairEnd opened) trivial))
  | pairEnd opened => exact .inl (framed_takePairEnd opened)
  | flowFirstKey opened => exact .inl (framed_takeFlowKey opened)
  | flowKeySeparator opened => exact .inl (framed_takeFlowKeySeparator opened)
  | flowKey opened => exact .inl (framed_takeFlowKey opened)
  | flowKeyNode opened =>
      exact .inl (.ite ((framed_takeFlowValue opened).after _)
        ((framed_takeNode .flow).above (.flowValue opened) trivial))
  | flowValue opened => exact .inl (framed_takeFlowValue opened)
  | flowValueNode opened =>
      exact .inl (.ite ((framed_takeFlowKeySeparator opened).after _)
        ((framed_takeNode .flow).above (.flowKeySeparator opened) trivial))
  | flowNoValue opened => exact .inl ((framed_takeFlowKeySeparator opened).after _)

end

end ManifestLint.Yaml
