import ManifestLint.Proofs.DocumentPositions
import ManifestLint.Proofs.GrammarPhases
import ManifestLint.Proofs.MovedDocuments
import ManifestLint.Proofs.TokenSeam

/-!
# Streams of documents

Two texts with a line of hyphens between them hold the documents of both.  A document that
is in order never depends on what follows it, so the first error of the first text stays
where and what it is.
-/

namespace ManifestLint.Yaml

/-! ## Documents of events -/

namespace DocumentTree

variable {fault other : Option Fault} {events later : List Event} {builder : TreeBuilder}

/-- A document with a value ends. -/
theorem fault_eq_none_of_value {document : DocumentTree} {value : Value}
    (success : document.value = .ok value) : document.fault = none := by
  rw [value_eq] at success
  cases broken : document.fault with
  | none => rfl
  | some fault =>
      rw [broken] at success
      cases read : document.reading.read depthLimit .root document.root 0 with
      | error fault =>
          rw [read] at success
          cases success
      | ok result =>
          rw [read] at success
          cases success

/-- An event is added to the document, or ends it, or breaks it off. -/
theorem ofEvents_cons_cases (event : Event) (builder : TreeBuilder) :
    (∃ next, ∀ fault rest, ofEvents fault (event :: rest) builder = ofEvents fault rest next) ∨
      (∀ fault rest,
        ofEvents fault (event :: rest) builder = builder.finish :: ofEvents fault rest .empty) ∨
      ∃ broken, ∀ fault rest,
        ofEvents fault (event :: rest) builder = [builder.breakOff broken] := by
  obtain ⟨kind, mark⟩ := event
  cases kind with
  | documentStart => exact .inl ⟨_, fun _ _ => rfl⟩
  | documentEnd => exact .inr (.inl fun _ _ => rfl)
  | «alias» name =>
      cases known : builder.names.lookup name with
      | none => exact .inr (.inr ⟨.unknownAnchor mark, fun _ _ => by simp [ofEvents, known]⟩)
      | some number =>
          exact .inl ⟨builder.count.add (.alias number mark), fun _ _ => by simp [ofEvents, known]⟩
  | scalar properties style text => exact .inl ⟨_, fun _ _ => rfl⟩
  | sequenceStart properties => exact .inl ⟨_, fun _ _ => rfl⟩
  | mappingStart properties => exact .inl ⟨_, fun _ _ => rfl⟩
  | sequenceEnd => exact .inl ⟨_, fun _ _ => rfl⟩
  | mappingEnd => exact .inl ⟨_, fun _ _ => rfl⟩

theorem eq_nil_of_prefix_breakOff {broken : Fault} {values : List Value}
    (front : values.map .ok <+: [(builder.breakOff broken).value]) : values = [] := by
  cases values with
  | nil => rfl
  | cons value rest =>
      obtain ⟨same, -⟩ := List.cons_prefix_cons.mp front
      cases fault_eq_none_of_value same.symm

/-- Documents in order do not depend on what follows them. -/
theorem ofEvents_prefix_values {values : List Value} (more : events <+: later)
    (front : values.map .ok <+: (ofEvents fault events builder).map (·.value)) :
    values.map .ok <+: (ofEvents other later builder).map (·.value) := by
  induction events generalizing later builder values with
  | nil =>
      obtain rfl : values = [] := by
        cases fault with
        | none => exact List.map_eq_nil_iff.mp (List.prefix_nil.mp front)
        | some fault => exact eq_nil_of_prefix_breakOff front
      exact List.nil_prefix
  | cons event rest ih =>
      obtain ⟨tail, rfl⟩ := more
      rw [List.cons_append]
      obtain ⟨next, adds⟩ | ends | ⟨broken, breaks⟩ := ofEvents_cons_cases event builder
      · rw [adds] at front ⊢
        exact ih (List.prefix_append rest tail) front
      · rw [ends] at front ⊢
        cases values with
        | nil => exact List.nil_prefix
        | cons value values =>
            obtain ⟨first, others⟩ := List.cons_prefix_cons.mp front
            exact List.cons_prefix_cons.mpr ⟨first, ih (List.prefix_append rest tail) others⟩
      · rw [breaks] at front
        obtain rfl := eq_nil_of_prefix_breakOff front
        exact List.nil_prefix

/-- A stream whose documents all end has no fault. -/
theorem fault_eq_none
    (unbroken : ∀ document ∈ ofEvents fault events builder, document.fault = none) :
    fault = none := by
  induction events generalizing builder with
  | nil =>
      cases fault with
      | none => rfl
      | some fault => exact unbroken _ (List.mem_singleton_self _)
  | cons event rest ih =>
      obtain ⟨next, adds⟩ | ends | ⟨broken, breaks⟩ := ofEvents_cons_cases event builder
      · rw [adds] at unbroken
        exact ih unbroken
      · rw [ends] at unbroken
        exact ih (List.forall_mem_cons.mp unbroken).2
      · rw [breaks] at unbroken
        cases unbroken _ (List.mem_singleton_self _)

theorem ofEvents_append_documentEnd (mark : Mark)
    (unbroken : ∀ document ∈ ofEvents none (events ++ [⟨.documentEnd, mark⟩]) builder,
      document.fault = none) :
    ofEvents fault (events ++ ⟨.documentEnd, mark⟩ :: later) builder =
      ofEvents none (events ++ [⟨.documentEnd, mark⟩]) builder ++ ofEvents fault later .empty := by
  induction events generalizing builder with
  | nil => rfl
  | cons event rest ih =>
      simp only [List.cons_append] at unbroken ⊢
      obtain ⟨next, adds⟩ | ends | ⟨broken, breaks⟩ := ofEvents_cons_cases event builder
      · rw [adds] at unbroken
        rw [adds, adds, ih unbroken]
      · rw [ends] at unbroken
        rw [ends, ends, ih (List.forall_mem_cons.mp unbroken).2, List.cons_append]
      · rw [breaks] at unbroken
        cases unbroken _ (List.mem_singleton_self _)

/-- Behind events that leave no document open, others give documents of their own. -/
theorem ofEvents_append (closed : Closed events)
    (unbroken : ∀ document ∈ ofEvents none events .empty, document.fault = none) :
    ofEvents fault (events ++ later) .empty =
      ofEvents none events .empty ++ ofEvents fault later .empty := by
  obtain rfl | ⟨front, mark, rfl⟩ := closed
  · rfl
  · rw [List.append_assoc]
    exact ofEvents_append_documentEnd mark unbroken

/-- Whether all of some documents have values, namely these. -/
def Hold (documents : List DocumentTree) (values : List Value) : Prop :=
  documents.map (·.value) = values.map .ok

namespace Hold

variable {documents others : List DocumentTree} {values later : List Value}

theorem unbroken (hold : Hold documents values) :
    ∀ document ∈ documents, document.fault = none := by
  intro document member
  have value : document.value ∈ documents.map (·.value) := List.mem_map_of_mem member
  rw [hold] at value
  obtain ⟨value, -, same⟩ := List.mem_map.mp value
  exact fault_eq_none_of_value same.symm

theorem append (hold : Hold documents values) (behind : Hold others later) :
    Hold (documents ++ others) (values ++ later) := by
  unfold Hold at hold behind ⊢
  rw [List.map_append, List.map_append, hold, behind]

/-- Moved documents keep their values. -/
theorem mapMarks (hold : Hold documents values) (f : Mark → Mark) :
    Hold (documents.map (DocumentTree.mapMarks f)) values := by
  have moved : DocumentTree.value ∘ DocumentTree.mapMarks f =
      Except.mapError (Fault.mapMarks f) ∘ DocumentTree.value :=
    funext value_mapMarks
  unfold Hold at hold ⊢
  rw [List.map_map, moved, ← List.map_map, hold, List.map_map]
  rfl

end Hold

/-- A document without content is null. -/
theorem hold_empty (mark : Mark) :
    Hold (ofEvents none [.empty mark, ⟨.documentEnd, mark⟩] .empty) [.null] := by
  have read (reading : Reading) (depth : Nat) :
      reading.read depth .root (.scalar ⟨none, none, mark⟩ .plain "") 0 = .ok (.null, 0) := by
    cases depth <;> rfl
  have value : DocumentTree.value ⟨.scalar ⟨none, none, mark⟩ .plain "", 1, none⟩ = .ok .null := by
    rw [value_eq, read]
    rfl
  exact congrArg (fun value => [value]) value

/-- Behind the indicator of a document, a stream without a fault has the same documents,
perhaps with a null one in front of them. -/
theorem hold_atContent {tokens : List Token} {values : List Value}
    (accepted : (EventStream.ofTokens none tokens .start).fault = none)
    (hold : Hold (ofEvents none (EventStream.ofTokens none tokens .start).events .empty) values) :
    (EventStream.ofTokens none tokens .atContent).fault = none ∧ ∃ nulls,
      (∀ value ∈ nulls, value = .null) ∧
      Hold (ofEvents none (EventStream.ofTokens none tokens .atContent).events .empty)
        (nulls ++ values) := by
  obtain ⟨mark, bare⟩ | ⟨mark, empty⟩ | same := EventStream.ofTokens_start_cases accepted
  · rw [bare] at accepted hold
    exact ⟨accepted, [], nofun, hold⟩
  · rw [empty]
    refine ⟨accepted, [.null], by simp, ?_⟩
    exact (hold_empty mark).append hold
  · rw [same]
    exact ⟨accepted, [], nofun, hold⟩

end DocumentTree

/-! ## Events of two texts -/

theorem forbiddenOffset_eq_none {text : List Char} (allowed : ∀ c ∈ text, isAllowed c = true)
    (offset : Nat) : forbiddenOffset offset text = none := by
  induction text generalizing offset with
  | nil => rfl
  | cons c rest ih =>
      obtain ⟨first, others⟩ := List.forall_mem_cons.mp allowed
      rw [forbiddenOffset, if_pos first]
      exact ih others _

/-- The tokens of a text that has none but allowed characters. -/
theorem TokenStream.ofText_eq {text : List Char} (allowed : ∀ c ∈ text, isAllowed c = true) :
    ofText text = (Scanner.start text).runAll := by
  rw [ofText, forbiddenOffset_eq_none allowed]
  rfl

namespace Step

theorem prefix_stream (fault : Option Fault) (rest : List Token) (step : Step) :
    step.events <+: (step.stream fault rest).events := by
  unfold stream
  cases step.outcome with
  | error fault => exact List.prefix_refl _
  | ok next => exact List.prefix_append _ _

theorem stream_nil_events (fault : Option Fault) (step : Step) :
    (step.stream fault []).events = step.events := by
  unfold stream
  cases step.outcome with
  | error fault => rfl
  | ok next => exact List.append_nil _

theorem outcome_of_stream {fault : Option Fault} {rest : List Token} {step : Step}
    (accepted : (step.stream fault rest).fault = none) : ∃ next, step.outcome = .ok next := by
  unfold stream at accepted
  cases outcome : step.outcome with
  | error fault =>
      rw [outcome] at accepted
      cases accepted
  | ok next => exact ⟨next, rfl⟩

end Step

namespace EventStream

theorem ofTokens_prefix_events {fault other : Option Fault} {tokens later : List Token}
    (more : tokens <+: later) (grammar : Grammar) :
    (ofTokens fault tokens grammar).events <+: (ofTokens other later grammar).events := by
  induction tokens generalizing later grammar with
  | nil => exact List.nil_prefix
  | cons token rest ih =>
      obtain ⟨tail, rfl⟩ := more
      rw [List.cons_append, ofTokens_cons, ofTokens_cons, Step.stream, Step.stream]
      cases (Grammar.feed grammar.handles grammar.stack token).outcome with
      | error fault => exact List.prefix_refl _
      | ok next =>
          exact (List.prefix_append_right_inj _).mpr (ih (List.prefix_append rest tail) next)

/-- A fault of the tokens is a fault of the events. -/
theorem fault_eq_none {fault : Option Fault} {tokens : List Token} {grammar : Grammar}
    (accepted : (ofTokens fault tokens grammar).fault = none) : fault = none := by
  induction tokens generalizing grammar with
  | nil => exact accepted
  | cons token rest ih =>
      rw [ofTokens_cons, Step.stream] at accepted
      cases outcome : (Grammar.feed grammar.handles grammar.stack token).outcome with
      | error fault =>
          rw [outcome] at accepted
          cases accepted
      | ok next =>
          rw [outcome] at accepted
          exact ih accepted

/-- Where a stream of tokens ends, the start of a document may follow instead.  The events in
front of it stay, and it starts outside flow collections if the stream has no fault. -/
theorem ofTokens_seamed {fault : Option Fault} {tokens later : List Token} {mark stop : Mark}
    (live : flowDepth (some 0) tokens ≠ none) :
    (ofTokens none (tokens ++ [⟨.streamEnd, mark, mark⟩]) .start).events <+:
        (ofTokens fault (tokens ++ ⟨.documentStart, mark, stop⟩ :: later) .start).events ∧
      ((ofTokens none (tokens ++ [⟨.streamEnd, mark, mark⟩]) .start).fault = none →
        flowDepth (some 0) tokens = some 0 ∧
        Closed (ofTokens none (tokens ++ [⟨.streamEnd, mark, mark⟩]) .start).events ∧
        ofTokens fault (tokens ++ ⟨.documentStart, mark, stop⟩ :: later) .start =
          (ofTokens fault later .atContent).prepend
            ((ofTokens none (tokens ++ [⟨.streamEnd, mark, mark⟩]) .start).events ++
              [⟨.documentStart, mark⟩])) := by
  rw [ofTokens_append, ofTokens_append, Step.stream, Step.stream]
  cases outcome : (Grammar.feedAll tokens .start).outcome with
  | error fault =>
      refine ⟨List.prefix_refl _, fun accepted => ?_⟩
      cases accepted
  | ok next =>
      obtain ⟨opened, depth, phase⟩ :=
        Phase.run (.document true rfl (.inl rfl)) live outcome
      obtain ⟨front, ends⟩ := @Phase.ends next.handles _ _ _ phase mark stop
      dsimp only [prepend]
      rw [ofTokens_cons, ofTokens_cons, Step.stream_nil_events]
      refine ⟨?_, fun accepted => ?_⟩
      · rw [List.prefix_append_right_inj]
        exact front.trans (Step.prefix_stream _ _ _)
      · obtain ⟨last, outcome⟩ := Step.outcome_of_stream accepted
        obtain ⟨outside, closed, starts⟩ := ends last outcome
        rw [starts, depth, outside]
        exact ⟨rfl, closed, by simp [Step.stream, prepend]⟩

end EventStream

/-! ## Documents of two texts -/

/-- Two texts with a line of hyphens between them. -/
def seamed (text later : List Char) : List Char :=
  text ++ '-' :: '-' :: '-' :: '\n' :: later

section

variable {text later : List Char} (allowed : ∀ c ∈ text, isAllowed c = true)
  (allowed' : ∀ c ∈ later, isAllowed c = true) (ended : text = [] ∨ text.getLast? = some '\n')

include allowed allowed' ended

/-- The events of two texts: those of the first one stay, and if both have no fault, those of
the second one follow from the content of a document on. -/
theorem EventStream.ofText_seamed :
    (ofText text).events <+: (ofText (seamed text later)).events ∧
      ((ofText text).fault = none → (ofText later).fault = none →
        Closed (ofText text).events ∧ ∃ tokens f mark,
          ofText later = ofTokens none tokens .start ∧
          ofText (seamed text later) = ((ofTokens none tokens .atContent).mapMarks f).prepend
            ((ofText text).events ++ [⟨.documentStart, mark⟩])) := by
  have allowedBoth : ∀ c ∈ seamed text later, isAllowed c = true := by
    simp only [seamed, List.mem_append, List.mem_cons]
    rintro c (front | rfl | rfl | rfl | rfl | back)
    · exact allowed c front
    · rfl
    · rfl
    · rfl
    · rfl
    · exact allowed' c back
  simp only [ofText, TokenStream.ofText_eq allowed, TokenStream.ofText_eq allowed',
    TokenStream.ofText_eq allowedBoth]
  obtain ⟨fault, front⟩ | ⟨closed, tokens, alone, whole, live, beyond⟩ :=
    Scanner.runAll_seamed ended later
  · exact ⟨ofTokens_prefix_events front .start,
      fun accepted => (fault (fault_eq_none accepted)).elim⟩
  · rw [seamed, alone, whole, TokenStream.prepend, List.append_assoc, List.singleton_append]
    obtain ⟨front, seam⟩ := ofTokens_seamed live
    refine ⟨front, fun accepted accepted' => ?_⟩
    obtain ⟨outside, ends, follows⟩ := seam accepted
    refine ⟨ends, (Scanner.start later).runAll.tokens, Mark.placed closed.behind, closed.mark,
      ?_, ?_⟩
    · rw [fault_eq_none accepted']
    · have success : (Scanner.start later).runAll =
          ⟨(Scanner.start later).runAll.tokens, none⟩ := by
        rw [← fault_eq_none accepted']
      have placed : ((Scanner.start later).placed closed.behind).runAll = _ :=
        Scanner.runAll_placed_of_alone rfl (.start later) success
      have moved := @ofTokens_mapMarks (Mark.placed closed.behind) none
        (Scanner.start later).runAll.tokens .atContent
      rw [follows, beyond outside, placed, ← moved]
      rfl

namespace DocumentTree

/-- The documents of the first text up to its first fault are those of both texts. -/
theorem values_prefix_seamed {values : List Value}
    (front : values.map .ok <+: (ofText text).map (·.value)) :
    values.map .ok <+: (ofText (seamed text later)).map (·.value) :=
  ofEvents_prefix_values (EventStream.ofText_seamed allowed allowed' ended).1 front

/-- Two texts without faults hold the documents of both, perhaps with a null one between
them. -/
theorem hold_seamed {values others : List Value} (hold : Hold (ofText text) values)
    (behind : Hold (ofText later) others) :
    ∃ nulls, (∀ value ∈ nulls, value = .null) ∧
      Hold (ofText (seamed text later)) (values ++ (nulls ++ others)) := by
  have accepted := fault_eq_none hold.unbroken
  have accepted' := fault_eq_none behind.unbroken
  obtain ⟨closed, tokens, f, mark, alone, whole⟩ :=
    (EventStream.ofText_seamed allowed allowed' ended).2 accepted accepted'
  simp only [ofText] at hold behind ⊢
  rw [accepted] at hold
  rw [accepted', alone] at behind
  rw [alone] at accepted'
  obtain ⟨sound, nulls, empty, holds⟩ := hold_atContent accepted' behind
  refine ⟨nulls, empty, ?_⟩
  have moved := holds.mapMarks f
  rw [← ofEvents_mapMarks] at moved
  rw [whole]
  simp only [EventStream.prepend, EventStream.mapMarks, sound, List.append_assoc]
  rw [ofEvents_append closed hold.unbroken]
  exact hold.append moved

end DocumentTree

end

end ManifestLint.Yaml

namespace ManifestLint

open Yaml (Value documents isAllowed)
open ManifestError (document?)

namespace Manifest

/-! ## Resources of two texts -/

/-- A text with a manifest has documents with values. -/
theorem exists_values_of_resourcesFrom {index : Nat} {documents : List (Except Yaml.Fault Value)}
    {resources : List Resource} (accepted : resourcesFrom index documents = .ok resources) :
    ∃ values : List Value, documents = values.map .ok := by
  induction documents generalizing index resources with
  | nil => exact ⟨[], rfl⟩
  | cons document rest ih =>
      obtain ⟨value, resource, later, rfl, -, others, -⟩ := resourcesFrom_cons_eq_ok_iff.mp accepted
      obtain ⟨values, rfl⟩ := ih others
      exact ⟨value :: values, rfl⟩

/-- The resources of documents do not depend on their positions. -/
theorem resourcesFrom_eq_ok_congr {index : Nat} {documents : List (Except Yaml.Fault Value)}
    {resources : List Resource} (accepted : resourcesFrom index documents = .ok resources)
    (other : Nat) : resourcesFrom other documents = .ok resources := by
  induction documents generalizing index other resources with
  | nil => exact accepted
  | cons document rest ih =>
      obtain ⟨value, resource, later, rfl, first, others, rfl⟩ :=
        resourcesFrom_cons_eq_ok_iff.mp accepted
      exact resourcesFrom_cons_eq_ok_iff.mpr
        ⟨value, resource, later, rfl, resourceOf_eq_ok_congr first other, ih others _, rfl⟩

theorem resourcesFrom_append {index : Nat} {documents others : List (Except Yaml.Fault Value)}
    {front back : List Resource} (accepted : resourcesFrom index documents = .ok front)
    (accepted' : resourcesFrom index others = .ok back) :
    resourcesFrom index (documents ++ others) = .ok (front ++ back) := by
  induction documents generalizing index front with
  | nil =>
      cases accepted
      exact accepted'
  | cons document rest ih =>
      obtain ⟨value, resource, later, rfl, first, remaining, rfl⟩ :=
        resourcesFrom_cons_eq_ok_iff.mp accepted
      rw [List.append_assoc]
      exact resourcesFrom_cons_eq_ok_iff.mpr
        ⟨value, resource, later ++ back, rfl, first,
          ih remaining (resourcesFrom_eq_ok_congr accepted' _), rfl⟩

/-- Null documents declare nothing. -/
theorem resourcesFrom_nulls {nulls : List Value} (empty : ∀ value ∈ nulls, value = .null)
    (index : Nat) : resourcesFrom index (nulls.map .ok) = .ok [] := by
  induction nulls generalizing index with
  | nil => rfl
  | cons value rest ih =>
      obtain ⟨rfl, others⟩ := List.forall_mem_cons.mp empty
      exact resourcesFrom_cons_eq_ok_iff.mpr ⟨.null, none, [], rfl, rfl, ih others _, rfl⟩

/-- What is wrong with a document depends on it and the documents in front of it. -/
theorem exists_prefix_of_error {index : Nat} {documents : List (Except Yaml.Fault Value)}
    {error : ManifestError} (failure : resourcesFrom index documents = .error error)
    (placed : error.document?.isSome = true) :
    ∃ values : List Value, values.map .ok <+: documents ∧
      ∀ others, values.map .ok <+: others → resourcesFrom index others = .error error := by
  induction documents generalizing index with
  | nil => cases failure
  | cons document rest ih =>
      cases document with
      | error fault =>
          cases failure
          cases placed
      | ok value =>
          cases first : resourceOf index value with
          | error reason =>
              simp only [resourcesFrom, first, bind, Except.bind] at failure
              cases failure
              refine ⟨[value], List.cons_prefix_cons.mpr ⟨rfl, List.nil_prefix⟩, ?_⟩
              rintro others ⟨tail, rfl⟩
              simp [resourcesFrom, first, bind, Except.bind]
          | ok resource =>
              have remaining : resourcesFrom (index + 1) rest = .error error := by
                cases later : resourcesFrom (index + 1) rest with
                | error reason =>
                    simp only [resourcesFrom, first, later, bind, Except.bind] at failure
                    exact failure
                | ok resources =>
                    simp [resourcesFrom, first, later, bind, Except.bind, pure,
                      Except.pure] at failure
              obtain ⟨values, front, fails⟩ := ih remaining
              refine ⟨value :: values, List.cons_prefix_cons.mpr ⟨rfl, front⟩, ?_⟩
              rintro others ⟨tail, rfl⟩
              have later := fails _ (List.prefix_append (values.map .ok) tail)
              simp [resourcesFrom, first, later, bind, Except.bind]

theorem read_eq_ok_iff {text : String} {manifest : Manifest} :
    read text = .ok manifest ↔ resourcesFrom 0 (documents text) = .ok manifest.resources := by
  unfold read
  cases resourcesFrom 0 (documents text) with
  | error error => simp [Except.map]
  | ok resources =>
      obtain ⟨declared⟩ := manifest
      simp [Except.map]

theorem read_eq_error_iff {text : String} {error : ManifestError} :
    read text = .error error ↔ resourcesFrom 0 (documents text) = .error error := by
  unfold read
  cases resourcesFrom 0 (documents text) <;> simp [Except.map]

/-! ## Main statement -/

/-- A text that is empty or ends with a line break, and another one behind a line of hyphens.
If both are manifests, their resources follow one another.  If a document of the first one is
at fault, the error names it, whatever the other text is. -/
theorem read_joined (first second : String) (allowed : ∀ c ∈ first.toList, isAllowed c = true)
    (allowed' : ∀ c ∈ second.toList, isAllowed c = true)
    (ended : first = "" ∨ first.toList.getLast? = some '\n') :
    (∀ front back, read first = .ok front → read second = .ok back →
      read (first ++ "---\n" ++ second) = .ok ⟨front.resources ++ back.resources⟩) ∧
    ∀ error, read first = .error error → error.document?.isSome = true →
      read (first ++ "---\n" ++ second) = .error error := by
  have joined : documents (first ++ "---\n" ++ second) =
      (Yaml.DocumentTree.ofText (Yaml.seamed first.toList second.toList)).map (·.value) := by
    simp [documents, Yaml.seamed]
  have ended : first.toList = [] ∨ first.toList.getLast? = some '\n' := by
    simpa using ended
  constructor
  · intro front back accepted accepted'
    rw [read_eq_ok_iff] at accepted accepted' ⊢
    obtain ⟨values, hold⟩ := exists_values_of_resourcesFrom accepted
    obtain ⟨others, behind⟩ := exists_values_of_resourcesFrom accepted'
    obtain ⟨nulls, empty, whole⟩ :=
      Yaml.DocumentTree.hold_seamed allowed allowed' ended hold behind
    have silent := resourcesFrom_nulls empty 0
    rw [hold] at accepted
    rw [behind] at accepted'
    rw [joined, whole, List.map_append, List.map_append]
    exact resourcesFrom_append accepted (resourcesFrom_append silent accepted')
  · intro error failure placed
    rw [read_eq_error_iff] at failure ⊢
    obtain ⟨values, front, fails⟩ := exists_prefix_of_error failure placed
    rw [joined]
    exact fails _ (Yaml.DocumentTree.values_prefix_seamed allowed allowed' ended front)

/-- A pipeline with a null document behind it. -/
def buildText : String :=
  "kind: pipeline\nname: build\nsteps: []\n---\n"

/-- A secret with a comment in front of it. -/
def secretText : String :=
  "# a secret\nkind: secret\nname: token\n"

/-- A null document and one without a kind. -/
def kindlessText : String :=
  "---\n---\nname: token\n"

theorem read_joined_texts :
    (∃ front back, read buildText = .ok front ∧ read secretText = .ok back ∧
      read (buildText ++ "---\n" ++ secretText) = .ok ⟨front.resources ++ back.resources⟩) ∧
    ∃ error, read kindlessText = .error error ∧ error.document? = some 1 ∧
      read (kindlessText ++ "---\n" ++ "[") = .error error := by
  have allowed : ∀ c ∈ buildText.toList, isAllowed c = true :=
    List.all_eq_true.mp (by decide +kernel)
  have allowed' : ∀ c ∈ secretText.toList, isAllowed c = true :=
    List.all_eq_true.mp (by decide +kernel)
  have allowed'' : ∀ c ∈ kindlessText.toList, isAllowed c = true :=
    List.all_eq_true.mp (by decide +kernel)
  have bracket : ∀ c ∈ "[".toList, isAllowed c = true :=
    List.all_eq_true.mp (by decide +kernel)
  have joined := read_joined buildText secretText allowed allowed' (.inr (by decide +kernel))
  have broken := read_joined kindlessText "[" allowed'' bracket (.inr (by decide +kernel))
  have accepted : (read buildText).isOk = true := by decide +kernel
  have accepted' : (read secretText).isOk = true := by decide +kernel
  have refused : ((read kindlessText).mapError document?).map (fun _ => ()) = .error (some 1) := by
    decide +kernel
  constructor
  · cases front : read buildText with
    | error error =>
        rw [front] at accepted
        cases accepted
    | ok front' =>
        cases back : read secretText with
        | error error =>
            rw [back] at accepted'
            cases accepted'
        | ok back' => exact ⟨front', back', rfl, rfl, joined.1 front' back' front back⟩
  · cases failure : read kindlessText with
    | ok manifest =>
        rw [failure] at refused
        cases refused
    | error error =>
        rw [failure] at refused
        have position : error.document? = some 1 := Except.error.inj refused
        refine ⟨error, rfl, position, broken.2 error failure ?_⟩
        rw [position]
        rfl

end Manifest

end ManifestLint
