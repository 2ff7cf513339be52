import ManifestLint.Proofs.GrammarFrames

/-!
# Phases of the grammar

Between two tokens the grammar stands between documents or inside one.  It can end a
stream only where no flow collection is open, and there it can start a document as well.
-/

namespace ManifestLint.Yaml

open Grammar

variable {handles : List TagHandle} {token : Token} {upper stack : List Expectation}

/-! ## Tokens inside a document -/

/-- Expectations of open nodes take a token whatever lies below, or pass it on. -/
theorem feed_upper (handles : List TagHandle) (token : Token)
    (inner : ∀ expectation ∈ upper, expectation.Inner) :
    Framed handles token.kind (stackDepth upper)
        (fun stack => feed handles (upper ++ stack) token) ∨
      stackDepth upper = 0 ∧ ∃ events, ∀ stack,
        feed handles (upper ++ stack) token = (feed handles stack token).after events := by
  induction upper with
  | nil => exact .inr ⟨rfl, [], fun _ => rfl⟩
  | cons expectation rest ih =>
      obtain ⟨own, others⟩ := List.forall_mem_cons.mp inner
      rw [stackDepth_cons]
      obtain framed | ⟨flat, events, passes⟩ := feed_cons handles token own
      · exact .inl (framed.raised rest others)
      · rw [flat, Nat.zero_add]
        simp only [List.cons_append, passes]
        obtain framed | ⟨flat, later, passes'⟩ := ih others
        · exact .inl (framed.after events)
        · right
          refine ⟨flat, events ++ later, fun stack => ?_⟩
          rw [passes', Step.after_after]

/-! ## Phases -/

/-- Whether events end where no document is open. -/
def Closed (events : List Event) : Prop :=
  events = [] ∨ ∃ front mark, events = front ++ [⟨.documentEnd, mark⟩]

theorem closed_documentEnd (front : List Event) (mark : Mark) :
    Closed (front ++ [⟨.documentEnd, mark⟩]) :=
  .inr ⟨front, mark, rfl⟩

/-- What holds between two tokens, with a number of flow collections open, behind some
events. -/
inductive Phase (opened : Nat) (events : List Event) : List Expectation → Prop
  | document (first : Bool) (outside : opened = 0) (closed : Closed events) :
      Phase opened events [.document first]
  | directives (version : Bool) (outside : opened = 0) (closed : Closed events) :
      Phase opened events [.directives version, .document false]
  | within (upper : List Expectation) (inner : ∀ expectation ∈ upper, expectation.Inner)
      (bound : opened ≤ stackDepth upper) :
      Phase opened events (upper ++ [.documentEnd, .document false])

/-- Whether a step leads from the depth in front of its token to a phase behind it. -/
def Leads (kind : TokenKind) (opened : Nat) (events : List Event) (step : Step) : Prop :=
  ∀ next, step.outcome = .ok next → ∃ behind, kind.deepen (some opened) = some behind ∧
    Phase behind (events ++ step.events) next.stack

namespace Leads

variable {kind : TokenKind} {opened : Nat} {events later : List Event} {step : Step}

theorem failed {fault : Fault} : Leads kind opened events (.failed fault) :=
  nofun

theorem give (flat : kind.Flat) (phase : Phase opened (events ++ later) stack) :
    Leads kind opened events (.give handles later stack) := by
  rintro next ⟨⟩
  exact ⟨opened, flat _, phase⟩

theorem after (leads : Leads kind opened (events ++ later) step) :
    Leads kind opened events (step.after later) := by
  intro next success
  obtain ⟨behind, deeper, phase⟩ := leads next success
  refine ⟨behind, deeper, ?_⟩
  rw [Step.after, ← List.append_assoc]
  exact phase

theorem of_framed {take : List Expectation → Step} {depth : Nat}
    (framed : Framed handles kind depth take) (bound : opened ≤ depth) :
    Leads kind opened events (take [.documentEnd, .document false]) := by
  obtain ⟨own, outcome, same, facts⟩ := framed
  intro next success
  rw [same] at success ⊢
  cases outcome with
  | error fault => cases success
  | ok upper =>
      cases success
      obtain ⟨inner, covers⟩ := facts upper rfl
      obtain ⟨behind, deeper, bound⟩ := covers 0 opened bound
      exact ⟨behind, deeper, .within upper inner bound⟩

theorem takeDirective {version : Bool} (closed : Closed events) :
    Leads token.kind 0 events (takeDirective handles version [.document false] token) := by
  have closed' : Closed (events ++ []) := by rwa [List.append_nil]
  unfold Grammar.takeDirective
  split
  · rename_i kind
    rw [kind]
    split
    · exact .failed
    · split
      · exact .give (fun _ => rfl) (.directives true rfl closed')
      · exact .failed
  · rename_i kind
    rw [kind]
    split
    · exact .failed
    · exact .give (fun _ => rfl) (.directives version rfl closed')
  · rename_i kind
    rw [kind]
    exact .give (fun _ => rfl) (.within [.content] (by simp [Expectation.Inner]) (Nat.zero_le _))
  · exact .failed

theorem takeDocument {first : Bool} (live : token.kind ≠ .streamEnd) (closed : Closed events) :
    Leads token.kind 0 events (takeDocument first [] token) := by
  have bare : Leads token.kind 0 events (takeBareDocument [] token) :=
    (of_framed (framed_takeNode .block) (Nat.zero_le _)).after
  unfold Grammar.takeDocument
  split
  · contradiction
  · rename_i kind
    split
    · exact bare
    · rw [kind]
      exact .give (fun _ => rfl) (.document false rfl (by rwa [List.append_nil]))
  · exact .takeDirective closed
  · exact .takeDirective closed
  · exact .takeDirective closed
  · split
    · exact bare
    · exact .failed

end Leads

variable {opened : Nat} {events : List Event}

/-- A token leads from phase to phase. -/
theorem Phase.leads (phase : Phase opened events stack) (live : token.kind ≠ .streamEnd) :
    Leads token.kind opened events (feed handles stack token) := by
  cases phase with
  | document first outside closed =>
      rw [outside]
      exact .takeDocument live closed
  | directives version outside closed =>
      rw [outside]
      exact .takeDirective closed
  | within upper inner bound =>
      obtain framed | ⟨flat, later, passes⟩ := feed_upper handles token inner
      · exact .of_framed framed bound
      · have outside : opened = 0 := by omega
        rw [passes, outside]
        apply Leads.after
        unfold feed
        split
        · rename_i kind
          rw [kind]
          exact .give (fun _ => rfl) (.document false rfl (closed_documentEnd _ _))
        · exact .after (.takeDocument live (closed_documentEnd _ _))

/-! ## Runs -/

namespace Grammar

/-- Feed some tokens one after the other. -/
def feedAll : List Token → Grammar → Step
  | [], grammar => ⟨[], .ok grammar⟩
  | token :: rest, grammar =>
      let step := feed grammar.handles grammar.stack token
      match step.outcome with
      | .error fault => ⟨step.events, .error fault⟩
      | .ok next => (feedAll rest next).after step.events

end Grammar

/-- Tokens lead from phase to phase until the stream ends. -/
theorem Phase.run {grammar next : Grammar} {tokens : List Token}
    (phase : Phase opened events grammar.stack) (live : flowDepth (some opened) tokens ≠ none)
    (success : (feedAll tokens grammar).outcome = .ok next) :
    ∃ behind, flowDepth (some opened) tokens = some behind ∧
      Phase behind (events ++ (feedAll tokens grammar).events) next.stack := by
  induction tokens generalizing opened events grammar with
  | nil =>
      cases success
      refine ⟨opened, rfl, ?_⟩
      rw [Grammar.feedAll, List.append_nil]
      exact phase
  | cons token rest ih =>
      have inside : token.kind ≠ .streamEnd := by
        intro last
        rw [flowDepth_cons, last] at live
        exact live (flowDepth_none rest)
      rw [feedAll] at success ⊢
      cases outcome : (feed grammar.handles grammar.stack token).outcome with
      | error fault =>
          rw [outcome] at success
          cases success
      | ok middle =>
          rw [outcome] at success
          obtain ⟨behind, deeper, phase'⟩ := phase.leads inside middle outcome
          rw [flowDepth_cons, deeper] at live ⊢
          obtain ⟨last, depth, phase''⟩ := ih phase' live success
          refine ⟨last, depth, ?_⟩
          rw [List.append_assoc] at phase''
          exact phase''

/-- The events of the rest of a stream, behind those of a step. -/
def Step.stream (fault : Option Fault) (rest : List Token) (step : Step) : EventStream :=
  match step.outcome with
  | .error fault => ⟨step.events, some fault⟩
  | .ok next => (EventStream.ofTokens fault rest next).prepend step.events

theorem Step.stream_after (fault : Option Fault) (rest : List Token) (events : List Event)
    (step : Step) :
    (step.after events).stream fault rest = (step.stream fault rest).prepend events := by
  unfold stream
  cases outcome : step.outcome <;> simp [after, outcome, EventStream.prepend]

theorem EventStream.ofTokens_cons (fault : Option Fault) (token : Token) (rest : List Token)
    (grammar : Grammar) :
    ofTokens fault (token :: rest) grammar =
      (feed grammar.handles grammar.stack token).stream fault rest :=
  rfl

theorem EventStream.ofTokens_append (fault : Option Fault) (tokens later : List Token)
    (grammar : Grammar) :
    ofTokens fault (tokens ++ later) grammar = (feedAll tokens grammar).stream fault later := by
  induction tokens generalizing grammar with
  | nil => rfl
  | cons token rest ih =>
      rw [List.cons_append, ofTokens, feedAll]
      cases outcome : (feed grammar.handles grammar.stack token).outcome with
      | error fault => rfl
      | ok middle =>
          dsimp only
          rw [ih, Step.stream_after]

/-! ## The end of a stream -/

/-- Whether a token of this kind ends all nodes of a document. -/
def TokenKind.Final (kind : TokenKind) : Prop :=
  kind = .streamEnd ∨ kind = .documentStart

/-- Whether expectations refuse the tokens that end all nodes, or pass them on, with the same
events for all of these tokens at a place. -/
def Finishes (handles : List TagHandle) (mark : Mark) (upper : List Expectation) : Prop :=
  ∃ events, (∀ kind, kind.Final → ∀ stop stack, ∃ fault,
      feed handles (upper ++ stack) ⟨kind, mark, stop⟩ = ⟨events, .error fault⟩) ∨
    ∀ kind, kind.Final → ∀ stop stack,
      feed handles (upper ++ stack) ⟨kind, mark, stop⟩ =
        (feed handles stack ⟨kind, mark, stop⟩).after events

theorem finishes_singleton (handles : List TagHandle) {expectation : Expectation}
    (inner : expectation.Inner) (mark : Mark) : Finishes handles mark [expectation] := by
  simp only [Finishes, List.singleton_append]
  cases expectation with
  | document _ => exact inner.elim
  | directives _ => exact inner.elim
  | documentEnd => exact inner.elim
  | content =>
      exact ⟨[.empty mark], .inr (by rintro _ (rfl | rfl) stop stack <;> rfl)⟩
  | indentlessEntry =>
      exact ⟨[⟨.sequenceEnd, mark⟩], .inr (by rintro _ (rfl | rfl) stop stack <;> rfl)⟩
  | properties place written =>
      cases resolved : resolveProperties handles written with
      | error fault =>
          refine ⟨[], .inl ?_⟩
          rintro _ (rfl | rfl) stop stack <;>
            exact ⟨fault, by simp only [feed, takeProperty, resolved]; rfl⟩
      | ok properties =>
          refine ⟨[⟨.scalar properties .plain "", written.start⟩], .inr ?_⟩
          rintro _ (rfl | rfl) stop stack <;>
            simp only [feed, takeProperty, takeContent, resolved]
  | blockValue _ =>
      exact ⟨[.empty mark], .inl (by rintro _ (rfl | rfl) stop stack <;> exact ⟨_, rfl⟩)⟩
  | pairValue _ =>
      exact ⟨[.empty mark, ⟨.mappingEnd, mark⟩],
        .inl (by rintro _ (rfl | rfl) stop stack <;> exact ⟨_, rfl⟩)⟩
  | pairEnd _ =>
      exact ⟨[⟨.mappingEnd, mark⟩], .inl (by rintro _ (rfl | rfl) stop stack <;> exact ⟨_, rfl⟩)⟩
  | flowValue _ =>
      exact ⟨[.empty mark], .inl (by rintro _ (rfl | rfl) stop stack <;> exact ⟨_, rfl⟩)⟩
  | flowNoValue _ =>
      exact ⟨[.empty mark], .inl (by rintro _ (rfl | rfl) stop stack <;> exact ⟨_, rfl⟩)⟩
  | _ => exact ⟨[], .inl (by rintro _ (rfl | rfl) stop stack <;> exact ⟨_, rfl⟩)⟩

theorem Finishes.append {mark : Mark} {lower : List Expectation}
    (first : Finishes handles mark upper) (second : Finishes handles mark lower) :
    Finishes handles mark (upper ++ lower) := by
  simp only [Finishes, List.append_assoc]
  obtain ⟨events, refuses | passes⟩ := first
  · exact ⟨events, .inl fun kind final stop stack => refuses kind final stop (lower ++ stack)⟩
  · obtain ⟨later, refuses | passes'⟩ := second
    · refine ⟨events ++ later, .inl fun kind final stop stack => ?_⟩
      obtain ⟨fault, failed⟩ := refuses kind final stop stack
      refine ⟨fault, ?_⟩
      rw [passes kind final, failed]
      rfl
    · refine ⟨events ++ later, .inr fun kind final stop stack => ?_⟩
      rw [passes kind final, passes' kind final, Step.after_after]

theorem finishes (handles : List TagHandle) (inner : ∀ expectation ∈ upper, expectation.Inner)
    (mark : Mark) : Finishes handles mark upper := by
  induction upper with
  | nil => exact ⟨[], .inr fun _ _ _ _ => rfl⟩
  | cons expectation rest ih =>
      obtain ⟨own, others⟩ := List.forall_mem_cons.mp inner
      exact (finishes_singleton handles own mark).append (ih others)

/-- The grammar behind the indicator of a document. -/
def Grammar.atContent : Grammar :=
  ⟨[.content, .documentEnd, .document false], []⟩

/-- A document may start where the stream may end, which is outside flow collections only. -/
theorem Phase.ends (phase : Phase opened events stack) (mark stop : Mark) :
    (feed handles stack ⟨.streamEnd, mark, mark⟩).events <+:
        (feed handles stack ⟨.documentStart, mark, stop⟩).events ∧
      ∀ next, (feed handles stack ⟨.streamEnd, mark, mark⟩).outcome = .ok next →
        opened = 0 ∧ Closed (events ++ (feed handles stack ⟨.streamEnd, mark, mark⟩).events) ∧
        feed handles stack ⟨.documentStart, mark, stop⟩ =
          ⟨(feed handles stack ⟨.streamEnd, mark, mark⟩).events ++ [⟨.documentStart, mark⟩],
            .ok .atContent⟩ := by
  cases phase with
  | document first outside closed =>
      refine ⟨List.nil_prefix, fun next success => ⟨outside, ?_, rfl⟩⟩
      have silent : (feed handles [.document first] ⟨.streamEnd, mark, mark⟩).events = [] := rfl
      rwa [silent, List.append_nil]
  | directives version outside closed => exact ⟨List.nil_prefix, nofun⟩
  | within upper inner bound =>
      obtain ⟨later, refuses | passes⟩ := finishes handles inner mark
      · obtain ⟨fault, last⟩ := refuses .streamEnd (.inl rfl) mark [.documentEnd, .document false]
        obtain ⟨fault', next⟩ := refuses .documentStart (.inr rfl) stop
          [.documentEnd, .document false]
        rw [last, next]
        exact ⟨List.prefix_refl _, nofun⟩
      · -- Nothing is open behind the end of the stream, so no node can have taken it.
        have outside : stackDepth upper = 0 := by
          obtain framed | ⟨flat, -⟩ :=
            feed_upper handles ⟨.streamEnd, mark, mark⟩ inner
          · have leads := @Leads.of_framed _ _ _ [] _ _ framed (Nat.le_refl _)
            rw [passes .streamEnd (.inl rfl)] at leads
            obtain ⟨behind, deeper, -⟩ := leads _ rfl
            cases deeper
          · exact flat
        rw [passes .streamEnd (.inl rfl), passes .documentStart (.inr rfl)]
        have last : feed handles [.documentEnd, .document false] ⟨.streamEnd, mark, mark⟩ =
            .give [] [⟨.documentEnd, mark⟩] [] := rfl
        have next : feed handles [.documentEnd, .document false] ⟨.documentStart, mark, stop⟩ =
            .give [] [⟨.documentEnd, mark⟩, ⟨.documentStart, mark⟩] Grammar.atContent.stack := rfl
        rw [last, next]
        refine ⟨by simp [Step.after, Step.give], fun _ _ => ⟨?_, ?_, ?_⟩⟩
        · omega
        · rw [Step.after, ← List.append_assoc]
          exact closed_documentEnd _ _
        · simp [Step.after, Step.give, Grammar.atContent]

/-! ## The start of a stream -/

/-- At the start of a stream a token starts a document without an indicator, which reads on
like one with it; or it ends the empty document that an indicator in front of it starts; or
it is refused. -/
theorem feed_start_cases (token : Token) :
    feed [] [.document true] token =
        (feed [] Grammar.atContent.stack token).after [⟨.documentStart, token.start⟩] ∨
      feed [] Grammar.atContent.stack token =
        (feed [] [.document true] token).after
          [.empty token.start, ⟨.documentEnd, token.start⟩] ∨
      ∃ fault, (feed [] [.document true] token).outcome = .error fault := by
  obtain ⟨kind, first, stop⟩ := token
  cases kind with
  | streamEnd => exact .inr (.inl rfl)
  | version major minor => exact .inr (.inl rfl)
  | tagDirective handle image => exact .inr (.inl rfl)
  | documentStart => exact .inr (.inl rfl)
  | documentEnd => exact .inr (.inr ⟨_, rfl⟩)
  | _ => exact .inl rfl

/-- A stream without a fault has the same events behind the indicator of a document, but for
the indicator itself or the empty document behind it. -/
theorem EventStream.ofTokens_start_cases {fault : Option Fault} {tokens : List Token}
    (accepted : (ofTokens fault tokens .start).fault = none) :
    (∃ mark, ofTokens fault tokens .start =
        (ofTokens fault tokens .atContent).prepend [⟨.documentStart, mark⟩]) ∨
      (∃ mark, ofTokens fault tokens .atContent =
        (ofTokens fault tokens .start).prepend [.empty mark, ⟨.documentEnd, mark⟩]) ∨
      ofTokens fault tokens .atContent = ofTokens fault tokens .start := by
  cases tokens with
  | nil => exact .inr (.inr rfl)
  | cons token rest =>
      simp only [ofTokens_cons, Grammar.start] at accepted ⊢
      obtain bare | empty | ⟨fault, refused⟩ := feed_start_cases token
      · refine .inl ⟨token.start, ?_⟩
        rw [bare, Step.stream_after]
        rfl
      · refine .inr (.inl ⟨token.start, ?_⟩)
        rw [← Step.stream_after, ← empty]
        rfl
      · rw [Step.stream, refused] at accepted
        cases accepted

end ManifestLint.Yaml
