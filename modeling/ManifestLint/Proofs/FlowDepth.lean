import ManifestLint.Yaml.Event.Grammar

/-!
# The depth of flow collections

Every token that opens a flow collection makes the text deeper, and every token that
closes one makes it shallower again.  The end of the stream has nothing behind it; the
other tokens may stand anywhere.
-/

namespace ManifestLint.Yaml

/-- The number of open flow collections behind a token, if there is something. -/
def TokenKind.deepen (depth : Option Nat) : TokenKind → Option Nat
  | .streamEnd => none
  | .flowSequenceStart => depth.map (· + 1)
  | .flowMappingStart => depth.map (· + 1)
  | .flowSequenceEnd => depth.map (· - 1)
  | .flowMappingEnd => depth.map (· - 1)
  | _ => depth

/-- Whether a token neither opens nor closes a flow collection. -/
def TokenKind.Flat (kind : TokenKind) : Prop :=
  ∀ depth, kind.deepen depth = depth

/-- The number of open flow collections behind some tokens. -/
def flowDepth (depth : Option Nat) (tokens : List Token) : Option Nat :=
  tokens.foldl (fun depth token => token.kind.deepen depth) depth

theorem flowDepth_cons (depth : Option Nat) (token : Token) (tokens : List Token) :
    flowDepth depth (token :: tokens) = flowDepth (token.kind.deepen depth) tokens :=
  rfl

theorem flowDepth_append (depth : Option Nat) (tokens later : List Token) :
    flowDepth depth (tokens ++ later) = flowDepth (flowDepth depth tokens) later :=
  List.foldl_append

theorem flowDepth_insert {kind : TokenKind} (flat : kind.Flat) (depth : Option Nat) (place : Nat)
    (tokens : List Token) (start stop : Mark) :
    flowDepth depth (tokens.take place ++ ⟨kind, start, stop⟩ :: tokens.drop place) =
      flowDepth depth tokens :=
  calc
    _ = flowDepth (kind.deepen (flowDepth depth (tokens.take place))) (tokens.drop place) :=
      flowDepth_append depth _ _
    _ = flowDepth depth (tokens.take place ++ tokens.drop place) := by
      rw [flat, flowDepth_append]
    _ = flowDepth depth tokens := by
      rw [List.take_append_drop]

/-- Behind the end of the stream no depth comes back. -/
theorem flowDepth_none (tokens : List Token) : flowDepth none tokens = none := by
  induction tokens with
  | nil => rfl
  | cons token rest ih =>
      have ended : token.kind.deepen none = none := by
        cases token.kind <;> rfl
      rw [flowDepth_cons, ended, ih]

end ManifestLint.Yaml
