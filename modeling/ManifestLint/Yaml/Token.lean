import ManifestLint.Yaml.Fault

/-!
# Tokens

The tokens of a YAML text.  A tag is a handle and the octets behind it, since
an escape in a tag gives an octet and not a character.
-/

namespace ManifestLint.Yaml

/-- How a scalar is written. -/
inductive ScalarStyle where
  | plain
  | quoted
  | block
deriving DecidableEq, Repr

/-- The kind of a token and its content. -/
inductive TokenKind where
  | streamEnd
  | version (major minor : Nat)
  | tagDirective (handle : String) (image : List UInt8)
  | documentStart
  | documentEnd
  | blockSequenceStart
  | blockMappingStart
  | blockEnd
  | flowSequenceStart
  | flowSequenceEnd
  | flowMappingStart
  | flowMappingEnd
  | blockEntry
  | flowEntry
  | key
  | value
  | alias (name : String)
  | anchor (name : String)
  | tag (handle : String) (suffix : List UInt8)
  | scalar (style : ScalarStyle) (text : String)
deriving DecidableEq, Repr

/-- A token and the places of its start and its end. -/
structure Token where
  kind : TokenKind
  start : Mark
  stop : Mark
deriving DecidableEq, Repr

/-- Give up on a text at a place. -/
def misplaced (problem : Problem) (mark : Mark) (activity : Activity) (start : Mark) :
    Except Fault α :=
  .error (.misplaced problem mark (some (activity, start)))

end ManifestLint.Yaml
