import ManifestLint.Yaml.Token

/-!
# Events

The nodes of a stream of documents, in the order in which they start and end.
A tag is the octets that its handle and its suffix stand for together.
-/

namespace ManifestLint.Yaml

/-- What may stand before the content of a node. -/
structure Properties where
  anchor : Option String := none
  tag : Option (List UInt8) := none
deriving DecidableEq, Repr

/-- What happens at a place of a stream. -/
inductive EventKind where
  | documentStart
  | documentEnd
  | alias (name : String)
  | scalar (properties : Properties) (style : ScalarStyle) (text : String)
  | sequenceStart (properties : Properties)
  | sequenceEnd
  | mappingStart (properties : Properties)
  | mappingEnd
deriving DecidableEq, Repr

/-- An event and its place. -/
structure Event where
  kind : EventKind
  mark : Mark
deriving DecidableEq, Repr

/-- The event of a plain scalar without content. -/
def Event.empty (mark : Mark) : Event :=
  ⟨.scalar {} .plain "", mark⟩

end ManifestLint.Yaml
