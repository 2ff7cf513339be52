import ManifestLint.Yaml.Event.Grammar

/-!
# Trees of nodes

The nodes of a document as a tree.  Anchors are numbered in the order of their
names, and an alias has the number of its name.  Where the events of a document
break off, the tree holds a mark for what is missing.
-/

namespace ManifestLint.Yaml

/-- What is known of a node besides its content. -/
structure NodeInfo where
  anchor : Option Nat
  tag : Option (List UInt8)
  mark : Mark
deriving Repr

/-- A node of a document. -/
inductive Node where
  /-- What would have come where the document breaks off. -/
  | missing
  | alias (number : Nat) (mark : Mark)
  | scalar (info : NodeInfo) (style : ScalarStyle) (text : String)
  | sequence (info : NodeInfo) (items : List Node)
  | mapping (info : NodeInfo) (entries : List (Node × Node))
deriving Repr, Inhabited

namespace Node

/-- The anchor of a node together with the node, if it has one. -/
def ownAnchor (info : NodeInfo) (node : Node) : List (Nat × Node) :=
  (info.anchor.map fun number => (number, node)).toList

mutual

/-- The anchored nodes of a tree in the order in which they start. -/
def anchored : Node → List (Nat × Node)
  | .missing => []
  | .alias _ _ => []
  | .scalar info style text => ownAnchor info (.scalar info style text)
  | .sequence info items => ownAnchor info (.sequence info items) ++ anchoredItems items
  | .mapping info entries => ownAnchor info (.mapping info entries) ++ anchoredEntries entries

/-- The anchored nodes of the items of a sequence. -/
def anchoredItems : List Node → List (Nat × Node)
  | [] => []
  | item :: rest => anchored item ++ anchoredItems rest

/-- The anchored nodes of the entries of a mapping. -/
def anchoredEntries : List (Node × Node) → List (Nat × Node)
  | [] => []
  | (key, value) :: rest => anchored key ++ anchored value ++ anchoredEntries rest

end

end Node

/-- A document as far as its events go, the number of those, and the fault that
breaks it off. -/
structure DocumentTree where
  root : Node
  eventCount : Nat
  fault : Option Fault

/-- A collection that is still open.  Its parts are reversed; a mapping may have
a key that waits for its value. -/
inductive OpenNode where
  | sequence (info : NodeInfo) (reversed : List Node)
  | mapping (info : NodeInfo) (reversed : List (Node × Node)) (key : Option Node)

namespace OpenNode

/-- Add a node to an open collection. -/
def add (node : Node) : OpenNode → OpenNode
  | .sequence info reversed => .sequence info (node :: reversed)
  | .mapping info reversed none => .mapping info reversed (some node)
  | .mapping info reversed (some key) => .mapping info ((key, node) :: reversed) none

/-- The collection when it ends. -/
def close : OpenNode → Node
  | .sequence info reversed => .sequence info reversed.reverse
  | .mapping info reversed _ => .mapping info reversed.reverse

/-- The collection when its document breaks off. -/
def breakOff : OpenNode → Node
  | .sequence info reversed => .sequence info (.missing :: reversed).reverse
  | .mapping info reversed none => .mapping info ((.missing, .missing) :: reversed).reverse
  | .mapping info reversed (some key) => .mapping info ((key, .missing) :: reversed).reverse

end OpenNode

/-- The state of building the tree of a document. -/
structure TreeBuilder where
  /-- The open collections, the innermost first. -/
  enclosing : List OpenNode
  root : Option Node
  /-- The names of anchors with their latest numbers. -/
  names : List (String × Nat)
  eventCount : Nat

namespace TreeBuilder

/-- The state at the start of a document. -/
def empty : TreeBuilder :=
  ⟨[], none, [], 0⟩

/-- Add a finished node. -/
def add (builder : TreeBuilder) (node : Node) : TreeBuilder :=
  match builder.enclosing with
  | [] => { builder with root := some node }
  | innermost :: outer => { builder with enclosing := innermost.add node :: outer }

/-- Count an event. -/
def count (builder : TreeBuilder) : TreeBuilder :=
  { builder with eventCount := builder.eventCount + 1 }

/-- Number an anchor by the count of names so far. -/
def nameAnchor (builder : TreeBuilder) (name : String) : Nat × TreeBuilder :=
  let number := builder.names.length
  (number,
    { builder with
      names := (name, number) :: builder.names.filter fun known => known.1 ≠ name })

/-- What is known of a node that starts here. -/
def describe (builder : TreeBuilder) (properties : Properties) (mark : Mark) :
    NodeInfo × TreeBuilder :=
  match properties.anchor with
  | none => (⟨none, properties.tag, mark⟩, builder)
  | some name =>
      let (number, builder) := builder.nameAnchor name
      (⟨some number, properties.tag, mark⟩, builder)

/-- Open a collection. -/
def enter (builder : TreeBuilder) (node : OpenNode) : TreeBuilder :=
  { builder with enclosing := node :: builder.enclosing }

/-- Close the innermost collection. -/
def leave (builder : TreeBuilder) : TreeBuilder :=
  match builder.enclosing with
  | [] => builder
  | innermost :: outer => { builder with enclosing := outer }.add innermost.close

/-- The document when it ends. -/
def finish (builder : TreeBuilder) : DocumentTree :=
  ⟨builder.root.getD .missing, builder.eventCount, none⟩

/-- The tree of open collections when the document breaks off. -/
def breakOffRoot (root : Node) : List OpenNode → Node
  | [] => root
  | innermost :: outer => breakOffOuter innermost.breakOff outer
where
  /-- Put a broken collection into those around it. -/
  breakOffOuter (node : Node) : List OpenNode → Node
    | [] => node
    | innermost :: outer => breakOffOuter (innermost.add node).breakOff outer

/-- The document when it breaks off. -/
def breakOff (builder : TreeBuilder) (fault : Fault) : DocumentTree :=
  ⟨breakOffRoot (builder.root.getD .missing) builder.enclosing, builder.eventCount, some fault⟩

end TreeBuilder

namespace DocumentTree

/-- The documents of the rest of a stream of events. -/
def ofEvents (fault : Option Fault) : List Event → TreeBuilder → List DocumentTree
  | [], builder => (fault.map builder.breakOff).toList
  | event :: rest, builder =>
      match event.kind with
      | .documentStart => ofEvents fault rest builder
      | .documentEnd => builder.finish :: ofEvents fault rest .empty
      | .alias name =>
          match builder.names.lookup name with
          | none => [builder.breakOff (.unknownAnchor event.mark)]
          | some number => ofEvents fault rest (builder.count.add (.alias number event.mark))
      | .scalar properties style text =>
          let (info, builder) := builder.count.describe properties event.mark
          ofEvents fault rest (builder.add (.scalar info style text))
      | .sequenceStart properties =>
          let (info, builder) := builder.count.describe properties event.mark
          ofEvents fault rest (builder.enter (.sequence info []))
      | .mappingStart properties =>
          let (info, builder) := builder.count.describe properties event.mark
          ofEvents fault rest (builder.enter (.mapping info [] none))
      | .sequenceEnd => ofEvents fault rest builder.count.leave
      | .mappingEnd => ofEvents fault rest builder.count.leave

/-- The documents of a text. -/
def ofText (text : List Char) : List DocumentTree :=
  let stream := EventStream.ofText text
  ofEvents stream.fault stream.events .empty

end DocumentTree

end ManifestLint.Yaml
