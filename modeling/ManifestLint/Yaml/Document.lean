import ManifestLint.Yaml.Node
import ManifestLint.Yaml.Scalar

/-!
# The values of documents

A document is read from its root on, each key before its value.  An alias is
read by reading the node with its anchor once more, a limited number of times,
and collections may be nested to a limited depth, also through aliases.  The
first fault that is met decides; the fault that breaks a document off is met
where its tree ends.
-/

namespace ManifestLint.Yaml

/-- The number of collections that may be nested. -/
def depthLimit : Nat :=
  128

/-- The number of aliases that may be read for each event of a document. -/
def jumpsPerEvent : Nat :=
  100

/-- What the reading of a document's nodes depends on. -/
structure Reading where
  anchors : List (Nat × Node)
  jumpLimit : Nat
  /-- The fault of a missing node. -/
  fault : Fault

/-- A computation that counts the aliases read so far. -/
abbrev Counting (α : Type) :=
  StateT Nat (Except Fault) α

/-- Give up. -/
def Counting.fail (fault : Fault) : Counting α :=
  fun _ => .error fault

/-- Place the problem of a value. -/
def Counting.place (path : Path) (mark : Mark) (value : Except ValueProblem Value) :
    Counting Value :=
  match value with
  | .ok value => pure value
  | .error problem => Counting.fail (.value problem path mark)

namespace Reading

/-- Count an alias. -/
def jump (reading : Reading) : Counting Unit := fun count =>
  if count + 1 > reading.jumpLimit then .error .repetitionLimit else .ok ((), count + 1)

/-- The last node with an anchor of a number. -/
def target? (reading : Reading) (number : Nat) : Option Node :=
  (reading.anchors.reverse.find? (·.1 = number)).map (·.2)

/-- Read items from the given position on. -/
def readItems (read : Path → Node → Counting Value) (path : Path) :
    Nat → List Node → Counting (List Value)
  | _, [] => pure []
  | index, item :: rest => do
      let value ← read (.item path index) item
      let values ← readItems read path (index + 1) rest
      return value :: values

/-- The path to the value of a key. -/
def entryPath (path : Path) : Node → Path
  | .scalar _ _ text => .entry path text
  | _ => .unnamed path

/-- Read entries behind those given, which are reversed.  A key that is already
there is a fault of the mapping. -/
def readEntries (read : Path → Node → Counting Value) (path : Path) (mark : Mark) :
    List (Value × Value) → List (Node × Node) → Counting (List (Value × Value))
  | reversed, [] => pure reversed.reverse
  | reversed, (keyNode, valueNode) :: rest => do
      let key ← read path keyNode
      if Value.hasKey reversed key then
        Counting.fail (.value (.duplicateKey key) path mark)
      else
        let value ← read (entryPath path keyNode) valueNode
        readEntries read path mark ((key, value) :: reversed) rest

/-- Read a node that is no alias.  `inner` reads the nodes inside it, unless the
depth is used up. -/
def readNode (reading : Reading) (inner : Option (Path → Node → Counting Value)) (path : Path) :
    Node → Counting Value
  | .missing => Counting.fail reading.fault
  | .alias _ _ => Counting.fail reading.fault
  | .scalar info style text => Counting.place path info.mark (ofScalar info.tag style text)
  | .sequence info items =>
      match inner with
      | none => Counting.fail (.recursionLimit info.mark)
      | some read => do
          let values ← readItems read path 0 items
          return tagCollection info.tag (.sequence values)
  | .mapping info entries =>
      match inner with
      | none => Counting.fail (.recursionLimit info.mark)
      | some read => do
          let values ← readEntries read path info.mark [] entries
          return tagCollection info.tag (.mapping values)

/-- Read a node, or the node that an alias stands for. -/
def follow (reading : Reading) (inner : Option (Path → Node → Counting Value)) (path : Path) :
    Node → Counting Value
  | .alias number _ => do
      reading.jump
      match reading.target? number with
      | some node => reading.readNode inner (.alias path) node
      | none => Counting.fail reading.fault
  | node => reading.readNode inner path node

/-- Read a node inside which collections may be nested to the given depth. -/
def read (reading : Reading) : Nat → Path → Node → Counting Value
  | 0, path, node => reading.follow none path node
  | depth + 1, path, node => reading.follow (some (reading.read depth)) path node

end Reading

namespace DocumentTree

/-- The value of a document. -/
def value (document : DocumentTree) : Except Fault Value := do
  let reading : Reading :=
    { anchors := document.root.anchored
      jumpLimit := document.eventCount * jumpsPerEvent
      fault := document.fault.getD .repetitionLimit }
  let (value, _) ← (reading.read depthLimit .root document.root).run 0
  match document.fault with
  | some fault => .error fault
  | none => return value

end DocumentTree

/-- The documents of a text, each with its value or its fault, from the first to
the last or to the first fault of the tokens. -/
def documents (text : String) : List (Except Fault Value) :=
  (DocumentTree.ofText text.toList).map (·.value)

end ManifestLint.Yaml
