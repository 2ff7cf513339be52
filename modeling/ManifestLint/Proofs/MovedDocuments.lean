import ManifestLint.Proofs.MovedEvents
import ManifestLint.Yaml.Document

/-!
# Moved documents

The places of nodes reach the value of a document through its faults only.  Events that
stand elsewhere give documents with the same values.
-/

namespace ManifestLint.Yaml

/-! ## Trees -/

section

variable (f : Mark → Mark)

/-- What is known of a node, with its mark changed. -/
def NodeInfo.mapMarks (info : NodeInfo) : NodeInfo :=
  { info with mark := f info.mark }

namespace Node

mutual

/-- A node with its marks changed. -/
def mapMarks : Node → Node
  | .missing => .missing
  | .alias number mark => .alias number (f mark)
  | .scalar info style text => .scalar (info.mapMarks f) style text
  | .sequence info items => .sequence (info.mapMarks f) (mapMarksItems items)
  | .mapping info entries => .mapping (info.mapMarks f) (mapMarksEntries entries)

/-- Items with their marks changed. -/
def mapMarksItems : List Node → List Node
  | [] => []
  | item :: rest => mapMarks item :: mapMarksItems rest

/-- Entries with their marks changed. -/
def mapMarksEntries : List (Node × Node) → List (Node × Node)
  | [] => []
  | (key, value) :: rest => (mapMarks key, mapMarks value) :: mapMarksEntries rest

end

theorem mapMarksItems_eq (items : List Node) : mapMarksItems f items = items.map (mapMarks f) := by
  induction items with
  | nil => rfl
  | cons item rest ih => rw [mapMarksItems, ih, List.map_cons]

theorem mapMarksEntries_eq (entries : List (Node × Node)) :
    mapMarksEntries f entries = entries.map (Prod.map (mapMarks f) (mapMarks f)) := by
  induction entries with
  | nil => rfl
  | cons entry rest ih => rw [mapMarksEntries, ih, List.map_cons, Prod.map]

@[simp]
theorem mapMarks_sequence (info : NodeInfo) (items : List Node) :
    mapMarks f (.sequence info items) = .sequence (info.mapMarks f) (items.map (mapMarks f)) := by
  rw [mapMarks, mapMarksItems_eq]

@[simp]
theorem mapMarks_mapping (info : NodeInfo) (entries : List (Node × Node)) :
    mapMarks f (.mapping info entries) =
      .mapping (info.mapMarks f) (entries.map (Prod.map (mapMarks f) (mapMarks f))) := by
  rw [mapMarks, mapMarksEntries_eq]

theorem ownAnchor_mapMarks (info : NodeInfo) (node : Node) :
    ownAnchor (info.mapMarks f) (mapMarks f node) =
      (ownAnchor info node).map (Prod.map id (mapMarks f)) := by
  obtain ⟨anchor, tag, mark⟩ := info
  cases anchor <;> rfl

mutual

theorem anchored_mapMarks : (node : Node) →
    (mapMarks f node).anchored = node.anchored.map (Prod.map id (mapMarks f))
  | .missing => rfl
  | .alias _ _ => rfl
  | .scalar info style text => ownAnchor_mapMarks f info (.scalar info style text)
  | .sequence info items => by
      rw [anchored, List.map_append, ← ownAnchor_mapMarks, ← anchoredItems_mapMarks items]
      rfl
  | .mapping info entries => by
      rw [anchored, List.map_append, ← ownAnchor_mapMarks, ← anchoredEntries_mapMarks entries]
      rfl

theorem anchoredItems_mapMarks : (items : List Node) →
    anchoredItems (mapMarksItems f items) = (anchoredItems items).map (Prod.map id (mapMarks f))
  | [] => rfl
  | item :: rest => by
      rw [mapMarksItems, anchoredItems, anchored_mapMarks item, anchoredItems_mapMarks rest,
        anchoredItems, List.map_append]

theorem anchoredEntries_mapMarks : (entries : List (Node × Node)) →
    anchoredEntries (mapMarksEntries f entries) =
      (anchoredEntries entries).map (Prod.map id (mapMarks f))
  | [] => rfl
  | (key, value) :: rest => by
      rw [mapMarksEntries, anchoredEntries, anchored_mapMarks key, anchored_mapMarks value,
        anchoredEntries_mapMarks rest, anchoredEntries, List.map_append, List.map_append]

end

end Node

/-- A document with its marks changed. -/
def DocumentTree.mapMarks (document : DocumentTree) : DocumentTree :=
  ⟨document.root.mapMarks f, document.eventCount, document.fault.map (.mapMarks f)⟩

/-! ## Values -/

/-- A computation with the marks of its fault changed. -/
def Counting.mapMarks (computation : Counting α) : Counting α :=
  fun count => (computation count).mapError (.mapMarks f)

/-- What a reading depends on, with its marks changed. -/
def Reading.mapMarks (reading : Reading) : Reading :=
  ⟨reading.anchors.map (Prod.map id (.mapMarks f)), reading.jumpLimit, reading.fault.mapMarks f⟩

end

section

variable {f : Mark → Mark}

namespace Counting

theorem bind_mapMarks {computation computation' : Counting α} {next next' : α → Counting β}
    (first : computation' = computation.mapMarks f)
    (later : ∀ result, next' result = (next result).mapMarks f) :
    (computation' >>= next') = (computation >>= next).mapMarks f := by
  obtain rfl : next' = fun result => (next result).mapMarks f := funext later
  rw [first]
  funext count
  simp only [mapMarks, bind, StateT.bind]
  cases computation count <;> rfl

theorem place_mapMarks (path : Path) (mark : Mark) (value : Except ValueProblem Value) :
    place path (f mark) value = (place path mark value).mapMarks f := by
  cases value <;> rfl

end Counting

/-- Whether a reader of nodes gives the same for moved nodes as another one for others. -/
def Reads (f : Mark → Mark) (read read' : Path → Node → Counting Value) : Prop :=
  ∀ path node, read' path (node.mapMarks f) = (read path node).mapMarks f

namespace Reading

variable {read read' : Path → Node → Counting Value} {reading : Reading}

theorem target?_mapMarks (number : Nat) :
    (reading.mapMarks f).target? number = (reading.target? number).map (.mapMarks f) := by
  simp only [target?, mapMarks, ← List.map_reverse, List.find?_map, Option.map_map]
  rfl

theorem readItems_mapMarks (reads : Reads f read read') (path : Path) (index : Nat)
    (items : List Node) :
    readItems read' path index (items.map (.mapMarks f)) =
      (readItems read path index items).mapMarks f := by
  induction items generalizing index with
  | nil => rfl
  | cons item rest ih =>
      exact Counting.bind_mapMarks (reads _ item) fun value =>
        Counting.bind_mapMarks (ih _) fun values => rfl

theorem entryPath_mapMarks (path : Path) (node : Node) :
    entryPath path (node.mapMarks f) = entryPath path node := by
  cases node <;> rfl

theorem readEntries_mapMarks (reads : Reads f read read') (path : Path) (mark : Mark)
    (reversed : List (Value × Value)) (entries : List (Node × Node)) :
    readEntries read' path (f mark) reversed
        (entries.map (Prod.map (.mapMarks f) (.mapMarks f))) =
      (readEntries read path mark reversed entries).mapMarks f := by
  induction entries generalizing reversed with
  | nil => rfl
  | cons entry rest ih =>
      obtain ⟨keyNode, valueNode⟩ := entry
      refine Counting.bind_mapMarks (reads _ keyNode) fun key => ?_
      split
      · rfl
      · rw [entryPath_mapMarks]
        exact Counting.bind_mapMarks (reads _ valueNode) fun value => ih _

variable {inner inner' : Option (Path → Node → Counting Value)}

theorem readNode_mapMarks (reads : Option.Rel (Reads f) inner inner') :
    Reads f (reading.readNode inner) ((reading.mapMarks f).readNode inner') := by
  intro path node
  cases node with
  | missing => rfl
  | «alias» number mark => rfl
  | scalar info style text => exact Counting.place_mapMarks path info.mark _
  | sequence info items =>
      rw [Node.mapMarks_sequence]
      cases reads with
      | none => rfl
      | some reads =>
          exact Counting.bind_mapMarks (readItems_mapMarks reads path 0 items) fun values => rfl
  | mapping info entries =>
      rw [Node.mapMarks_mapping]
      cases reads with
      | none => rfl
      | some reads =>
          exact Counting.bind_mapMarks (readEntries_mapMarks reads path info.mark [] entries)
            fun values => rfl

theorem follow_mapMarks (reads : Option.Rel (Reads f) inner inner') :
    Reads f (reading.follow inner) ((reading.mapMarks f).follow inner') := by
  intro path node
  have direct := @readNode_mapMarks f reading inner inner' reads
  cases node with
  | «alias» number mark =>
      have counted : (reading.mapMarks f).jump = reading.jump.mapMarks f := by
        funext count
        by_cases spent : count + 1 > reading.jumpLimit
        · simp [jump, mapMarks, Counting.mapMarks, spent, Except.mapError, Fault.mapMarks]
        · simp [jump, mapMarks, Counting.mapMarks, spent, Except.mapError]
      refine Counting.bind_mapMarks counted fun _ => ?_
      rw [target?_mapMarks]
      cases reading.target? number with
      | none => rfl
      | some node => exact direct (.alias path) node
  | missing => exact direct path .missing
  | scalar info style text => exact direct path (.scalar info style text)
  | sequence info items => exact direct path (.sequence info items)
  | mapping info entries => exact direct path (.mapping info entries)

/-- A node that stands elsewhere has the same value, or a fault elsewhere. -/
theorem read_mapMarks (depth : Nat) :
    Reads f (reading.read depth) ((reading.mapMarks f).read depth) := by
  induction depth with
  | zero => exact follow_mapMarks .none
  | succ depth ih => exact follow_mapMarks (.some ih)

end Reading

namespace DocumentTree

/-- What the reading of a document depends on. -/
def reading (document : DocumentTree) : Reading :=
  ⟨document.root.anchored, document.eventCount * jumpsPerEvent,
    document.fault.getD .repetitionLimit⟩

theorem value_eq (document : DocumentTree) :
    document.value = document.reading.read depthLimit .root document.root 0 >>= fun result =>
      match document.fault with
      | some fault => .error fault
      | none => .ok result.1 := by
  unfold value
  generalize depthLimit = depth
  rfl

theorem reading_mapMarks (document : DocumentTree) :
    (document.mapMarks f).reading = document.reading.mapMarks f := by
  have missing := Option.getD_map (Fault.mapMarks f) .repetitionLimit document.fault
  unfold reading Reading.mapMarks
  rw [← missing, ← Node.anchored_mapMarks]
  rfl

/-- A document that stands elsewhere has the same value, or a fault elsewhere. -/
theorem value_mapMarks (document : DocumentTree) :
    (document.mapMarks f).value = document.value.mapError (.mapMarks f) := by
  have read := congrFun (document.reading.read_mapMarks (f := f) depthLimit .root document.root) 0
  rw [value_eq, value_eq, reading_mapMarks]
  rw [Counting.mapMarks] at read
  cases outcome : document.reading.read depthLimit .root document.root 0 with
  | error fault =>
      rw [outcome] at read
      rw [mapMarks, read]
      rfl
  | ok result =>
      rw [outcome] at read
      rw [mapMarks, read]
      cases document.fault <;> rfl

end DocumentTree

/-! ## Builders -/

section

variable (f : Mark → Mark)

/-- An open collection with its marks changed. -/
def OpenNode.mapMarks : OpenNode → OpenNode
  | .sequence info reversed => .sequence (info.mapMarks f) (reversed.map (.mapMarks f))
  | .mapping info reversed key =>
      .mapping (info.mapMarks f) (reversed.map (Prod.map (.mapMarks f) (.mapMarks f)))
        (key.map (.mapMarks f))

/-- The state of building a tree with its marks changed. -/
def TreeBuilder.mapMarks (builder : TreeBuilder) : TreeBuilder :=
  { builder with
    enclosing := builder.enclosing.map (.mapMarks f)
    root := builder.root.map (.mapMarks f) }

end

namespace OpenNode

theorem add_mapMarks (node : Node) (collection : OpenNode) :
    (collection.mapMarks f).add (node.mapMarks f) = (collection.add node).mapMarks f := by
  cases collection with
  | sequence info reversed => rfl
  | mapping info reversed key => cases key <;> rfl

theorem close_mapMarks (collection : OpenNode) :
    (collection.mapMarks f).close = collection.close.mapMarks f := by
  cases collection <;> simp [mapMarks, close]

theorem breakOff_mapMarks (collection : OpenNode) :
    (collection.mapMarks f).breakOff = collection.breakOff.mapMarks f := by
  cases collection with
  | sequence info reversed => simp [mapMarks, breakOff, Node.mapMarks]
  | mapping info reversed key => cases key <;> simp [mapMarks, breakOff, Node.mapMarks]

end OpenNode

namespace TreeBuilder

theorem add_mapMarks (builder : TreeBuilder) (node : Node) :
    (builder.mapMarks f).add (node.mapMarks f) = (builder.add node).mapMarks f := by
  obtain ⟨enclosing, root, names, eventCount⟩ := builder
  cases enclosing with
  | nil => rfl
  | cons innermost outer => simp [mapMarks, add, OpenNode.add_mapMarks]

theorem describe_mapMarks (builder : TreeBuilder) (properties : Properties) (mark : Mark) :
    (builder.mapMarks f).describe properties (f mark) =
      ((builder.describe properties mark).1.mapMarks f,
        (builder.describe properties mark).2.mapMarks f) := by
  unfold describe
  cases properties.anchor <;> rfl

theorem leave_mapMarks (builder : TreeBuilder) :
    (builder.mapMarks f).leave = builder.leave.mapMarks f := by
  obtain ⟨enclosing, root, names, eventCount⟩ := builder
  cases enclosing with
  | nil => rfl
  | cons innermost outer =>
      simp only [leave, ← add_mapMarks, ← OpenNode.close_mapMarks]
      rfl

theorem finish_mapMarks (builder : TreeBuilder) :
    (builder.mapMarks f).finish = builder.finish.mapMarks f := by
  obtain ⟨enclosing, root, names, eventCount⟩ := builder
  cases root <;> rfl

theorem breakOffOuter_mapMarks (node : Node) (outer : List OpenNode) :
    breakOffRoot.breakOffOuter (node.mapMarks f) (outer.map (.mapMarks f)) =
      (breakOffRoot.breakOffOuter node outer).mapMarks f := by
  induction outer generalizing node with
  | nil => rfl
  | cons innermost outer ih =>
      rw [List.map_cons, breakOffRoot.breakOffOuter, OpenNode.add_mapMarks,
        OpenNode.breakOff_mapMarks, ih]
      rfl

theorem breakOff_mapMarks (builder : TreeBuilder) (fault : Fault) :
    (builder.mapMarks f).breakOff (fault.mapMarks f) = (builder.breakOff fault).mapMarks f := by
  obtain ⟨enclosing, root, names, eventCount⟩ := builder
  cases enclosing with
  | nil => cases root <;> rfl
  | cons innermost outer =>
      simp only [breakOff, mapMarks, List.map_cons, breakOffRoot, OpenNode.breakOff_mapMarks,
        breakOffOuter_mapMarks]
      rfl

end TreeBuilder

/-- Events that stand elsewhere give the same documents elsewhere. -/
theorem DocumentTree.ofEvents_mapMarks (fault : Option Fault) (events : List Event)
    (builder : TreeBuilder) :
    ofEvents (fault.map (.mapMarks f)) (events.map (.mapMarks f)) (builder.mapMarks f) =
      (ofEvents fault events builder).map (.mapMarks f) := by
  induction events generalizing builder with
  | nil => cases fault <;> simp [ofEvents, TreeBuilder.breakOff_mapMarks]
  | cons event rest ih =>
      obtain ⟨kind, mark⟩ := event
      have count : (builder.mapMarks f).count = builder.count.mapMarks f := rfl
      have described (properties : Properties) :=
        TreeBuilder.describe_mapMarks (f := f) builder.count properties mark
      cases kind with
      | documentStart => exact ih builder
      | documentEnd =>
          have finished := TreeBuilder.finish_mapMarks (f := f) builder
          have later := ih .empty
          rw [List.map_cons, ofEvents, ofEvents, List.map_cons, ← finished, ← later]
          rfl
      | «alias» name =>
          have names : (builder.mapMarks f).names = builder.names := rfl
          simp only [List.map_cons, ofEvents, Event.mapMarks, names]
          cases builder.names.lookup name with
          | none =>
              exact congrArg (fun document => [document])
                (TreeBuilder.breakOff_mapMarks builder (.unknownAnchor mark))
          | some number =>
              have added := TreeBuilder.add_mapMarks (f := f) builder.count (.alias number mark)
              exact (congrArg _ added).trans (ih _)
      | scalar properties style text =>
          have added := TreeBuilder.add_mapMarks (f := f) (builder.count.describe properties mark).2
            (.scalar (builder.count.describe properties mark).1 style text)
          rw [List.map_cons, ofEvents, ofEvents, ← ih, ← added]
          simp only [Event.mapMarks, count, described, Node.mapMarks]
      | sequenceStart properties =>
          rw [List.map_cons, ofEvents, ofEvents, ← ih]
          simp only [Event.mapMarks, count, described]
          rfl
      | mappingStart properties =>
          rw [List.map_cons, ofEvents, ofEvents, ← ih]
          simp only [Event.mapMarks, count, described]
          rfl
      | sequenceEnd => exact (congrArg _ (TreeBuilder.leave_mapMarks builder.count)).trans (ih _)
      | mappingEnd => exact (congrArg _ (TreeBuilder.leave_mapMarks builder.count)).trans (ih _)

end

end ManifestLint.Yaml
