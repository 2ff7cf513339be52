import ManifestLint.Proofs.DistinctKeys
import ManifestLint.Yaml.Document

/-!
# The values of loaded documents

A key that is already in a mapping is a fault of the document, so in the value of
a document no mapping has a key twice, however its parts came about through
aliases and tags.
-/

namespace ManifestLint.Yaml

open Value (DistinctKeys)

/-- Whatever a computation yields has a property. -/
def Counting.Yields {α : Type} (holds : α → Prop) (computation : Counting α) : Prop :=
  ∀ count result later, computation count = .ok (result, later) → holds result

namespace Counting

variable {α β : Type}

theorem yields_pure {holds : α → Prop} {result : α} (property : holds result) :
    Yields holds (pure result) := by
  intro count _ _ success
  cases success
  exact property

theorem yields_fail {holds : α → Prop} (fault : Fault) : Yields holds (fail fault) := by
  intro count _ _ success
  cases success

theorem yields_bind {holds : α → Prop} {holdsNext : β → Prop} {first : Counting α}
    {next : α → Counting β} (start : Yields holds first)
    (continuation : ∀ result, holds result → Yields holdsNext (next result)) :
    Yields holdsNext (first >>= next) := by
  intro count result later success
  cases ran : first count with
  | error fault =>
      change (first count >>= fun pair => next pair.1 pair.2) = _ at success
      rw [ran] at success
      cases success
  | ok pair =>
      change (first count >>= fun pair => next pair.1 pair.2) = _ at success
      rw [ran] at success
      rcases pair with ⟨middle, between⟩
      exact continuation middle (start count middle between ran) between result later success

theorem yields_place {holds : Value → Prop} {path : Path} {mark : Mark}
    {value : Except ValueProblem Value} (property : ∀ result, value = .ok result → holds result) :
    Yields holds (place path mark value) := by
  cases value with
  | error problem => exact yields_fail _
  | ok result => exact yields_pure (property result rfl)

end Counting

open Counting

/-! ## Scalars -/

theorem distinctKeys_ofInteger {number : Int} {value : Value}
    (success : ofInteger number = .ok value) : value.DistinctKeys := by
  unfold ofInteger at success
  split at success
  · cases success
    exact DistinctKeys.number _
  · cases success

theorem distinctKeys_ofPlain {text : String} {value : Value}
    (success : ofPlain text = .ok value) : value.DistinctKeys := by
  unfold ofPlain at success
  split at success
  · cases success
    exact DistinctKeys.null
  · split at success
    · cases success
      exact DistinctKeys.bool _
    · exact distinctKeys_ofInteger success
    · split at success
      · cases success
        exact DistinctKeys.string text
      · split at success
        · cases success
          exact DistinctKeys.number _
        · cases success
          exact DistinctKeys.string text

theorem distinctKeys_ofStyled {style : ScalarStyle} {text : String}
    {value : Value} (success : ofStyled style text = .ok value) : value.DistinctKeys := by
  unfold ofStyled at success
  split at success
  · exact distinctKeys_ofPlain success
  · cases success
    exact DistinctKeys.string text

theorem distinctKeys_ofTyped {type : CoreType} {text : String}
    {value : Value} (success : ofTyped type text = .ok value) : value.DistinctKeys := by
  cases type with
  | bool =>
      cases found : boolOf? text with
      | none => simp [ofTyped, found] at success
      | some truth =>
          simp only [ofTyped, found] at success
          cases success
          exact DistinctKeys.bool truth
  | int =>
      cases found : integerOf? text.toList with
      | none => simp [ofTyped, found] at success
      | some number =>
          simp only [ofTyped, found] at success
          exact distinctKeys_ofInteger success
  | float =>
      cases found : floatOf? text with
      | none => simp [ofTyped, found] at success
      | some number =>
          simp only [ofTyped, found] at success
          cases success
          exact DistinctKeys.number _
  | null =>
      simp only [ofTyped] at success
      split at success
      · cases success
        exact DistinctKeys.null
      · cases success

/-- A scalar holds no mapping. -/
theorem distinctKeys_ofScalar {tag : Option (List UInt8)}
    {style : ScalarStyle} {text : String} {value : Value}
    (success : ofScalar tag style text = .ok value) : value.DistinctKeys := by
  unfold ofScalar at success
  split at success
  · exact distinctKeys_ofStyled success
  · exact distinctKeys_ofTyped success
  · cases styled : ofStyled style text with
    | error problem =>
        rw [styled] at success
        cases success
    | ok content =>
        rw [styled] at success
        cases success
        exact DistinctKeys.tagged (distinctKeys_ofStyled styled)
  · exact distinctKeys_ofStyled success
  · cases success
    exact DistinctKeys.string text

theorem distinctKeys_tagCollection {tag : Option (List UInt8)}
    {value : Value} (inside : value.DistinctKeys) :
    (tagCollection tag value).DistinctKeys := by
  unfold tagCollection
  split
  · exact DistinctKeys.tagged inside
  · exact inside

/-! ## Nodes -/

namespace Reading

theorem readItems_yields {read : Path → Node → Counting Value}
    (inner : ∀ path node, Yields DistinctKeys (read path node)) (path : Path) (index : Nat)
    (items : List Node) :
    Yields (fun values => ∀ value ∈ values, value.DistinctKeys)
      (readItems read path index items) := by
  induction items generalizing index with
  | nil => exact yields_pure (List.forall_mem_nil _)
  | cons item rest ih =>
      refine yields_bind (inner (.item path index) item) fun value distinct => ?_
      refine yields_bind (ih (index + 1)) fun values others => ?_
      exact yields_pure (List.forall_mem_cons.mpr ⟨distinct, others⟩)

/-- A mapping whose entries are read without a fault has distinct keys. -/
theorem readEntries_yields {read : Path → Node → Counting Value}
    (inner : ∀ path node, Yields DistinctKeys (read path node)) (path : Path) (mark : Mark)
    (entries : List (Node × Node)) {reversed : Entries}
    (before : (Value.mapping reversed).DistinctKeys) :
    Yields (fun values => (Value.mapping values).DistinctKeys)
      (readEntries read path mark reversed entries) := by
  induction entries generalizing reversed with
  | nil =>
      apply yields_pure
      exact before.perm reversed.reverse_perm.symm
  | cons entry rest ih =>
      rcases entry with ⟨keyNode, valueNode⟩
      refine yields_bind (inner path keyNode) fun key keyDistinct => ?_
      by_cases known : Value.hasKey reversed key = true
      · rw [if_pos known]
        exact yields_fail _
      · rw [if_neg known]
        refine yields_bind (inner (entryPath path keyNode) valueNode) fun value distinct => ?_
        have added : (Value.mapping (reversed ++ [(key, value)])).DistinctKeys :=
          before.concat known keyDistinct distinct
        exact ih (added.perm (List.perm_append_singleton (key, value) reversed))

theorem readNode_yields (reading : Reading) {inner : Option (Path → Node → Counting Value)}
    (innerYields : ∀ read ∈ inner, ∀ path node, Yields DistinctKeys (read path node))
    (path : Path) (node : Node) : Yields DistinctKeys (reading.readNode inner path node) := by
  cases node with
  | missing => exact yields_fail _
  | «alias» number mark => exact yields_fail _
  | scalar info style text => exact yields_place fun _ => distinctKeys_ofScalar
  | sequence info items =>
      cases inner with
      | none => exact yields_fail _
      | some read =>
          have inside := readItems_yields (innerYields read rfl) path 0 items
          refine yields_bind inside fun values distinct => ?_
          exact yields_pure (distinctKeys_tagCollection (DistinctKeys.sequence distinct))
  | mapping info entries =>
      cases inner with
      | none => exact yields_fail _
      | some read =>
          have empty : (Value.mapping []).DistinctKeys :=
            DistinctKeys.mapping List.Pairwise.nil (List.forall_mem_nil _) (List.forall_mem_nil _)
          have inside := readEntries_yields (innerYields read rfl) path info.mark entries empty
          refine yields_bind inside fun values distinct => ?_
          exact yields_pure (distinctKeys_tagCollection distinct)

theorem follow_yields (reading : Reading) {inner : Option (Path → Node → Counting Value)}
    (innerYields : ∀ read ∈ inner, ∀ path node, Yields DistinctKeys (read path node))
    (path : Path) (node : Node) : Yields DistinctKeys (reading.follow inner path node) := by
  cases node with
  | «alias» number mark =>
      have jumped : Yields (fun _ => True) reading.jump := fun _ _ _ _ => trivial
      refine yields_bind jumped fun _ _ => ?_
      cases reading.target? number with
      | none => exact yields_fail _
      | some target => exact reading.readNode_yields innerYields (.alias path) target
  | missing => exact reading.readNode_yields innerYields path .missing
  | scalar info style text =>
      exact reading.readNode_yields innerYields path (.scalar info style text)
  | sequence info items => exact reading.readNode_yields innerYields path (.sequence info items)
  | mapping info entries => exact reading.readNode_yields innerYields path (.mapping info entries)

theorem read_yields (reading : Reading) (depth : Nat) (path : Path) (node : Node) :
    Yields DistinctKeys (reading.read depth path node) := by
  induction depth generalizing path node with
  | zero => exact reading.follow_yields (fun _ member => by cases member) path node
  | succ depth ih =>
      refine reading.follow_yields ?_ path node
      intro read member
      cases member
      exact ih

end Reading

/-- In the value of a document no mapping has a key twice. -/
theorem distinctKeys_of_mem_documents {text : String} {value : Value}
    (member : .ok value ∈ documents text) : value.DistinctKeys := by
  rcases List.mem_map.mp member with ⟨document, _, success⟩
  unfold DocumentTree.value at success
  cases ran : (Reading.read
      { anchors := document.root.anchored
        jumpLimit := document.eventCount * jumpsPerEvent
        fault := document.fault.getD .repetitionLimit } depthLimit .root document.root).run 0 with
  | error fault =>
      simp only [ran] at success
      cases success
  | ok pair =>
      rcases pair with ⟨loaded, count⟩
      simp only [ran, bind, Except.bind] at success
      cases broken : document.fault with
      | some fault =>
          rw [broken] at success
          cases success
      | none =>
          rw [broken] at success
          cases success
          exact Reading.read_yields _ depthLimit .root document.root 0 value count ran

end ManifestLint.Yaml
