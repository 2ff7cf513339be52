import ManifestLint.Proofs.MergeKeys
import ManifestLint.Proofs.ResourceOrder
import ManifestLint.Manifest
import ManifestLint.Lint.Check

/-!
# Documents and their effective entries

A document is judged on its effective entries when its outcome is that of the
document in which every merge key has been followed to the end, and when the
value that is read as a resource has just the effective entries.  Two things keep
it from that.  Its kind is looked up before merging, so an inherited kind is
missed, and merging follows one merge key of a mapping only, so what a chain of
merges would bring is lost.
-/

namespace ManifestLint

open ManifestLint.Yaml (Value Entries)
open ManifestLint.Yaml.Value (Rearranged)

namespace Yaml.Value

/-- Whether a document has a kind, as its lookup goes through tags. -/
def HasKind (value : Value) : Prop :=
  (value.untagged.lookup? "kind").isSome = true

theorem untagged_effective (value : Value) :
    value.effective.untagged = value.untagged.effective := by
  induction value using inside_induction with
  | null | bool _ | number _ | string _ => rfl
  | sequence items _ => simp [untagged]
  | mapping entries _ => simp [untagged]
  | tagged tag content ih => simpa [untagged] using ih

/-- An own kind is among the effective entries. -/
theorem HasKind.effective {value : Value} (hasKind : value.HasKind) : value.effective.HasKind := by
  unfold HasKind at hasKind ⊢
  rw [untagged_effective]
  cases plain : value.untagged with
  | mapping entries =>
      rw [plain] at hasKind
      rw [lookup?_effective entries (by decide), Option.isSome_or, Option.isSome_map, hasKind]
      rfl
  | null | bool _ | number _ | string _ | sequence _ | tagged _ _ =>
      rw [plain] at hasKind
      cases hasKind

end Yaml.Value

namespace Manifest

/-- Two outcomes are the same: related results or faults of one kind. -/
inductive SameOutcome {α : Type} (same : α → α → Prop) :
    Except ManifestError α → Except ManifestError α → Prop where
  | ok {result other : α} (relation : same result other) : SameOutcome same (.ok result) (.ok other)
  | malformed (fault : Yaml.Fault) :
      SameOutcome same (.error (.malformed fault)) (.error (.malformed fault))
  | document (index : Nat) (problem other : DocumentProblem) :
      SameOutcome same (.error (.document index problem)) (.error (.document index other))
  | missingKind (index : Nat) :
      SameOutcome same (.error (.missingKind index)) (.error (.missingKind index))

/-- A document is judged on its effective entries: its outcome is that of its
effective value, and if it has a kind, it is merged into its effective value, up
to the order of entries. -/
structure JudgedOnEffectiveEntries (index : Nat) (value : Value) : Prop where
  outcome : SameOutcome (Option.Rel Resource.Same) (resourceOf index value)
    (resourceOf index value.effective)
  entries : value.HasKind → ∃ merged, value.merge = .ok merged ∧ Rearranged merged value.effective

/-! ## Outcomes of single documents -/

/-- The outcome of a document whose merged value is given. -/
def outcomeOf (index : Nat) (merged : Value) : Except ManifestError (Option Resource) :=
  ((Resource.read merged).map some).mapError fun error => .document index (.shape error)

/-- Without a kind, a document that is not null is at fault. -/
theorem resourceOf_of_not_hasKind (index : Nat) {value : Value} (notNull : value ≠ .null)
    (noKind : ¬ value.HasKind) : resourceOf index value = .error (.missingKind index) := by
  have missing : (value.untagged.lookup? "kind").isNone = true := by
    simpa [Value.HasKind] using noKind
  rw [resourceOf, if_pos missing]
  exact notNull

/-- With a kind, a document is what its merged value is read as. -/
theorem resourceOf_of_hasKind (index : Nat) {value merged : Value} (hasKind : value.HasKind)
    (success : value.merge = .ok merged) : resourceOf index value = outcomeOf index merged := by
  have found : ¬ (value.untagged.lookup? "kind").isNone = true := by
    simpa [Value.HasKind, Option.isSome_iff_ne_none] using hasKind
  rw [resourceOf, if_neg found, success, outcomeOf]
  · simp only [Except.mapError, bind, Except.bind]
    cases Resource.read merged <;> rfl
  · rintro rfl
    cases hasKind

/-- Rearranged values are read with the same outcome. -/
theorem sameOutcome_of_rearranged (index : Nat) {value other : Value}
    (rearranged : Rearranged value other) (distinct : value.DistinctNames) :
    SameOutcome (Option.Rel Resource.Same) (outcomeOf index value) (outcomeOf index other) := by
  unfold outcomeOf
  have forth := Resource.follows_read_of_rearranged rearranged distinct
  have back := Resource.follows_read_of_rearranged rearranged.symm
    (rearranged.distinctNames distinct)
  cases read : Resource.read value with
  | ok resource =>
      rcases forth resource read with ⟨otherResource, otherRead, same⟩
      rw [otherRead]
      exact SameOutcome.ok (Option.Rel.some same)
  | error error =>
      cases otherRead : Resource.read other with
      | ok otherResource =>
          rcases back otherResource otherRead with ⟨resource, success, _⟩
          rw [read] at success
          cases success
      | error otherError => exact SameOutcome.document index _ _

/-- A document is judged on its effective entries if a kind among those is its own
and, given a kind, no merge key arrives by merging. -/
theorem judged_of_unchained (index : Nat) {value : Value} (mergeable : value.Mergeable)
    (distinct : value.DistinctNames) (ownKind : value.effective.HasKind → value.HasKind)
    (unchained : value.HasKind → value.Unchained) : JudgedOnEffectiveEntries index value := by
  rcases Value.merge_spec mergeable distinct with ⟨merged, success, rearranged_iff⟩
  by_cases hasKind : value.HasKind
  · have rearranged := rearranged_iff.mpr (unchained hasKind)
    refine ⟨?_, fun _ => ⟨merged, success, rearranged⟩⟩
    rw [resourceOf_of_hasKind index hasKind success,
      resourceOf_of_hasKind index hasKind.effective (Value.merge_effective value)]
    apply sameOutcome_of_rearranged index rearranged
    exact rearranged.symm.distinctNames (Value.distinctNames_effective distinct)
  · refine ⟨?_, fun present => absurd present hasKind⟩
    have noKind : ¬ value.effective.HasKind := fun inherited => hasKind (ownKind inherited)
    cases value with
    | null => exact SameOutcome.ok Option.Rel.none
    | bool _ | number _ | string _ | sequence _ | mapping _ | tagged _ _ =>
        rw [resourceOf_of_not_hasKind index Value.noConfusion hasKind,
          resourceOf_of_not_hasKind index _ noKind]
        · exact SameOutcome.missingKind index
        · simp [Value.effective]

/-- A kind that is only inherited changes the outcome. -/
theorem JudgedOnEffectiveEntries.ownKind {index : Nat} {value : Value}
    (judged : JudgedOnEffectiveEntries index value) (inherited : value.effective.HasKind) :
    value.HasKind := by
  by_contra noKind
  have outcome := judged.outcome
  have notNull : value ≠ .null := by
    rintro rfl
    cases inherited
  rw [resourceOf_of_not_hasKind index notNull noKind,
    resourceOf_of_hasKind index inherited (Value.merge_effective value), outcomeOf] at outcome
  cases read : Resource.read value.effective with
  | error error =>
      rw [read] at outcome
      cases outcome
  | ok resource =>
      rw [read] at outcome
      cases outcome

/-- Documents whose merge keys name mappings are judged on their effective entries
exactly if a kind among those is the document's own and, in a document with a
kind, no merge key arrives by merging. -/
theorem judgedOnEffectiveEntries_iff (index : Nat) {value : Value} (mergeable : value.Mergeable)
    (distinct : value.DistinctNames) :
    JudgedOnEffectiveEntries index value ↔
      (value.effective.HasKind → value.HasKind) ∧ (value.HasKind → value.Unchained) := by
  constructor
  · intro judged
    constructor
    · exact judged.ownKind
    · intro hasKind
      rcases Value.merge_spec mergeable distinct with ⟨merged, success, rearranged_iff⟩
      rcases judged.entries hasKind with ⟨result, resultMerged, rearranged⟩
      rw [success] at resultMerged
      cases resultMerged
      exact rearranged_iff.mp rearranged
  · rintro ⟨ownKind, unchained⟩
    exact judged_of_unchained index mergeable distinct ownKind unchained

/-- A pipeline with a step that takes its image over from a mapping. -/
def sharedImage : Value :=
  .mapping [(.string "kind", .string "pipeline"),
    (.string "steps", .sequence [.mapping
      [(.string "<<", .mapping [(.string "image", .string "golang")]),
        (.string "name", .string "test")]])]

theorem judgedOnEffectiveEntries_sharedImage : JudgedOnEffectiveEntries 0 sharedImage := by
  have mergeable : sharedImage.Mergeable := by
    simp [sharedImage, Value.Mergeable, Value.Throughout.string, Value.NamesMappings.mapping]
  have distinct : sharedImage.DistinctNames := by
    simp [sharedImage, Value.DistinctNames, Entries.names, Value.name?, Value.Throughout.string]
  have step : (Value.mapping [(.string "<<", .mapping [(.string "image", .string "golang")]),
      (.string "name", .string "test")]).Unchained := by
    apply Value.Unchained.mapping (by decide)
    change ∀ entry ∈ [(Value.string "name", Value.string "test"),
      (Value.string "image", Value.string "golang")], entry.2.Unchained
    simp [Value.Unchained.string]
  rw [judgedOnEffectiveEntries_iff 0 mergeable distinct]
  constructor
  · exact fun _ => rfl
  · intro _
    apply Value.Unchained.mapping (by decide)
    rw [Entries.direct_eq_self (by decide)]
    simp only [List.forall_mem_cons]
    refine ⟨Value.Unchained.string _, Value.Unchained.sequence ?_, List.forall_mem_nil _⟩
    simpa using step

/-- The mapping behind `base: &base {privileged: true}`. -/
def basePrivilege : Value :=
  .mapping [(.string "privileged", .bool true)]

/-- The mapping behind `middle: &middle {<<: *base, image: golang}`. -/
def middlePrivilege : Value :=
  .mapping [(.string "<<", basePrivilege), (.string "image", .string "golang")]

/-- A pipeline with these two mappings and the step `{<<: *middle, name: last}`, which
takes its privileges over through a chain of merges. -/
def chainedPrivilege : Value :=
  .mapping [(.string "base", basePrivilege), (.string "middle", middlePrivilege),
    (.string "kind", .string "pipeline"), (.string "name", .string "build"),
    (.string "steps", .sequence [.mapping
      [(.string "<<", middlePrivilege), (.string "name", .string "last")]])]

/-- Privileges that come through a chain of merges escape an untrusted check. -/
theorem chainedPrivilege_escapes :
    chainedPrivilege.Mergeable ∧ chainedPrivilege.DistinctNames ∧
      ¬ SameOutcome (Option.Rel Resource.Same) (resourceOf 0 chainedPrivilege)
          (resourceOf 0 chainedPrivilege.effective) ∧
      ∃ judged effective : Resource,
        resourceOf 0 chainedPrivilege = .ok (some judged) ∧
          resourceOf 0 chainedPrivilege.effective = .ok (some effective) ∧
          judged.check false = .ok () ∧
          effective.check false = .error (.untrusted .privileged) := by
  refine ⟨?_, ?_, ?_, _, _, rfl, rfl, rfl, rfl⟩
  · simp [chainedPrivilege, middlePrivilege, basePrivilege, Value.Mergeable,
      Value.Throughout.string, Value.Throughout.bool, Value.NamesMappings.mapping]
  · simp [chainedPrivilege, middlePrivilege, basePrivilege, Value.DistinctNames, Entries.names,
      Value.name?, Value.Throughout.string, Value.Throughout.bool]
  · intro same
    cases same with
    | ok relation =>
        cases relation with
        | some same =>
            cases same with
            | pipeline same =>
                cases same.steps with
                | cons step rest => cases congrArg Container.privileged step.rest

end Manifest

end ManifestLint
