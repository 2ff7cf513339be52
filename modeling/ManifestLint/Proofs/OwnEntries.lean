import ManifestLint.Proofs.EffectiveDocuments
import ManifestLint.Proofs.MergedValues

/-!
# Own entries under merging

What a mapping has under a key of its own is not changed by its merge key: after
merging, its own value stands there, with the merge keys inside that value followed.
Only for a key that it lacks does a named mapping count, and then the first one that
has the key.  This holds at every place that is reached without going through a merge
key, and such a place stays where it is.
-/

namespace ManifestLint

open ManifestLint.Yaml (Value Entries)

namespace Yaml.Value

open Entries (bases direct entryAt? names resolveMerge)

/-! ## One mapping -/

/-- What merging makes of the entries of a mapping.  An own entry keeps its key, and
its value is merged.  Under a key that the mapping lacks stands the entry of the
first named mapping that has one, with its value merged, or nothing if none has. -/
structure OwnFirst (entries results : Entries) : Prop where
  own : ∀ {key entry}, key ≠ .string "<<" → entryAt? entries key = some entry →
    ∃ result, entry.2.merge = .ok result ∧ entryAt? results key = some (entry.1, result)
  inherited : ∀ {key entry}, key ≠ .string "<<" → entryAt? entries key = none →
    (bases entries).findSome? (fun base => entryAt? base key) = some entry →
    ∃ result, entry.2.merge = .ok result ∧ entryAt? results key = some (entry.1, result)
  absent : ∀ {key}, key ≠ .string "<<" → entryAt? entries key = none →
    (bases entries).findSome? (fun base => entryAt? base key) = none →
    entryAt? results key = none
  keys : "<<" ∉ names entries → results.map Prod.fst = entries.map Prod.fst

/-- Under every key but the merge key stands the direct entry, with its value merged. -/
theorem entryAt?_merged {entries results : Entries}
    (distinct : (Value.mapping entries).DistinctKeys)
    (success : (Value.mapping entries).merge = .ok (.mapping results))
    {key : Value} (notMerge : key ≠ .string "<<") :
    Option.Rel (fun entry result => entry.1 = result.1 ∧ entry.2.merge = .ok result.2)
      ((entryAt? entries key).or ((bases entries).findSome? fun base => entryAt? base key))
      (entryAt? results key) := by
  rcases (merge_mapping_eq_ok_iff distinct).mp success with
    ⟨resolved, others, followed, same, pairs⟩
  cases same
  have found := Entries.entryAt?_perm (Entries.distinctKeys_resolved distinct followed)
    (Entries.perm_direct distinct followed) key
  rw [← Entries.entryAt?_direct entries notMerge, ← found]
  exact Entries.entryAt?_rel (fun entry result pair => by rw [pair.1]) pairs

theorem ownFirst_of_merge {entries results : Entries}
    (distinct : (Value.mapping entries).DistinctKeys)
    (success : (Value.mapping entries).merge = .ok (.mapping results)) :
    OwnFirst entries results := by
  have taken : ∀ {key entry}, key ≠ .string "<<" →
      (entryAt? entries key).or ((bases entries).findSome? fun base => entryAt? base key) =
        some entry →
      ∃ result, entry.2.merge = .ok result ∧ entryAt? results key = some (entry.1, result) := by
    intro key entry notMerge found
    have relation := entryAt?_merged distinct success notMerge
    rw [found] at relation
    rcases rel_some_iff.mp relation with ⟨result, pair, after⟩
    exact ⟨result.2, pair.2, by rw [after, pair.1]⟩
  constructor
  case own =>
    intro key entry notMerge found
    exact taken notMerge (by rw [found, Option.some_or])
  case inherited =>
    intro key entry notMerge lacking found
    exact taken notMerge (by rw [lacking, Option.none_or, found])
  case absent =>
    intro key notMerge lacking nowhere
    have relation := entryAt?_merged distinct success notMerge
    rw [lacking, Option.none_or, nowhere] at relation
    exact rel_none_iff.mp relation
  case keys =>
    intro noMerge
    rcases (merge_mapping_eq_ok_iff distinct).mp success with
      ⟨resolved, others, followed, same, pairs⟩
    cases same
    rw [resolveMerge, Entries.takeMerge_of_no_mergeKey noMerge] at followed
    cases followed
    exact Entries.keys_kept pairs

/-! ## Places -/

/-- One step into a value: to an item, to what stands under a key, or to what a tag
marks. -/
inductive Step where
  | item (index : Nat)
  | entry (key : Value)
  | content

/-- A step that does not go through a merge key. -/
def Step.IsOwn (step : Step) : Prop :=
  step ≠ .entry (.string "<<")

/-- The value one step inside. -/
def step? : Step → Value → Option Value
  | .item index, .sequence items => items[index]?
  | .entry key, .mapping entries => (entryAt? entries key).map (·.2)
  | .content, .tagged _ content => some content
  | _, _ => none

/-- The value at a place, which is given by the steps to it. -/
def at? : List Step → Value → Option Value
  | [], value => some value
  | step :: path, value => (step? step value).bind (at? path)

theorem distinctKeys_of_step? {step : Step} {value inner : Value} (distinct : value.DistinctKeys)
    (found : value.step? step = some inner) : inner.DistinctKeys := by
  cases step with
  | item index =>
      cases value with
      | sequence items =>
          rw [distinctKeys_sequence_iff] at distinct
          exact distinct inner (List.mem_of_getElem? found)
      | null | bool _ | number _ | string _ | mapping _ | tagged _ _ => cases found
  | entry key =>
      cases value with
      | mapping entries =>
          rcases Option.map_eq_some_iff.mp found with ⟨entry, present, rfl⟩
          rw [distinctKeys_mapping_iff] at distinct
          exact (distinct.2 entry (List.mem_of_find?_eq_some present)).2
      | null | bool _ | number _ | string _ | sequence _ | tagged _ _ => cases found
  | content =>
      cases value with
      | tagged tag content =>
          cases found
          exact distinctKeys_tagged_iff.mp distinct
      | null | bool _ | number _ | string _ | sequence _ | mapping _ => cases found

/-- One step inside a merged value stands what is one step inside the value, merged. -/
theorem step?_merged {value merged inner : Value} (distinct : value.DistinctKeys)
    (success : value.merge = .ok merged) {step : Step} (own : step.IsOwn)
    (found : value.step? step = some inner) :
    ∃ result, inner.merge = .ok result ∧ merged.step? step = some result := by
  cases step with
  | item index =>
      cases value with
      | sequence items =>
          rcases (merge_sequence_eq_ok_iff distinct).mp success with ⟨results, rfl, pairs⟩
          have relation := getElem?_rel pairs index
          rw [show items[index]? = some inner from found] at relation
          exact rel_some_iff.mp relation
      | null | bool _ | number _ | string _ | mapping _ | tagged _ _ => cases found
  | entry key =>
      cases value with
      | mapping entries =>
          rcases (merge_mapping_eq_ok_iff distinct).mp success with
            ⟨resolved, results, followed, rfl, pairs⟩
          rcases Option.map_eq_some_iff.mp found with ⟨entry, present, rfl⟩
          have notMerge : key ≠ .string "<<" := fun isMerge => own (congrArg Step.entry isMerge)
          rcases (ownFirst_of_merge distinct success).own notMerge present with
            ⟨result, contentMerged, after⟩
          exact ⟨result, contentMerged, by rw [step?, after, Option.map_some]⟩
      | null | bool _ | number _ | string _ | sequence _ | tagged _ _ => cases found
  | content =>
      cases value with
      | tagged tag content =>
          cases found
          rcases merge_tagged_eq_ok_iff.mp success with ⟨result, rfl, contentMerged⟩
          exact ⟨result, contentMerged, rfl⟩
      | null | bool _ | number _ | string _ | sequence _ | mapping _ => cases found

/-- At a place in a merged value that is reached without a merge key stands what is at
that place in the value, merged. -/
theorem at?_merged {value merged place : Value} (distinct : value.DistinctKeys)
    (success : value.merge = .ok merged) {path : List Step} (own : ∀ step ∈ path, step.IsOwn)
    (found : value.at? path = some place) :
    place.DistinctKeys ∧ ∃ result, place.merge = .ok result ∧ merged.at? path = some result := by
  induction path generalizing value merged with
  | nil =>
      cases found
      exact ⟨distinct, merged, success, rfl⟩
  | cons step path ih =>
      rw [List.forall_mem_cons] at own
      rcases Option.bind_eq_some_iff.mp found with ⟨inner, here, behind⟩
      rcases step?_merged distinct success own.1 here with ⟨result, innerMerged, after⟩
      rcases ih (distinctKeys_of_step? distinct here) innerMerged own.2 behind with
        ⟨placeDistinct, final, placeMerged, finalFound⟩
      exact ⟨placeDistinct, final, placeMerged, by rw [at?, after, Option.bind_some, finalFound]⟩

/-! ## The kind -/

theorem DistinctKeys.untagged {value : Value} (distinct : value.DistinctKeys) :
    value.untagged.DistinctKeys := by
  induction value using inside_induction with
  | null | bool _ | number _ | string _ | sequence _ _ | mapping _ _ => exact distinct
  | tagged tag content ih => exact ih (distinctKeys_tagged_iff.mp distinct)

/-- What stands inside the tags of a merged value is what stands inside those of the
value, merged. -/
theorem untagged_merged {value merged : Value} (distinct : value.DistinctKeys)
    (success : value.merge = .ok merged) : value.untagged.merge = .ok merged.untagged := by
  induction value using inside_induction generalizing merged with
  | null | bool _ | number _ | string _ =>
      cases success
      rfl
  | sequence items _ =>
      rcases (merge_sequence_eq_ok_iff distinct).mp success with ⟨results, rfl, _⟩
      exact success
  | mapping entries _ =>
      rcases (merge_mapping_eq_ok_iff distinct).mp success with ⟨_, results, _, rfl, _⟩
      exact success
  | tagged tag content ih =>
      rcases merge_tagged_eq_ok_iff.mp success with ⟨result, rfl, contentMerged⟩
      rw [untagged, untagged]
      exact ih (distinctKeys_tagged_iff.mp distinct) contentMerged

end Yaml.Value

namespace Resource

/-- A value is read as the same kind, or as none, after merging inside it. -/
theorem Kind.read_merged {value merged : Value} (distinct : value.DistinctKeys)
    (success : value.merge = .ok merged) : Kind.read merged = Kind.read value := by
  induction value using Value.inside_induction generalizing merged with
  | null | bool _ | number _ | string _ =>
      cases success
      rfl
  | sequence items _ =>
      rcases (Value.merge_sequence_eq_ok_iff distinct).mp success with ⟨results, rfl, _⟩
      rfl
  | mapping entries _ =>
      rcases (Value.merge_mapping_eq_ok_iff distinct).mp success with ⟨_, results, _, rfl, _⟩
      rfl
  | tagged tag content ih =>
      rcases Value.merge_tagged_eq_ok_iff.mp success with ⟨result, rfl, contentMerged⟩
      have inside := ih (Value.distinctKeys_tagged_iff.mp distinct) contentMerged
      exact inside

end Resource

namespace Manifest

open ManifestLint.Yaml.Value (OwnFirst Step)

/-- A document that can be merged keeps its own kind. -/
theorem kind_merged {value merged kind : Value} (distinct : value.DistinctKeys)
    (success : value.merge = .ok merged) (own : value.untagged.lookup? "kind" = some kind) :
    ∃ kept, merged.untagged.lookup? "kind" = some kept ∧ kind.merge = .ok kept ∧
      Resource.Kind.read kept = Resource.Kind.read kind := by
  have inside := Value.untagged_merged distinct success
  have plainDistinct := distinct.untagged
  cases plain : value.untagged with
  | mapping entries =>
      rw [plain] at inside plainDistinct own
      rcases (Value.merge_mapping_eq_ok_iff plainDistinct).mp inside with ⟨_, results, _, same, _⟩
      rw [same] at inside ⊢
      rcases Option.map_eq_some_iff.mp own with ⟨entry, present, rfl⟩
      have notMerge : Value.string "kind" ≠ .string "<<" :=
        fun equal => absurd (Value.string.inj equal) (by decide)
      rcases (Value.ownFirst_of_merge plainDistinct inside).own notMerge present with
        ⟨kept, kindMerged, after⟩
      have kindDistinct := ((Value.distinctKeys_mapping_iff.mp plainDistinct).2 entry
        (List.mem_of_find?_eq_some present)).2
      refine ⟨kept, ?_, kindMerged, Resource.Kind.read_merged kindDistinct kindMerged⟩
      rw [Value.lookup?_mapping, after, Option.map_some]
  | null | bool _ | number _ | string _ | sequence _ | tagged _ _ =>
      rw [plain] at own
      cases own

/-- In a document that can be merged own entries come first: every mapping that is
reached without going through a merge key has, at the same place in the merged value,
its own values under its own keys, merged inside, and values of the mappings that its
merge key names only under keys that it lacks.  The document keeps its own kind, and
it is read as the merged value is. -/
theorem ownEntries_first {value merged : Value} (distinct : value.DistinctKeys)
    (success : value.merge = .ok merged) :
    (∀ path entries, (∀ step ∈ path, Step.IsOwn step) →
        value.at? path = some (.mapping entries) →
        ∃ results, merged.at? path = some (.mapping results) ∧ OwnFirst entries results) ∧
      (∀ kind, value.untagged.lookup? "kind" = some kind →
        ∃ kept, merged.untagged.lookup? "kind" = some kept ∧ kind.merge = .ok kept ∧
          Resource.Kind.read kept = Resource.Kind.read kind) ∧
      ∀ index, value.HasKind → resourceOf index value = outcomeOf index merged := by
  refine ⟨?_, fun kind own => kind_merged distinct success own,
    fun index hasKind => resourceOf_of_hasKind index hasKind success⟩
  intro path entries own found
  rcases Value.at?_merged distinct success own found with
    ⟨placeDistinct, result, placeMerged, after⟩
  rcases (Value.merge_mapping_eq_ok_iff placeDistinct).mp placeMerged with
    ⟨_, results, _, rfl, _⟩
  exact ⟨results, after, Value.ownFirst_of_merge placeDistinct placeMerged⟩

/-- A pipeline whose merge keys name another kind, and for its step an image that it has
itself and privileges that it lacks, which the two mappings disagree on. -/
def overridden : Value :=
  .mapping [(.string "<<", .mapping [(.string "kind", .string "secret")]),
    (.string "kind", .string "pipeline"),
    (.string "steps", .sequence [.mapping
      [(.string "<<", .sequence [.mapping [(.string "image", .string "golang")],
          .mapping [(.string "privileged", .bool false)],
          .mapping [(.string "image", .string "rust"), (.string "privileged", .bool true)]]),
        (.string "image", .string "alpine"), (.string "name", .string "test")]])]

/-- The merged pipeline: its kind and the image of the step are its own, and the
privileges are those of the first mapping that has any. -/
def overriddenMerged : Value :=
  .mapping [(.string "steps", .sequence [.mapping
      [(.string "name", .string "test"), (.string "image", .string "alpine"),
        (.string "privileged", .bool false)]]),
    (.string "kind", .string "pipeline")]

theorem ownEntries_first_overridden :
    overridden.DistinctKeys ∧ overridden.merge = .ok overriddenMerged ∧
      (∃ kept, overriddenMerged.untagged.lookup? "kind" = some kept ∧
        (Value.string "pipeline").merge = .ok kept ∧
        Resource.Kind.read kept = Resource.Kind.read (.string "pipeline")) ∧
      ∃ results, overriddenMerged.at? [.entry (.string "steps"), .item 0] =
        some (.mapping results) ∧
        OwnFirst [(.string "<<", .sequence [.mapping [(.string "image", .string "golang")],
            .mapping [(.string "privileged", .bool false)],
            .mapping [(.string "image", .string "rust"), (.string "privileged", .bool true)]]),
          (.string "image", .string "alpine"), (.string "name", .string "test")] results := by
  have distinct : overridden.DistinctKeys := by
    simp [overridden, Value.distinctKeys_mapping_iff, Value.same, Value.DistinctKeys.string,
      Value.DistinctKeys.bool]
  have success : overridden.merge = .ok overriddenMerged := rfl
  have ownFirst := ownEntries_first distinct success
  refine ⟨distinct, success, ownFirst.2.1 _ rfl, ownFirst.1 _ _ ?_ rfl⟩
  simp [Step.IsOwn]

end Manifest

end ManifestLint
