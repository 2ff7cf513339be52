import ManifestLint.Proofs.MergeKeys

/-!
# Plain values

A value is plain if no local tag stands in it and no mapping inside it has a merge
key.  Following the merge keys of a plain value changes nothing.
-/

namespace ManifestLint.Yaml.Value

open ManifestLint.Yaml (Entries)

/-- No local tag stands in a value, and no mapping inside it has a merge key. -/
structure Plain (value : Value) : Prop where
  tagless : value.hasTag = false
  resolved : value.Resolved

theorem plain_null : Plain .null :=
  ⟨rfl, .null⟩

theorem plain_bool (value : Bool) : Plain (.bool value) :=
  ⟨rfl, .bool value⟩

theorem plain_number (value : Number) : Plain (.number value) :=
  ⟨rfl, .number value⟩

theorem plain_string (value : String) : Plain (.string value) :=
  ⟨rfl, .string value⟩

theorem plain_sequence_iff {items : List Value} :
    Plain (.sequence items) ↔ ∀ item ∈ items, Plain item := by
  constructor
  · rintro ⟨tagless, resolved⟩ item member
    rw [hasTag, anyItemHasTag_eq_any, List.any_eq_false] at tagless
    exact ⟨by simpa using tagless item member, throughout_sequence_iff.mp resolved item member⟩
  · intro plain
    constructor
    · rw [hasTag, anyItemHasTag_eq_any, List.any_eq_false]
      exact fun item member => by simp [(plain item member).tagless]
    · exact throughout_sequence_iff.mpr fun item member => (plain item member).resolved

theorem plain_mapping_iff {entries : Entries} :
    Plain (.mapping entries) ↔
      ∀ entry ∈ entries, entry.1 ≠ .string "<<" ∧ entry.1.hasTag = false ∧ Plain entry.2 := by
  have noMergeKey : "<<" ∉ Entries.names entries ↔ ∀ entry ∈ entries, entry.1 ≠ .string "<<" := by
    simp only [Entries.names, List.mem_filterMap, name?_eq_some_iff, not_exists, not_and, ne_eq]
  constructor
  · rintro ⟨tagless, resolved⟩ entry member
    rw [hasTag, anyEntryHasTag_eq_any, List.any_eq_false] at tagless
    rw [Resolved, throughout_mapping_iff, noMergeKey] at resolved
    have noTag : entry.1.hasTag = false ∧ entry.2.hasTag = false := by
      simpa using tagless entry member
    exact ⟨resolved.1 entry member, noTag.1, noTag.2, resolved.2 entry member⟩
  · intro plain
    constructor
    · rw [hasTag, anyEntryHasTag_eq_any, List.any_eq_false]
      exact fun entry member => by
        simp [(plain entry member).2.1, (plain entry member).2.2.tagless]
    · rw [Resolved, throughout_mapping_iff, noMergeKey]
      exact ⟨fun entry member => (plain entry member).1,
        fun entry member => (plain entry member).2.2.resolved⟩

/-- Following the merge keys of a plain value changes nothing. -/
theorem Plain.merge_eq {value : Value} (plain : value.Plain) : value.merge = .ok value :=
  mergeWithin_of_resolved _ plain.resolved

/-- Fewer entries are plain all the more. -/
theorem Plain.sublist {entries others : Entries} (plain : Plain (.mapping entries))
    (sublist : others.Sublist entries) : Plain (.mapping others) := by
  rw [plain_mapping_iff] at plain ⊢
  exact fun entry member => plain entry (sublist.subset member)

end ManifestLint.Yaml.Value
