import ManifestLint.Proofs.EffectiveEntries

/-!
# What following merge keys gives

Merging goes from the outside in and looks at the merge key of a mapping once.  A
merge key that is among the entries taken over stays there, and what it names is
lost.  So a merged value is the effective one, up to the order of entries, exactly
if no merge key arrives by merging.
-/

namespace ManifestLint.Yaml

namespace Value

open Entries (direct mapValues own bases names)

/-- The value of every merge key is a mapping or a sequence of mappings. -/
def Mergeable : Value → Prop :=
  Throughout fun entries => ∀ content, (.string "<<", content) ∈ entries → content.NamesMappings

/-- No merge key arrives by merging, neither in a mapping nor inside the values
that it has or takes over. -/
inductive Unchained : Value → Prop where
  | null : Unchained .null
  | bool (value : Bool) : Unchained (.bool value)
  | number (value : Number) : Unchained (.number value)
  | string (value : String) : Unchained (.string value)
  | sequence {items : List Value} (inside : ∀ item ∈ items, Unchained item) :
      Unchained (.sequence items)
  | mapping {entries : Entries} (here : "<<" ∉ names (direct entries))
      (inside : ∀ entry ∈ direct entries, Unchained entry.2) :
      Unchained (.mapping entries)
  | tagged {tag : String} {content : Value} (inside : Unchained content) :
      Unchained (.tagged tag content)

end Value

namespace Entries

/-! ## Following one merge key -/

theorem takeOver_perm {entries others : Entries} (perm : entries.Perm others) (base : Entries) :
    (takeOver entries base).Perm (takeOver others base) := by
  induction base generalizing entries others with
  | nil => exact perm
  | cons entry rest ih =>
      apply ih
      unfold addMissing
      have sameKnown : Value.hasKey entries entry.1 = Value.hasKey others entry.1 := perm.any_eq
      rw [sameKnown]
      split
      · exact perm
      · exact perm.append_right [entry]

theorem foldl_takeOver_perm (list : List Entries) {entries others : Entries}
    (perm : entries.Perm others) :
    (list.foldl takeOver entries).Perm (list.foldl takeOver others) := by
  induction list generalizing entries others with
  | nil => exact perm
  | cons base rest ih => exact ih (takeOver_perm perm base)

/-- A sequence of mappings is taken over mapping by mapping. -/
theorem takeOverItems_eq {items : List Value}
    (mappings : ∀ item ∈ items, ∃ entries, item = .mapping entries) (entries : Entries) :
    takeOverItems entries items =
      .ok ((items.filterMap Value.entries?).foldl takeOver entries) := by
  induction items generalizing entries with
  | nil => rfl
  | cons item rest ih =>
      rcases mappings item (List.mem_cons_self ..) with ⟨base, rfl⟩
      exact ih (fun later member => mappings later (List.mem_cons_of_mem _ member)) _

theorem takeMerge_of_no_mergeKey {entries : Entries} (noMerge : "<<" ∉ names entries) :
    takeMerge entries = (none, entries) := by
  have noPlace : entries.findIdx? (fun entry => isMergeKey entry.1) = none := by
    rw [List.findIdx?_eq_none_iff]
    exact fun entry member => isMergeKey_eq_false noMerge member
  rw [takeMerge, noPlace]

/-- The merge key is taken out together with its value, and the others stay. -/
theorem takeMerge_of_mem {before after : Entries} {key content : Value}
    (isMerge : isMergeKey key = true) (noMerge : "<<" ∉ names before) :
    ∃ rest, takeMerge (before ++ (key, content) :: after) = (some content, rest) ∧
      rest.Perm (before ++ after) := by
  have notBefore : ∀ entry ∈ before, isMergeKey entry.1 = false :=
    fun entry member => isMergeKey_eq_false noMerge member
  have place : (before ++ (key, content) :: after).findIdx? (fun entry => isMergeKey entry.1) =
      some before.length := by
    rw [List.findIdx?_append, List.findIdx?_eq_none_iff.mpr notBefore, List.findIdx?_cons]
    simp [isMerge]
  have value : ((before ++ (key, content) :: after)[before.length]?).map (·.2) = some content := by
    simp
  rcases List.eq_nil_or_concat' after with rfl | ⟨middle, last, rfl⟩
  · refine ⟨before, ?_, by simp⟩
    rw [takeMerge, place]
    simp
  · refine ⟨before ++ last :: middle, ?_, ?_⟩
    · have lastEntry : (before ++ (key, content) :: (middle ++ [last])).getLast? = some last := by
        rw [← List.cons_append, ← List.append_assoc, List.getLast?_concat]
      have notLast :
          before.length + 1 ≠ (before ++ (key, content) :: (middle ++ [last])).length := by
        simp
      have moved : ((before ++ (key, content) :: (middle ++ [last])).dropLast).set
          before.length last = before ++ last :: middle := by
        rw [← List.cons_append, ← List.append_assoc, List.dropLast_concat]
        simp
      rw [takeMerge, place]
      simp only [value, lastEntry, if_neg notLast, moved]
    · exact List.Perm.append_left before (List.perm_append_singleton last middle).symm

/-- Of distinct names at most one is the merge key: what it names is all that is taken
from, and taking it out leaves the own entries. -/
theorem takeMerge_of_mergeKey {entries : Entries} (distinct : (names entries).Nodup)
    {content : Value} (member : (.string "<<", content) ∈ entries) :
    ∃ rest, takeMerge entries = (some content, rest) ∧ rest.Perm (own entries) ∧
      bases entries = content.named := by
  have isMerge : isMergeKey (.string "<<") = true := isMergeKey_iff.mpr rfl
  rcases List.append_of_mem member with ⟨before, after, rfl⟩
  rw [names_append, names_cons, Value.name?, Option.toList_some, List.singleton_append,
    List.nodup_append] at distinct
  have notBefore : "<<" ∉ names before :=
    fun inBefore => distinct.2.2 _ inBefore _ (List.mem_cons_self ..) rfl
  have notAfter : "<<" ∉ names after := (List.nodup_cons.mp distinct.2.1).1
  have others : own (before ++ (.string "<<", content) :: after) = before ++ after := by
    rw [own, List.filter_append, List.filter_cons_of_neg (by simp [isMerge]), ← own, ← own,
      own_eq_self notBefore, own_eq_self notAfter]
  have named : bases (before ++ (.string "<<", content) :: after) = content.named := by
    rw [bases, List.flatMap_append, List.flatMap_cons, if_pos isMerge, ← bases, ← bases,
      bases_eq_nil notBefore, bases_eq_nil notAfter, List.nil_append, List.append_nil]
  rw [others]
  rcases takeMerge_of_mem isMerge notBefore with ⟨rest, taken, perm⟩
  exact ⟨rest, taken, perm, named⟩

/-- Following the merge key of a mapping gives its direct entries in some order. -/
theorem resolveMerge_perm_direct {entries : Entries} (distinct : (names entries).Nodup)
    (mergeable : ∀ content, (.string "<<", content) ∈ entries → content.NamesMappings) :
    ∃ resolved, resolveMerge entries = .ok resolved ∧ resolved.Perm (direct entries) := by
  by_cases hasMerge : "<<" ∈ names entries
  · rcases mergeKey_mem_names_iff.mp hasMerge with ⟨⟨key, content⟩, member, isMerge⟩
    cases isMergeKey_iff.mp isMerge
    rcases takeMerge_of_mergeKey distinct member with ⟨rest, taken, perm, named⟩
    rw [resolveMerge, taken, direct, named]
    cases mergeable content member with
    | mapping base =>
        exact ⟨takeOver rest base, rfl, takeOver_perm perm base⟩
    | sequence mappings =>
        exact ⟨_, takeOverItems_eq mappings rest, foldl_takeOver_perm _ perm⟩
  · refine ⟨entries, ?_, ?_⟩
    · rw [resolveMerge, takeMerge_of_no_mergeKey hasMerge]
    · rw [direct_eq_self hasMerge]

theorem mappings_of_takeOverItems {items : List Value} {entries taken : Entries}
    (success : takeOverItems entries items = .ok taken) :
    ∀ item ∈ items, ∃ others, item = .mapping others := by
  induction items generalizing entries with
  | nil => exact List.forall_mem_nil _
  | cons item rest ih =>
      cases item with
      | mapping others => exact List.forall_mem_cons.mpr ⟨⟨others, rfl⟩, ih success⟩
      | null | bool _ | number _ | string _ | sequence _ | tagged _ _ => cases success

/-- A merge key that is followed names mappings. -/
theorem namesMappings_of_resolveMerge {entries resolved : Entries}
    (distinct : (names entries).Nodup) (success : resolveMerge entries = .ok resolved)
    {content : Value} (member : (.string "<<", content) ∈ entries) : content.NamesMappings := by
  rcases takeMerge_of_mergeKey distinct member with ⟨rest, taken, _, _⟩
  rw [resolveMerge, taken] at success
  cases content with
  | mapping base => exact Value.NamesMappings.mapping base
  | sequence items => exact Value.NamesMappings.sequence (mappings_of_takeOverItems success)
  | null | bool _ | number _ | string _ | tagged _ _ => cases success

end Entries

/-! ## Following all merge keys -/

/-- Items are merged by merging each of them. -/
theorem mergeItemsWith_eq_ok_iff {merge : Value → Except MergeProblem Value}
    {items merged : List Value} :
    mergeItemsWith merge items = .ok merged ↔
      List.Forall₂ (fun item result => merge item = .ok result) items merged := by
  induction items generalizing merged with
  | nil => simp [mergeItemsWith, eq_comm]
  | cons item rest ih =>
      rw [mergeItemsWith, List.forall₂_cons_left_iff]
      simp only [← ih]
      cases mergeItemsWith merge rest with
      | error problem => simp [bind, Except.bind]
      | ok others =>
          cases merge item with
          | error problem => simp [bind, Except.bind]
          | ok first => simp [bind, Except.bind, pure, Except.pure, eq_comm]

/-- Entries are merged by merging the value of each of them; the keys stay. -/
theorem mergeEntriesWith_eq_ok_iff {merge : Value → Except MergeProblem Value}
    {entries merged : Entries} :
    mergeEntriesWith merge entries = .ok merged ↔
      List.Forall₂ (fun entry result => entry.1 = result.1 ∧ merge entry.2 = .ok result.2)
        entries merged := by
  induction entries generalizing merged with
  | nil => simp [mergeEntriesWith, eq_comm]
  | cons entry rest ih =>
      rcases entry with ⟨key, content⟩
      rw [mergeEntriesWith, List.forall₂_cons_left_iff]
      simp only [← ih]
      cases mergeEntriesWith merge rest with
      | error problem => simp [bind, Except.bind]
      | ok others =>
          cases merge content with
          | error problem => simp [bind, Except.bind]
          | ok first => simp [bind, Except.bind, pure, Except.pure, eq_comm]

/-- Entries whose keys are paired with themselves keep their keys. -/
theorem Entries.keys_kept {related : Value × Value → Value × Value → Prop}
    {entries results : Entries}
    (pairs : List.Forall₂ (fun entry result => entry.1 = result.1 ∧ related entry result)
      entries results) : results.map Prod.fst = entries.map Prod.fst := by
  induction pairs with
  | nil => rfl
  | cons head _ ih => rw [List.map_cons, List.map_cons, ih, head.1]

/-- Where each member has a related one, there is a related list. -/
theorem exists_forall₂ {α β : Type} {related : α → β → Prop} {list : List α}
    (each : ∀ member ∈ list, ∃ other, related member other) :
    ∃ others, List.Forall₂ related list others := by
  induction list with
  | nil => exact ⟨[], List.Forall₂.nil⟩
  | cons first rest ih =>
      rw [List.forall_mem_cons] at each
      rcases each.1 with ⟨other, here⟩
      rcases ih each.2 with ⟨others, behind⟩
      exact ⟨other :: others, List.Forall₂.cons here behind⟩

/-- Items are merged if each of them can be. -/
theorem mergeItemsWith_eq_ok {merge : Value → Except MergeProblem Value}
    {becomes : Value → Value → Prop} {items : List Value}
    (each : ∀ item ∈ items, ∃ merged, merge item = .ok merged ∧ becomes item merged) :
    ∃ merged, mergeItemsWith merge items = .ok merged ∧ List.Forall₂ becomes items merged := by
  rcases exists_forall₂ each with ⟨merged, pairs⟩
  refine ⟨merged, mergeItemsWith_eq_ok_iff.mpr ?_, ?_⟩
  · exact pairs.imp fun item result pair => pair.1
  · exact pairs.imp fun item result pair => pair.2

/-- The values of entries are merged if each of them can be; the keys stay. -/
theorem mergeEntriesWith_eq_ok {merge : Value → Except MergeProblem Value}
    {becomes : Value → Value → Prop} {entries : Entries}
    (each : ∀ entry ∈ entries, ∃ merged, merge entry.2 = .ok merged ∧ becomes entry.2 merged) :
    ∃ merged, mergeEntriesWith merge entries = .ok merged ∧
      List.Forall₂ (fun entry result => entry.1 = result.1 ∧ becomes entry.2 result.2)
        entries merged := by
  have eachEntry : ∀ entry ∈ entries, ∃ result : Value × Value,
      entry.1 = result.1 ∧ merge entry.2 = .ok result.2 ∧ becomes entry.2 result.2 := by
    intro entry member
    rcases each entry member with ⟨merged, success, relation⟩
    exact ⟨(entry.1, merged), rfl, success, relation⟩
  rcases exists_forall₂ eachEntry with ⟨merged, pairs⟩
  refine ⟨merged, mergeEntriesWith_eq_ok_iff.mpr ?_, ?_⟩
  · exact pairs.imp fun entry result pair => ⟨pair.1, pair.2.1⟩
  · exact pairs.imp fun entry result pair => ⟨pair.1, pair.2.2⟩

namespace Value

open Entries (direct mapValues own bases names)

/-- What merging makes of a value: the effective value in some order if no merge
key arrives by merging, and otherwise a value with a merge key left in it. -/
structure MergesTo (value merged : Value) : Prop where
  effective_of_unchained : value.Unchained → Rearranged merged value.effective
  unchained_of_resolved : merged.Resolved → value.Unchained

theorem MergesTo.sequence {items merged : List Value}
    (each : List.Forall₂ MergesTo items merged) :
    MergesTo (.sequence items) (.sequence merged) := by
  constructor
  · intro unchained
    cases unchained with
    | sequence inside =>
        rw [effective_sequence]
        apply Rearranged.sequence
        induction each with
        | nil => exact List.Forall₂.nil
        | cons first rest ih =>
            rw [List.forall_mem_cons] at inside
            exact List.Forall₂.cons (first.effective_of_unchained inside.1) (ih inside.2)
  · intro resolved
    rw [Resolved, throughout_sequence_iff] at resolved
    apply Unchained.sequence
    induction each with
    | nil => exact List.forall_mem_nil _
    | cons first rest ih =>
        rw [List.forall_mem_cons] at resolved ⊢
        exact ⟨first.unchained_of_resolved resolved.1, ih resolved.2⟩

theorem MergesTo.mapping {entries resolved merged : Entries}
    (perm : resolved.Perm (direct entries))
    (each : List.Forall₂ (fun entry result => entry.1 = result.1 ∧ MergesTo entry.2 result.2)
      resolved merged) :
    MergesTo (.mapping entries) (.mapping merged) := by
  have sameNames : names merged = names resolved := Entries.names_congr (Entries.keys_kept each)
  constructor
  · intro unchained
    cases unchained with
    | mapping here inside =>
        rw [effective_mapping, direct_effective here]
        refine Rearranged.trans ?_ (Rearranged.mapping_of_perm (perm.map _))
        apply Rearranged.mapping
        have inside : ∀ entry ∈ resolved, entry.2.Unchained :=
          fun entry member => inside entry (perm.mem_iff.mp member)
        clear perm sameNames
        induction each with
        | nil => exact List.Forall₂.nil
        | cons first rest ih =>
            rw [List.forall_mem_cons] at inside
            exact List.Forall₂.cons ⟨first.1.symm, first.2.effective_of_unchained inside.1⟩
              (ih inside.2)
  · intro noMerge
    rw [Resolved, throughout_mapping_iff, sameNames] at noMerge
    apply Unchained.mapping
    · rw [← (Entries.names_perm perm).mem_iff]
      exact noMerge.1
    · have inside : ∀ entry ∈ resolved, entry.2.Unchained := by
        have values := noMerge.2
        clear perm sameNames noMerge
        induction each with
        | nil => exact List.forall_mem_nil _
        | cons first rest ih =>
            rw [List.forall_mem_cons] at values ⊢
            exact ⟨first.2.unchained_of_resolved values.1, ih values.2⟩
      exact fun entry member => inside entry (perm.mem_iff.mpr member)

theorem MergesTo.tagged {tag : String} {content merged : Value} (inside : MergesTo content merged) :
    MergesTo (.tagged tag content) (.tagged tag merged) := by
  constructor
  · intro unchained
    cases unchained with
    | tagged unchained =>
        rw [effective_tagged]
        exact Rearranged.tagged tag (inside.effective_of_unchained unchained)
  · intro resolved
    rw [Resolved, throughout_tagged_iff] at resolved
    exact Unchained.tagged (inside.unchained_of_resolved resolved)

/-- A value without anything inside it stays as it is. -/
theorem mergeWithin_of_depth_eq_zero {value : Value} (shallow : value.depth = 0) (depth : Nat) :
    mergeWithin depth value = .ok value ∧ MergesTo value value := by
  have atoms : value.Unchained ∧ value.effective = value := by
    cases value with
    | null => exact ⟨Unchained.null, rfl⟩
    | bool value => exact ⟨Unchained.bool value, rfl⟩
    | number value => exact ⟨Unchained.number value, rfl⟩
    | string value => exact ⟨Unchained.string value, rfl⟩
    | sequence _ | mapping _ | tagged _ _ => cases shallow
  constructor
  · cases depth with
    | zero => rfl
    | succ depth =>
        cases value with
        | null | bool _ | number _ | string _ => rfl
        | sequence _ | mapping _ | tagged _ _ => cases shallow
  · constructor
    · intro _
      rw [atoms.2]
      exact Rearranged.refl value
    · exact fun _ => atoms.1

/-- Merge keys that name mappings are all followed, by what `MergesTo` says. -/
theorem mergeWithin_spec (depth : Nat) {value : Value} (bound : value.depth ≤ depth)
    (mergeable : value.Mergeable) (distinct : value.DistinctNames) :
    ∃ merged, mergeWithin depth value = .ok merged ∧ MergesTo value merged := by
  induction depth generalizing value with
  | zero => exact ⟨value, mergeWithin_of_depth_eq_zero (Nat.le_zero.mp bound) 0⟩
  | succ depth ih =>
      cases value with
      | null | bool _ | number _ | string _ => exact ⟨_, mergeWithin_of_depth_eq_zero rfl _⟩
      | sequence items =>
          rw [Value.depth] at bound
          rw [Mergeable, throughout_sequence_iff] at mergeable
          rw [DistinctNames, throughout_sequence_iff] at distinct
          have each : ∀ item ∈ items,
              ∃ merged, mergeWithin depth item = .ok merged ∧ MergesTo item merged := by
            intro item member
            have shallower := Entries.depth_le_of_mem_items member
            exact ih (by omega) (mergeable item member) (distinct item member)
          rcases mergeItemsWith_eq_ok each with ⟨merged, success, becomes⟩
          refine ⟨.sequence merged, ?_, MergesTo.sequence becomes⟩
          rw [mergeWithin, success]
          rfl
      | mapping entries =>
          rw [Value.depth] at bound
          rw [Mergeable, throughout_mapping_iff] at mergeable
          rw [DistinctNames, throughout_mapping_iff] at distinct
          rcases Entries.resolveMerge_perm_direct distinct.1 mergeable.1 with
            ⟨resolved, followed, perm⟩
          -- The entries taken over are no deeper than the mapping was, so the bound holds on.
          have each : ∀ entry ∈ resolved,
              ∃ merged, mergeWithin depth entry.2 = .ok merged ∧ MergesTo entry.2 merged := by
            intro entry member
            have taken := perm.mem_iff.mp member
            have shallower := Entries.depth_le_of_mem_direct taken
            exact ih (by omega) (Entries.throughout_direct mergeable.2 taken)
              (Entries.throughout_direct distinct.2 taken)
          rcases mergeEntriesWith_eq_ok each with ⟨merged, success, becomes⟩
          refine ⟨.mapping merged, ?_, MergesTo.mapping perm becomes⟩
          rw [mergeWithin, followed]
          change (do return Value.mapping (← mergeEntriesWith (mergeWithin depth) resolved)) = _
          rw [success]
          rfl
      | tagged tag content =>
          rw [Value.depth] at bound
          rw [Mergeable, throughout_tagged_iff] at mergeable
          rw [DistinctNames, throughout_tagged_iff] at distinct
          rcases ih (by omega) mergeable distinct with ⟨merged, success, becomes⟩
          refine ⟨.tagged tag merged, ?_, becomes.tagged⟩
          rw [mergeWithin, success]
          rfl

/-- Rearranging brings no merge key. -/
theorem Rearranged.resolved {value other : Value} (rearranged : Rearranged value other)
    (resolved : value.Resolved) : other.Resolved :=
  @Rearranged.throughout (fun names => "<<" ∉ names)
    (fun perm noMerge member => noMerge (perm.mem_iff.mpr member)) value other rearranged resolved

/-- A value is merged into its effective value, up to the order of entries,
exactly if no merge key arrives by merging. -/
theorem merge_spec {value : Value} (mergeable : value.Mergeable) (distinct : value.DistinctNames) :
    ∃ merged, value.merge = .ok merged ∧ (Rearranged merged value.effective ↔ value.Unchained) := by
  rcases mergeWithin_spec value.depth (Nat.le_refl _) mergeable distinct with
    ⟨merged, success, becomes⟩
  refine ⟨merged, success, ?_, becomes.effective_of_unchained⟩
  intro rearranged
  exact becomes.unchained_of_resolved (rearranged.symm.resolved (resolved_effective value))

/-- A value without merge keys stays as it is. -/
theorem mergeWithin_of_resolved (depth : Nat) {value : Value} (resolved : value.Resolved) :
    mergeWithin depth value = .ok value := by
  induction depth generalizing value with
  | zero => rfl
  | succ depth ih =>
      cases value with
      | null | bool _ | number _ | string _ => rfl
      | sequence items =>
          rw [Resolved, throughout_sequence_iff] at resolved
          have each : ∀ item ∈ items,
              ∃ merged, mergeWithin depth item = .ok merged ∧ item = merged :=
            fun item member => ⟨item, ih (resolved item member), rfl⟩
          rcases mergeItemsWith_eq_ok each with ⟨merged, success, same⟩
          rw [List.forall₂_eq_eq_eq] at same
          rw [mergeWithin, success, same]
          rfl
      | mapping entries =>
          rw [Resolved, throughout_mapping_iff] at resolved
          have each : ∀ entry ∈ entries,
              ∃ merged, mergeWithin depth entry.2 = .ok merged ∧ entry.2 = merged :=
            fun entry member => ⟨entry.2, ih (resolved.2 entry member), rfl⟩
          rcases mergeEntriesWith_eq_ok each with ⟨merged, success, same⟩
          have unchanged : entries = merged := by
            rw [← List.forall₂_eq_eq_eq]
            exact same.imp fun entry result => Prod.ext_iff.mpr
          rw [mergeWithin, Entries.resolveMerge, Entries.takeMerge_of_no_mergeKey resolved.1]
          change (do return Value.mapping (← mergeEntriesWith (mergeWithin depth) entries)) = _
          rw [success, unchanged]
          rfl
      | tagged tag content =>
          rw [Resolved, throughout_tagged_iff] at resolved
          rw [mergeWithin, ih resolved]
          rfl

/-- The effective value has nothing left to merge. -/
theorem merge_effective (value : Value) : value.effective.merge = .ok value.effective :=
  mergeWithin_of_resolved _ (resolved_effective value)

end Value

end ManifestLint.Yaml
