import ManifestLint.Proofs.MergeKeys

/-!
# Merged values, level by level

Where no mapping has a key twice, the bound on the depth of merging plays no part:
a sequence is merged by merging its items, and a mapping by merging the values of
its direct entries.  Every value is reached by going from mappings to their direct
entries, so this is an induction, too.  Merged values have no key twice.
-/

namespace ManifestLint.Yaml

section Related

variable {α β : Type} {related : α → β → Prop}

theorem rel_none_iff {other : Option β} : Option.Rel related none other ↔ other = none := by
  constructor
  · intro relation
    cases relation
    rfl
  · rintro rfl
    exact Option.Rel.none

theorem rel_some_iff {value : α} {other : Option β} :
    Option.Rel related (some value) other ↔
      ∃ result, related value result ∧ other = some result := by
  constructor
  · intro relation
    cases relation with
    | some pair => exact ⟨_, pair, rfl⟩
  · rintro ⟨result, pair, rfl⟩
    exact Option.Rel.some pair

theorem rel_symm {back : β → α → Prop} (flip : ∀ value result, related value result →
    back result value) {option : Option α} {other : Option β}
    (relation : Option.Rel related option other) : Option.Rel back other option := by
  cases relation with
  | none => exact Option.Rel.none
  | some pair => exact Option.Rel.some (flip _ _ pair)

theorem rel_trans {γ : Type} {next : β → γ → Prop} {both : α → γ → Prop}
    (compose : ∀ first second third, related first second → next second third →
      both first third)
    {first : Option α} {second : Option β} {third : Option γ}
    (early : Option.Rel related first second) (late : Option.Rel next second third) :
    Option.Rel both first third := by
  cases early with
  | none =>
      rw [rel_none_iff.mp late]
      exact Option.Rel.none
  | some head =>
      rcases rel_some_iff.mp late with ⟨last, pair, rfl⟩
      exact Option.Rel.some (compose _ _ _ head pair)

theorem rel_or {first second : Option α} {other last : Option β}
    (head : Option.Rel related first other) (next : Option.Rel related second last) :
    Option.Rel related (first.or second) (other.or last) := by
  cases head with
  | none => rwa [Option.none_or, Option.none_or]
  | some pair => exact Option.Rel.some pair

theorem getElem?_rel {list : List α} {others : List β}
    (pairs : List.Forall₂ related list others) (index : Nat) :
    Option.Rel related list[index]? others[index]? := by
  induction pairs generalizing index with
  | nil => exact Option.Rel.none
  | cons head _ ih =>
      cases index with
      | zero => exact Option.Rel.some head
      | succ index => exact ih index

theorem forall_mem_of_pairs {holds : β → Prop} {list : List α} {others : List β}
    (pairs : List.Forall₂ (fun _ other => holds other) list others) :
    ∀ other ∈ others, holds other := by
  induction pairs with
  | nil => exact List.forall_mem_nil _
  | cons head _ ih => exact List.forall_mem_cons.mpr ⟨head, ih⟩

end Related

namespace Entries

/-! ## Direct entries with distinct keys -/

theorem nodup_names {entries : Entries} (distinct : (Value.mapping entries).DistinctKeys) :
    (names entries).Nodup :=
  (Value.throughout_mapping_iff.mp distinct.distinctNames).1

theorem distinctKeys_takeOver {entries others : Entries}
    (distinct : (Value.mapping entries).DistinctKeys)
    (inside : ∀ entry ∈ others, entry.1.DistinctKeys ∧ entry.2.DistinctKeys) :
    (Value.mapping (takeOver entries others)).DistinctKeys := by
  induction others generalizing entries with
  | nil => exact distinct
  | cons other rest ih =>
      rw [List.forall_mem_cons] at inside
      have added : (Value.mapping (addMissing entries other)).DistinctKeys := by
        unfold addMissing
        split
        · exact distinct
        · rename_i unknown
          exact distinct.concat unknown inside.1.1 inside.1.2
      exact ih added inside.2

theorem distinctKeys_foldl_takeOver {others : List Entries} {entries : Entries}
    (distinct : (Value.mapping entries).DistinctKeys)
    (bases : ∀ base ∈ others, (Value.mapping base).DistinctKeys) :
    (Value.mapping (others.foldl takeOver entries)).DistinctKeys := by
  induction others generalizing entries with
  | nil => exact distinct
  | cons base rest ih =>
      rw [List.forall_mem_cons] at bases
      have inside := (Value.distinctKeys_mapping_iff.mp bases.1).2
      exact ih (distinctKeys_takeOver distinct inside) bases.2

theorem distinctKeys_bases {entries base : Entries}
    (distinct : (Value.mapping entries).DistinctKeys) (member : base ∈ bases entries) :
    (Value.mapping base).DistinctKeys := by
  rcases mem_bases member with ⟨source, present, named⟩
  have within := ((Value.distinctKeys_mapping_iff.mp distinct).2 source present).2
  rcases Value.mem_named named with itself | ⟨items, sequence, item⟩
  · rwa [itself] at within
  · rw [sequence, Value.distinctKeys_sequence_iff] at within
    exact within _ item

/-- Keys stay distinct when the merge key of a mapping is followed. -/
theorem distinctKeys_direct {entries : Entries}
    (distinct : (Value.mapping entries).DistinctKeys) :
    (Value.mapping (direct entries)).DistinctKeys :=
  distinctKeys_foldl_takeOver (distinct.sublist List.filter_sublist)
    fun _ member => distinctKeys_bases distinct member

/-- Following the merge key gives the direct entries, if it can be followed. -/
theorem perm_direct {entries resolved : Entries}
    (distinct : (Value.mapping entries).DistinctKeys)
    (success : resolveMerge entries = .ok resolved) : resolved.Perm (direct entries) := by
  have mergeable : ∀ content, (.string "<<", content) ∈ entries → content.NamesMappings :=
    fun _ member => namesMappings_of_resolveMerge (nodup_names distinct) success member
  rcases resolveMerge_perm_direct (nodup_names distinct) mergeable with ⟨others, followed, perm⟩
  rw [success] at followed
  cases followed
  exact perm

theorem distinctKeys_resolved {entries resolved : Entries}
    (distinct : (Value.mapping entries).DistinctKeys)
    (success : resolveMerge entries = .ok resolved) : (Value.mapping resolved).DistinctKeys :=
  (distinctKeys_direct distinct).perm (perm_direct distinct success).symm

/-! ## Entries by their keys -/

/-- Where keys are distinct, the order of entries does not matter for finding them. -/
theorem entryAt?_perm {entries others : Entries}
    (distinct : (Value.mapping entries).DistinctKeys) (perm : entries.Perm others) (key : Value) :
    entryAt? entries key = entryAt? others key := by
  induction perm with
  | nil => rfl
  | cons entry _ ih =>
      rw [entryAt?_cons, entryAt?_cons, ih (distinct.sublist (List.sublist_cons_self ..))]
  | swap first second rest =>
      rw [Value.distinctKeys_mapping_iff] at distinct
      have differ : Value.same second.1 first.1 = false :=
        (List.pairwise_cons.mp distinct.1).1 first (List.mem_cons_self ..)
      have firstDistinct : first.1.DistinctKeys := (distinct.2 first (by simp)).1
      have one : ¬ (Value.same second.1 key = true ∧ Value.same first.1 key = true) := by
        rintro ⟨isSecond, isFirst⟩
        rw [Value.same_trans isSecond (firstDistinct.same_symm isFirst)] at differ
        cases differ
      rw [entryAt?_cons, entryAt?_cons, entryAt?_cons, entryAt?_cons]
      by_cases isSecond : Value.same second.1 key = true
      · rw [if_pos isSecond, if_neg fun isFirst => one ⟨isSecond, isFirst⟩, if_pos isSecond]
      · rw [if_neg isSecond, if_neg isSecond]
  | trans early _ ih ihLater => rw [ih distinct, ihLater (distinct.perm early)]

/-- Where keys are distinct, an entry is the one that is found under its key. -/
theorem entryAt?_of_mem {entries : Entries} (distinct : (Value.mapping entries).DistinctKeys)
    {entry : Value × Value} (member : entry ∈ entries) :
    entryAt? entries entry.1 = some entry := by
  rcases List.append_of_mem member with ⟨before, after, rfl⟩
  rw [entryAt?_perm distinct List.perm_middle, entryAt?_cons, if_pos (Value.same_refl entry.1)]

/-- Related lists of entries have related entries under a key that the relation
respects. -/
theorem entryAt?_rel {related : Value × Value → Value × Value → Prop} {key : Value}
    (sameKey : ∀ entry other, related entry other →
      Value.same entry.1 key = Value.same other.1 key)
    {entries others : Entries} (pairs : List.Forall₂ related entries others) :
    Option.Rel related (entryAt? entries key) (entryAt? others key) := by
  induction pairs with
  | nil => exact Option.Rel.none
  | cons head _ ih =>
      rw [entryAt?_cons, entryAt?_cons, sameKey _ _ head]
      split
      · exact Option.Rel.some head
      · exact ih

end Entries

namespace Value

open Entries (direct resolveMerge)

/-! ## Merging without a bound -/

theorem mergeItemsWith_congr {merge other : Value → Except MergeProblem Value}
    {items : List Value} (alike : ∀ item ∈ items, merge item = other item) :
    mergeItemsWith merge items = mergeItemsWith other items := by
  induction items with
  | nil => rfl
  | cons item rest ih =>
      rw [List.forall_mem_cons] at alike
      rw [mergeItemsWith, mergeItemsWith, ih alike.2, alike.1]

theorem mergeEntriesWith_congr {merge other : Value → Except MergeProblem Value}
    {entries : Entries} (alike : ∀ entry ∈ entries, merge entry.2 = other entry.2) :
    mergeEntriesWith merge entries = mergeEntriesWith other entries := by
  induction entries with
  | nil => rfl
  | cons entry rest ih =>
      rcases entry with ⟨key, content⟩
      rw [List.forall_mem_cons] at alike
      rw [mergeEntriesWith, mergeEntriesWith, ih alike.2, show merge content = other content
        from alike.1]

/-- Values of direct entries lie less deep than the mapping. -/
theorem depth_lt_of_mem_direct {entries : Entries} {entry : Value × Value}
    (member : entry ∈ direct entries) : entry.2.depth < (Value.mapping entries).depth := by
  have bound := Entries.depth_le_of_mem_direct member
  rw [depth]
  omega

theorem depth_lt_of_mem {items : List Value} {item : Value} (member : item ∈ items) :
    item.depth < (Value.sequence items).depth := by
  have bound := Entries.depth_le_of_mem_items member
  rw [depth]
  omega

/-- What holds of a value if it holds of its items, its content or the values of its
direct entries holds of all values. -/
theorem direct_induction {motive : Value → Prop} (null : motive .null)
    (bool : ∀ value, motive (.bool value)) (number : ∀ value, motive (.number value))
    (string : ∀ value, motive (.string value))
    (sequence : ∀ items : List Value, (∀ item ∈ items, motive item) → motive (.sequence items))
    (mapping : ∀ entries : Entries, (∀ entry ∈ direct entries, motive entry.2) →
      motive (.mapping entries))
    (tagged : ∀ tag content, motive content → motive (.tagged tag content)) (value : Value) :
    motive value := by
  induction bound : value.depth using Nat.strongRecOn generalizing value with
  | ind depth ih =>
      subst bound
      cases value with
      | null => exact null
      | bool value => exact bool value
      | number value => exact number value
      | string value => exact string value
      | sequence items =>
          exact sequence items fun item member => ih _ (depth_lt_of_mem member) item rfl
      | mapping entries =>
          exact mapping entries fun entry member =>
            ih _ (depth_lt_of_mem_direct member) entry.2 rfl
      | tagged tag content => exact tagged tag content (ih _ (Nat.lt_succ_self _) content rfl)

/-- A greater bound changes nothing once the value fits. -/
theorem mergeWithin_succ {value : Value} (distinct : value.DistinctKeys) {depth : Nat}
    (fits : value.depth ≤ depth) : mergeWithin (depth + 1) value = mergeWithin depth value := by
  induction depth generalizing value with
  | zero =>
      rw [(mergeWithin_of_depth_eq_zero (Nat.le_zero.mp fits) _).1,
        (mergeWithin_of_depth_eq_zero (Nat.le_zero.mp fits) _).1]
  | succ depth ih =>
      cases value with
      | null | bool _ | number _ | string _ => rfl
      | sequence items =>
          rw [distinctKeys_sequence_iff] at distinct
          have alike : ∀ item ∈ items, mergeWithin (depth + 1) item = mergeWithin depth item :=
            fun item member => ih (distinct item member)
              (Nat.le_of_lt_succ (Nat.lt_of_lt_of_le (depth_lt_of_mem member) fits))
          rw [mergeWithin, mergeWithin, mergeItemsWith_congr alike]
      | mapping entries =>
          rw [mergeWithin, mergeWithin]
          cases followed : resolveMerge entries with
          | error problem => rfl
          | ok resolved =>
              have inside := (distinctKeys_mapping_iff.mp
                (Entries.distinctKeys_resolved distinct followed)).2
              have alike : ∀ entry ∈ resolved,
                  mergeWithin (depth + 1) entry.2 = mergeWithin depth entry.2 := by
                intro entry member
                have taken := (Entries.perm_direct distinct followed).mem_iff.mp member
                exact ih (inside entry member).2
                  (Nat.le_of_lt_succ (Nat.lt_of_lt_of_le (depth_lt_of_mem_direct taken) fits))
              change (do return Value.mapping (← mergeEntriesWith _ resolved)) =
                (do return Value.mapping (← mergeEntriesWith _ resolved))
              rw [mergeEntriesWith_congr alike]
      | tagged tag content =>
          rw [distinctKeys_tagged_iff] at distinct
          rw [mergeWithin, mergeWithin, ih distinct (Nat.le_of_succ_le_succ fits)]

theorem mergeWithin_eq_merge {value : Value} (distinct : value.DistinctKeys) {depth : Nat}
    (fits : value.depth ≤ depth) : mergeWithin depth value = value.merge := by
  induction fits with
  | refl => rfl
  | step fits ih => rw [mergeWithin_succ distinct fits, ih]

theorem merge_sequence_eq_ok_iff {items : List Value} {merged : Value}
    (distinct : (Value.sequence items).DistinctKeys) :
    (Value.sequence items).merge = .ok merged ↔ ∃ results, merged = .sequence results ∧
      List.Forall₂ (fun item result => item.merge = .ok result) items results := by
  rw [distinctKeys_sequence_iff] at distinct
  have alike : ∀ item ∈ items, mergeWithin (depthOfItems items) item = item.merge :=
    fun item member =>
      mergeWithin_eq_merge (distinct item member) (Entries.depth_le_of_mem_items member)
  simp only [← mergeItemsWith_eq_ok_iff]
  rw [merge, depth, mergeWithin, mergeItemsWith_congr alike]
  cases mergeItemsWith merge items with
  | error problem => simp [bind, Except.bind]
  | ok results => simp [bind, Except.bind, pure, Except.pure, eq_comm]

theorem merge_mapping_eq_ok_iff {entries : Entries} {merged : Value}
    (distinct : (Value.mapping entries).DistinctKeys) :
    (Value.mapping entries).merge = .ok merged ↔ ∃ resolved results,
      resolveMerge entries = .ok resolved ∧ merged = .mapping results ∧
        List.Forall₂ (fun entry result => entry.1 = result.1 ∧ entry.2.merge = .ok result.2)
          resolved results := by
  simp only [← mergeEntriesWith_eq_ok_iff]
  rw [merge, depth, mergeWithin]
  cases followed : resolveMerge entries with
  | error problem => simp [bind, Except.bind]
  | ok resolved =>
      have inside := (distinctKeys_mapping_iff.mp
        (Entries.distinctKeys_resolved distinct followed)).2
      have alike : ∀ entry ∈ resolved,
          mergeWithin (depthOfEntries entries) entry.2 = entry.2.merge := by
        intro entry member
        have taken := (Entries.perm_direct distinct followed).mem_iff.mp member
        exact mergeWithin_eq_merge (inside entry member).2 (Entries.depth_le_of_mem_direct taken)
      change (do return Value.mapping (← mergeEntriesWith _ resolved)) = _ ↔ _
      rw [mergeEntriesWith_congr alike]
      cases outcome : mergeEntriesWith merge resolved with
      | error problem => simp [bind, Except.bind, outcome]
      | ok results => simp [bind, Except.bind, pure, Except.pure, outcome, eq_comm]

theorem merge_tagged_eq_ok_iff {tag : String} {content merged : Value} :
    (Value.tagged tag content).merge = .ok merged ↔
      ∃ result, merged = .tagged tag result ∧ content.merge = .ok result := by
  rw [merge, depth, mergeWithin, ← merge]
  cases content.merge with
  | error problem => simp [bind, Except.bind]
  | ok result => simp [bind, Except.bind, pure, Except.pure, eq_comm]

/-- Merging makes no key occur twice. -/
theorem DistinctKeys.merged {value result : Value} (distinct : value.DistinctKeys)
    (success : value.merge = .ok result) : result.DistinctKeys := by
  induction value using direct_induction generalizing result with
  | null | bool _ | number _ | string _ =>
      cases success
      exact distinct
  | sequence items ih =>
      rcases (merge_sequence_eq_ok_iff distinct).mp success with ⟨results, rfl, pairs⟩
      rw [distinctKeys_sequence_iff] at distinct ⊢
      have each : ∀ item ∈ items, ∀ result, item.merge = .ok result → result.DistinctKeys :=
        fun item member _ => ih item member (distinct item member)
      apply forall_mem_of_pairs
      refine List.Forall₂.imp ?_ ((List.forall₂_and_left items results).mpr ⟨each, pairs⟩)
      exact fun item result pair => pair.1 result pair.2
  | mapping entries ih =>
      rcases (merge_mapping_eq_ok_iff distinct).mp success with
        ⟨resolved, results, followed, rfl, pairs⟩
      have perm := Entries.perm_direct distinct followed
      have direct := distinctKeys_mapping_iff.mp (Entries.distinctKeys_resolved distinct followed)
      have each : ∀ entry ∈ resolved, entry.1.DistinctKeys ∧
          ∀ result, entry.2.merge = .ok result → result.DistinctKeys :=
        fun entry member => ⟨(direct.2 entry member).1, fun _ =>
          ih entry (perm.mem_iff.mp member) (direct.2 entry member).2⟩
      rw [distinctKeys_mapping_iff]
      constructor
      · have keys : (resolved.map Prod.fst).Pairwise fun key other => same key other = false :=
          List.pairwise_map.mpr direct.1
        rw [← Entries.keys_kept pairs] at keys
        exact List.pairwise_map.mp keys
      · apply forall_mem_of_pairs
        refine List.Forall₂.imp ?_ ((List.forall₂_and_left resolved results).mpr ⟨each, pairs⟩)
        rintro entry result ⟨⟨key, content⟩, sameKey, merged⟩
        exact ⟨sameKey ▸ key, content result.2 merged⟩
  | tagged tag content ih =>
      rcases merge_tagged_eq_ok_iff.mp success with ⟨inner, rfl, innerSuccess⟩
      rw [distinctKeys_tagged_iff] at distinct ⊢
      exact ih distinct innerSuccess

end Value

end ManifestLint.Yaml
