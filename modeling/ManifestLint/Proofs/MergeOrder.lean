import Mathlib.Data.List.Perm.Basic
import ManifestLint.Proofs.EffectiveDocuments
import ManifestLint.Proofs.LoadedDocuments
import ManifestLint.Proofs.MergedValues

/-!
# Documents whatever the order of their entries

Entries are compared by what stands under each key.  Entries that are alike so stay
alike when the merge key of their mapping is followed, wherever it stands, and alike
entries with distinct keys are rearrangements of each other.  Hence rearranged values
are merged into rearranged values, or neither can be merged, and rearranged documents
are read as the same resource, which is judged alike.
-/

namespace ManifestLint

open ManifestLint.Yaml (Value Entries)
open ManifestLint.Yaml.Value (Rearranged)

namespace Yaml.Value

open Entries (bases direct entryAt? names own resolveMerge)

/-! ## Entries that are alike -/

theorem Rearranged.same_left {value other : Value} (rearranged : Rearranged value other)
    (key : Value) : same value key = same other key := by
  induction rearranged with
  | refl => rfl
  | tail _ swap ih => rw [ih, swap.same_left]

/-- Under every key stand counterparts, or nothing on both sides. -/
def Alike (entries others : Entries) : Prop :=
  ∀ key, Option.Rel Counterpart (entryAt? entries key) (entryAt? others key)

theorem Alike.refl (entries : Entries) : Alike entries entries := by
  intro key
  cases entryAt? entries key with
  | none => exact Option.Rel.none
  | some entry => exact Option.Rel.some (Counterpart.refl entry)

theorem Alike.symm {entries others : Entries} (alike : Alike entries others) :
    Alike others entries :=
  fun key => rel_symm (fun _ _ pair => pair.symm) (alike key)

theorem Alike.trans {first second third : Entries} (early : Alike first second)
    (late : Alike second third) : Alike first third :=
  fun key => rel_trans (fun _ _ _ first second => first.trans second) (early key) (late key)

theorem Alike.of_pairs {entries others : Entries}
    (pairs : List.Forall₂ Counterpart entries others) : Alike entries others :=
  fun key => Entries.entryAt?_rel (fun _ _ pair => pair.1.same_left key) pairs

theorem Swap.alike {entries others : Entries} (swap : Swap (.mapping entries) (.mapping others))
    (distinct : (Value.mapping entries).DistinctKeys) : Alike entries others := by
  cases swap with
  | entries before after first second =>
      intro key
      have perm : (before ++ first :: second :: after).Perm (before ++ second :: first :: after) :=
        List.Perm.append_left before (List.Perm.swap second first after)
      rw [Entries.entryAt?_perm distinct perm]
      exact Alike.refl _ key
  | key before after content inside =>
      exact Alike.of_pairs (forall₂_replaced Counterpart.refl before after
        ⟨Relation.ReflTransGen.single inside, Rearranged.refl content⟩)
  | content before after key inside =>
      exact Alike.of_pairs (forall₂_replaced Counterpart.refl before after
        ⟨Rearranged.refl key, Relation.ReflTransGen.single inside⟩)

/-! ## Rearrangements, constructor by constructor -/

theorem Rearranged.eq_of_depth_eq_zero {value other : Value} (rearranged : Rearranged value other)
    (shallow : value.depth = 0) : other = value := by
  induction rearranged with
  | refl => rfl
  | tail _ swap ih =>
      subst ih
      cases swap <;> cases shallow

theorem Rearranged.sequence_cases {items : List Value} {other : Value}
    (rearranged : Rearranged (.sequence items) other) :
    ∃ others, other = .sequence others ∧ List.Forall₂ Rearranged items others := by
  induction rearranged with
  | refl => exact ⟨items, rfl, List.forall₂_same.mpr fun item _ => refl item⟩
  | tail _ swap ih =>
      rcases ih with ⟨others, rfl, pairs⟩
      cases swap with
      | item before after inside =>
          have moved := forall₂_replaced refl before after (Relation.ReflTransGen.single inside)
          exact ⟨_, rfl, forall₂_trans (fun _ _ _ first second => first.trans second) pairs moved⟩

theorem Rearranged.tagged_cases {tag : String} {content other : Value}
    (rearranged : Rearranged (.tagged tag content) other) :
    ∃ inner, other = .tagged tag inner ∧ Rearranged content inner := by
  induction rearranged with
  | refl => exact ⟨content, rfl, refl content⟩
  | tail _ swap ih =>
      rcases ih with ⟨inner, rfl, moved⟩
      cases swap with
      | tagged _ inside => exact ⟨_, rfl, moved.tail inside⟩

theorem Rearranged.mapping_cases {entries : Entries} {other : Value}
    (rearranged : Rearranged (.mapping entries) other)
    (distinct : (Value.mapping entries).DistinctKeys) :
    ∃ others, other = .mapping others ∧ Alike entries others := by
  induction rearranged with
  | refl => exact ⟨entries, rfl, Alike.refl entries⟩
  | @tail middle last early swap ih =>
      rcases ih with ⟨others, rfl, alike⟩
      have othersDistinct := Rearranged.distinctKeys early distinct
      have isMapping : ∃ results, last = .mapping results := by
        cases swap <;> exact ⟨_, rfl⟩
      rcases isMapping with ⟨results, rfl⟩
      exact ⟨results, rfl, alike.trans (swap.alike othersDistinct)⟩

/-- Where keys are distinct, no entry behind the first has its key. -/
theorem entryAt?_rest {entry : Value × Value} {rest : Entries}
    (distinct : (Value.mapping (entry :: rest)).DistinctKeys) {key : Value}
    (isFirst : same entry.1 key = true) : entryAt? rest key = none := by
  rw [entryAt?, List.find?_eq_none]
  intro other member isOther
  have apart := (List.pairwise_cons.mp distinct.pairwise_apart).1 other member
  have otherDistinct := ((distinctKeys_mapping_iff.mp distinct).2 other
    (List.mem_cons_of_mem _ member)).1
  rw [Apart, same_trans isFirst (otherDistinct.same_symm isOther)] at apart
  cases apart.1

/-- Alike entries with distinct keys are each other's counterparts in some order. -/
theorem Alike.exists_pairs {entries others : Entries} (alike : Alike entries others)
    (distinct : (Value.mapping entries).DistinctKeys)
    (othersDistinct : (Value.mapping others).DistinctKeys) :
    ∃ middle, entries.Perm middle ∧ List.Forall₂ Counterpart middle others := by
  induction others generalizing entries with
  | nil =>
      cases entries with
      | nil => exact ⟨[], List.Perm.nil, List.Forall₂.nil⟩
      | cons entry rest =>
          have nowhere := alike entry.1
          rw [Entries.entryAt?_cons, if_pos (same_refl entry.1)] at nowhere
          rcases rel_some_iff.mp nowhere with ⟨_, _, missing⟩
          cases missing
  | cons other others ih =>
      have here := alike.symm other.1
      rw [Entries.entryAt?_cons other, if_pos (same_refl other.1)] at here
      rcases rel_some_iff.mp here with ⟨entry, back, found⟩
      have pair := back.symm
      rcases List.append_of_mem (List.mem_of_find?_eq_some found) with ⟨before, after, rfl⟩
      have perm : (before ++ entry :: after).Perm (entry :: (before ++ after)) :=
        List.perm_middle
      have frontDistinct := distinct.perm perm
      have restAlike : Alike (before ++ after) others := by
        intro key
        have relation := alike key
        rw [Entries.entryAt?_perm distinct perm, Entries.entryAt?_cons,
          Entries.entryAt?_cons, pair.1.same_left key] at relation
        split at relation
        · rename_i isFirst
          rw [entryAt?_rest othersDistinct isFirst,
            entryAt?_rest frontDistinct (pair.1.same_left key ▸ isFirst)]
          exact Option.Rel.none
        · exact relation
      rcases ih restAlike (frontDistinct.sublist (List.sublist_cons_self ..))
        (othersDistinct.sublist (List.sublist_cons_self ..)) with ⟨middle, moved, pairs⟩
      exact ⟨entry :: middle, perm.trans (moved.cons entry), List.Forall₂.cons pair pairs⟩

/-! ## Following one merge key -/

theorem Alike.own {entries others : Entries} (alike : Alike entries others) :
    Alike (own entries) (own others) := by
  have nowhere : ∀ list : Entries, entryAt? (Entries.own list) (.string "<<") = none := by
    intro list
    rw [entryAt?, List.find?_eq_none]
    intro entry member isMerge
    have kept := List.of_mem_filter member
    rw [Entries.isMergeKey, isMerge] at kept
    cases kept
  intro key
  by_cases isMerge : key = .string "<<"
  · rw [isMerge, nowhere, nowhere]
    exact Option.Rel.none
  · rw [Entries.entryAt?_own _ isMerge, Entries.entryAt?_own _ isMerge]
    exact alike key

/-- The mappings to take from are those that the entry with the merge key names. -/
theorem bases_eq_named {entries : Entries} (distinct : (Value.mapping entries).DistinctKeys) :
    bases entries = (entryAt? entries (.string "<<")).elim [] fun entry => entry.2.named := by
  cases found : entryAt? entries (.string "<<") with
  | none =>
      apply Entries.bases_eq_nil
      rw [← Entries.hasKey_string_iff, ← Entries.isSome_entryAt?, found]
      exact Bool.false_ne_true
  | some entry =>
      rcases entry with ⟨key, content⟩
      have isMerge := List.find?_some found
      cases same_string_iff.mp isMerge
      rcases Entries.takeMerge_of_mergeKey (Entries.nodup_names distinct)
        (List.mem_of_find?_eq_some found) with ⟨_, _, _, named⟩
      exact named

theorem Rearranged.named {content other : Value} (rearranged : Rearranged content other)
    (distinct : content.DistinctKeys) : List.Forall₂ Alike content.named other.named := by
  cases content with
  | mapping entries =>
      rcases rearranged.mapping_cases distinct with ⟨others, rfl, alike⟩
      exact List.Forall₂.cons alike List.Forall₂.nil
  | sequence items =>
      rcases rearranged.sequence_cases with ⟨others, rfl, pairs⟩
      rw [distinctKeys_sequence_iff] at distinct
      rw [Value.named, Value.named]
      clear rearranged
      induction pairs with
      | nil => exact List.Forall₂.nil
      | @cons item counterpart rest others head _ ih =>
          rw [List.forall_mem_cons] at distinct
          cases item with
          | mapping entries =>
              rcases head.mapping_cases distinct.1 with ⟨otherEntries, rfl, alike⟩
              exact List.Forall₂.cons alike (ih distinct.2)
          | sequence inner =>
              rcases head.sequence_cases with ⟨_, rfl, _⟩
              exact ih distinct.2
          | tagged tag inner =>
              rcases head.tagged_cases with ⟨_, rfl, _⟩
              exact ih distinct.2
          | null | bool _ | number _ | string _ =>
              rw [head.eq_of_depth_eq_zero rfl]
              exact ih distinct.2
  | tagged tag inner =>
      rcases rearranged.tagged_cases with ⟨_, rfl, _⟩
      exact List.Forall₂.nil
  | null | bool _ | number _ | string _ =>
      rw [rearranged.eq_of_depth_eq_zero rfl]
      exact List.Forall₂.nil

theorem Alike.bases {entries others : Entries} (alike : Alike entries others)
    (distinct : (Value.mapping entries).DistinctKeys)
    (othersDistinct : (Value.mapping others).DistinctKeys) :
    List.Forall₂ Alike (bases entries) (bases others) := by
  rw [bases_eq_named distinct, bases_eq_named othersDistinct]
  have here := alike (.string "<<")
  cases found : entryAt? entries (.string "<<") with
  | none =>
      rw [found] at here
      rw [rel_none_iff.mp here]
      exact List.Forall₂.nil
  | some entry =>
      rw [found] at here
      rcases rel_some_iff.mp here with ⟨other, pair, otherFound⟩
      rw [otherFound]
      have inside := (distinctKeys_mapping_iff.mp distinct).2 entry
        (List.mem_of_find?_eq_some found)
      exact pair.2.named inside.2

theorem findSome?_rel {lists others : List Entries} (pairs : List.Forall₂ Alike lists others)
    (key : Value) : Option.Rel Counterpart (lists.findSome? fun base => entryAt? base key)
      (others.findSome? fun base => entryAt? base key) := by
  induction pairs with
  | nil => exact Option.Rel.none
  | @cons base other _ _ head _ ih =>
      have here := head key
      rw [List.findSome?_cons, List.findSome?_cons]
      cases found : entryAt? base key with
      | none =>
          rw [found] at here
          rw [rel_none_iff.mp here]
          exact ih
      | some entry =>
          rw [found] at here
          rcases rel_some_iff.mp here with ⟨counterpart, pair, otherFound⟩
          rw [otherFound]
          exact Option.Rel.some pair

/-- Alike entries stay alike when the merge key is followed. -/
theorem Alike.direct {entries others : Entries} (alike : Alike entries others)
    (distinct : (Value.mapping entries).DistinctKeys)
    (othersDistinct : (Value.mapping others).DistinctKeys) :
    Alike (direct entries) (direct others) := by
  intro key
  rw [Entries.direct, Entries.direct, Entries.entryAt?_foldl_takeOver,
    Entries.entryAt?_foldl_takeOver]
  exact rel_or (alike.own key) (findSome?_rel (alike.bases distinct othersDistinct) key)

theorem NamesMappings.rearranged {content other : Value} (mappings : content.NamesMappings)
    (rearranged : Rearranged content other) (distinct : content.DistinctKeys) :
    other.NamesMappings := by
  cases mappings with
  | mapping entries =>
      rcases rearranged.mapping_cases distinct with ⟨others, rfl, _⟩
      exact NamesMappings.mapping others
  | @sequence items mappings =>
      rcases rearranged.sequence_cases with ⟨others, rfl, pairs⟩
      rw [distinctKeys_sequence_iff] at distinct
      have each : ∀ item ∈ items, item.DistinctKeys ∧ ∃ entries, item = .mapping entries :=
        fun item member => ⟨distinct item member, mappings item member⟩
      apply NamesMappings.sequence
      apply forall_mem_of_pairs
      refine List.Forall₂.imp ?_ ((List.forall₂_and_left items others).mpr ⟨each, pairs⟩)
      rintro item counterpart ⟨⟨itemDistinct, entries, rfl⟩, moved⟩
      rcases moved.mapping_cases itemDistinct with ⟨otherEntries, rfl, _⟩
      exact ⟨otherEntries, rfl⟩

/-- If the merge key of a mapping can be followed, then so can that of alike entries,
and what is found are counterparts in some order. -/
theorem Alike.resolved {entries others resolved : Entries} (alike : Alike entries others)
    (distinct : (Value.mapping entries).DistinctKeys)
    (othersDistinct : (Value.mapping others).DistinctKeys)
    (success : resolveMerge entries = .ok resolved) :
    ∃ found middle, resolveMerge others = .ok found ∧ resolved.Perm middle ∧
      List.Forall₂ Counterpart middle found := by
  have mergeable : ∀ content, (.string "<<", content) ∈ others → content.NamesMappings := by
    intro content member
    have here := alike.symm (.string "<<")
    rw [Entries.entryAt?_of_mem othersDistinct member] at here
    rcases rel_some_iff.mp here with ⟨⟨key, own⟩, pair, found⟩
    have isMerge := List.find?_some found
    cases same_string_iff.mp isMerge
    have present := List.mem_of_find?_eq_some found
    have named := Entries.namesMappings_of_resolveMerge (Entries.nodup_names distinct) success
      present
    exact named.rearranged pair.2.symm ((distinctKeys_mapping_iff.mp distinct).2 _ present).2
  rcases Entries.resolveMerge_perm_direct (Entries.nodup_names othersDistinct) mergeable with
    ⟨found, followed, perm⟩
  have resolvedAlike : Alike resolved found := by
    intro key
    rw [Entries.entryAt?_perm (Entries.distinctKeys_resolved distinct success)
        (Entries.perm_direct distinct success),
      Entries.entryAt?_perm (Entries.distinctKeys_resolved othersDistinct followed) perm]
    exact alike.direct distinct othersDistinct key
  rcases resolvedAlike.exists_pairs (Entries.distinctKeys_resolved distinct success)
    (Entries.distinctKeys_resolved othersDistinct followed) with ⟨middle, moved, pairs⟩
  exact ⟨found, middle, followed, moved, pairs⟩

/-! ## Following all merge keys -/

/-- Where each of two related members is followed, so are the lists. -/
theorem forall₂_followed {α β γ δ : Type} {related : α → β → Prop} {becomes : α → γ → Prop}
    {otherBecomes : β → δ → Prop} {relatedResult : γ → δ → Prop} {list : List α}
    (followed : ∀ member ∈ list, ∀ other result, related member other → becomes member result →
      ∃ otherResult, otherBecomes other otherResult ∧ relatedResult result otherResult)
    {others : List β} {results : List γ} (pairs : List.Forall₂ related list others)
    (outcome : List.Forall₂ becomes list results) :
    ∃ otherResults, List.Forall₂ otherBecomes others otherResults ∧
      List.Forall₂ relatedResult results otherResults := by
  induction pairs generalizing results with
  | nil =>
      cases outcome
      exact ⟨[], List.Forall₂.nil, List.Forall₂.nil⟩
  | cons head _ ih =>
      cases outcome with
      | cons first rest =>
          rw [List.forall_mem_cons] at followed
          rcases followed.1 _ _ head first with ⟨otherFirst, here, relation⟩
          rcases ih followed.2 rest with ⟨otherRest, behind, relations⟩
          exact ⟨otherFirst :: otherRest, List.Forall₂.cons here behind,
            List.Forall₂.cons relation relations⟩

/-- Rearranged values are merged into rearranged values. -/
theorem follows_merge {value other : Value} (rearranged : Rearranged value other)
    (distinct : value.DistinctKeys) : Shape.Follows Rearranged value.merge other.merge := by
  induction value using direct_induction generalizing other with
  | null | bool _ | number _ | string _ =>
      rw [rearranged.eq_of_depth_eq_zero rfl]
      exact Shape.Follows.refl Rearranged.refl _
  | sequence items ih =>
      intro merged success
      have otherDistinct := rearranged.distinctKeys distinct
      rcases rearranged.sequence_cases with ⟨others, rfl, pairs⟩
      rcases (merge_sequence_eq_ok_iff distinct).mp success with ⟨results, rfl, outcome⟩
      rw [distinctKeys_sequence_iff] at distinct
      have followed : ∀ item ∈ items, ∀ other result, Rearranged item other →
          item.merge = .ok result →
          ∃ otherResult, other.merge = .ok otherResult ∧ Rearranged result otherResult :=
        fun item member other result moved => ih item member moved (distinct item member) result
      rcases forall₂_followed followed pairs outcome with
        ⟨otherResults, otherOutcome, relations⟩
      exact ⟨.sequence otherResults,
        (merge_sequence_eq_ok_iff otherDistinct).mpr ⟨otherResults, rfl, otherOutcome⟩,
        Rearranged.sequence relations⟩
  | mapping entries ih =>
      intro merged success
      have otherDistinct := rearranged.distinctKeys distinct
      rcases rearranged.mapping_cases distinct with ⟨others, rfl, alike⟩
      rcases (merge_mapping_eq_ok_iff distinct).mp success with
        ⟨resolved, results, resolves, rfl, outcome⟩
      rcases alike.resolved distinct otherDistinct resolves with
        ⟨found, middle, finds, perm, pairs⟩
      have inside := (distinctKeys_mapping_iff.mp (Entries.distinctKeys_resolved distinct
        resolves)).2
      have followed : ∀ entry ∈ middle, ∀ other result : Value × Value, Counterpart entry other →
          entry.1 = result.1 ∧ entry.2.merge = .ok result.2 →
          ∃ otherResult : Value × Value, (other.1 = otherResult.1 ∧
            other.2.merge = .ok otherResult.2) ∧ Counterpart result otherResult := by
        rintro entry member other result moved ⟨sameKey, merged⟩
        have present := perm.mem_iff.mpr member
        have taken := (Entries.perm_direct distinct resolves).mem_iff.mp present
        rcases ih entry taken moved.2 (inside entry present).2 result.2 merged with
          ⟨otherContent, otherMerged, relation⟩
        exact ⟨(other.1, otherContent), ⟨rfl, otherMerged⟩, sameKey ▸ moved.1, relation⟩
      rcases List.perm_comp_forall₂ perm.symm outcome with ⟨reordered, reorderedOutcome, back⟩
      rcases forall₂_followed followed pairs reorderedOutcome with
        ⟨otherResults, otherOutcome, relations⟩
      exact ⟨.mapping otherResults,
        (merge_mapping_eq_ok_iff otherDistinct).mpr ⟨found, otherResults, finds, rfl,
          otherOutcome⟩,
        (Rearranged.mapping_of_perm back.symm).trans
          (Rearranged.mapping_of_counterparts relations)⟩
  | tagged tag content ih =>
      intro merged success
      rcases rearranged.tagged_cases with ⟨inner, rfl, moved⟩
      rcases merge_tagged_eq_ok_iff.mp success with ⟨result, rfl, contentMerged⟩
      rcases ih moved (distinctKeys_tagged_iff.mp distinct) result contentMerged with
        ⟨otherResult, innerMerged, relation⟩
      exact ⟨.tagged tag otherResult, merge_tagged_eq_ok_iff.mpr ⟨otherResult, rfl, innerMerged⟩,
        Rearranged.tagged tag relation⟩

theorem hasKind_mapping_iff {entries : Entries} :
    (Value.mapping entries).HasKind ↔ (entryAt? entries (.string "kind")).isSome = true := by
  change ((entryAt? entries (.string "kind")).map (·.2)).isSome = true ↔ _
  rw [Option.isSome_map]

/-- A kind of its own stays with a document. -/
theorem HasKind.rearranged {value other : Value} (hasKind : value.HasKind)
    (moved : Rearranged value other) (distinct : value.DistinctKeys) : other.HasKind := by
  induction value using inside_induction generalizing other with
  | null | bool _ | number _ | string _ | sequence _ _ => cases hasKind
  | mapping entries _ =>
      rcases moved.mapping_cases distinct with ⟨others, rfl, alike⟩
      have here := alike (.string "kind")
      rw [hasKind_mapping_iff] at hasKind ⊢
      rcases Option.isSome_iff_exists.mp hasKind with ⟨entry, found⟩
      rw [found] at here
      rcases rel_some_iff.mp here with ⟨counterpart, _, otherFound⟩
      rw [otherFound]
      rfl
  | tagged tag content ih =>
      rcases moved.tagged_cases with ⟨inner, rfl, inside⟩
      have innerKind := ih hasKind inside (distinctKeys_tagged_iff.mp distinct)
      exact innerKind

end Yaml.Value

/-! ## Checks -/

theorem Container.Same.check_eq {container other : Container} (same : container.Same other)
    (trusted : Bool) : container.check trusted = other.check trusted := by
  rw [← same.rest]
  rfl

theorem Container.Same.name_eq {container other : Container} (same : container.Same other) :
    container.name = other.name := by
  rw [← same.rest]

theorem Container.checkEach_same {trusted : Bool} {containers others : List Container}
    (pairs : List.Forall₂ Container.Same containers others) :
    checkEach (Container.check trusted) containers =
      checkEach (Container.check trusted) others := by
  induction pairs with
  | nil => rfl
  | cons head _ ih => rw [checkEach, checkEach, head.check_eq, ih]

theorem Container.names_same {containers others : List Container}
    (pairs : List.Forall₂ Container.Same containers others) :
    containers.map (·.name) = others.map (·.name) := by
  induction pairs with
  | nil => rfl
  | cons head _ ih => rw [List.map_cons, List.map_cons, head.name_eq, ih]

theorem Pipeline.Same.check_eq {pipeline other : Pipeline} (same : pipeline.Same other)
    (trusted : Bool) : pipeline.check trusted = other.check trusted := by
  have containers : List.Forall₂ Container.Same pipeline.containers other.containers :=
    List.rel_append same.services same.steps
  have names : pipeline.checkUniqueNames = other.checkUniqueNames := by
    rw [checkUniqueNames, checkUniqueNames, List.map_append, List.map_append,
      Container.names_same same.steps, Container.names_same same.services]
  have platform : pipeline.platform = other.platform := by rw [← same.rest]
  have build : pipeline.build = other.build := by rw [← same.rest]
  have volumes : pipeline.volumes = other.volumes := by rw [← same.rest]
  rw [check, check, checkPlatform, checkPlatform, checkParts, checkParts, names, platform, build,
    volumes, Container.checkEach_same containers]

/-- The order of entries inside environment values does not show in a check. -/
theorem Resource.Same.check_eq {resource other : Resource} (same : resource.Same other)
    (trusted : Bool) : resource.check trusted = other.check trusted := by
  cases same with
  | pipeline same => exact same.check_eq trusted
  | secret declared => rfl
  | signature declared => rfl

namespace Manifest

/-! ## Documents -/

theorem SameOutcome.imp {α : Type} {same other : α → α → Prop}
    (weaker : ∀ result counterpart, same result counterpart → other result counterpart)
    {first second : Except ManifestError α} (outcome : SameOutcome same first second) :
    SameOutcome other first second := by
  cases outcome with
  | ok relation => exact SameOutcome.ok (weaker _ _ relation)
  | malformed fault => exact SameOutcome.malformed fault
  | document index problem other => exact SameOutcome.document index problem other
  | missingKind index => exact SameOutcome.missingKind index

/-- With a kind, a document whose merge keys cannot be followed is at fault. -/
theorem resourceOf_of_merge_error (index : Nat) {value : Value} {problem : Yaml.MergeProblem}
    (hasKind : value.HasKind) (failure : value.merge = .error problem) :
    resourceOf index value = .error (.document index (.merge problem)) := by
  have found : ¬ (value.untagged.lookup? "kind").isNone = true := by
    simpa [Value.HasKind, Option.isSome_iff_ne_none] using hasKind
  rw [resourceOf, if_neg found, failure]
  · rfl
  · rintro rfl
    cases hasKind

theorem sameOutcome_resourceOf (index : Nat) {value other : Value}
    (rearranged : Rearranged value other) (distinct : value.DistinctKeys) :
    SameOutcome (Option.Rel Resource.Same) (resourceOf index value) (resourceOf index other) := by
  have otherDistinct := rearranged.distinctKeys distinct
  by_cases hasKind : value.HasKind
  · have otherKind := hasKind.rearranged rearranged distinct
    cases success : value.merge with
    | ok merged =>
        rcases Value.follows_merge rearranged distinct merged success with
          ⟨otherMerged, otherSuccess, moved⟩
        rw [resourceOf_of_hasKind index hasKind success,
          resourceOf_of_hasKind index otherKind otherSuccess]
        exact sameOutcome_of_rearranged index moved (distinct.merged success).distinctNames
    | error problem =>
        cases otherSuccess : other.merge with
        | ok otherMerged =>
            rcases Value.follows_merge rearranged.symm otherDistinct otherMerged otherSuccess with
              ⟨merged, mergedOk, _⟩
            rw [success] at mergedOk
            cases mergedOk
        | error otherProblem =>
            rw [resourceOf_of_merge_error index hasKind success,
              resourceOf_of_merge_error index otherKind otherSuccess]
            exact SameOutcome.document index _ _
  · have noKind : ¬ other.HasKind :=
      fun otherKind => hasKind (otherKind.rearranged rearranged.symm otherDistinct)
    by_cases isNull : value = .null
    · subst isNull
      rw [rearranged.eq_of_depth_eq_zero rfl]
      exact SameOutcome.ok Option.Rel.none
    · have notNull : other ≠ .null := by
        rintro rfl
        exact isNull (rearranged.symm.eq_of_depth_eq_zero rfl)
      rw [resourceOf_of_not_hasKind index isNull hasKind,
        resourceOf_of_not_hasKind index notNull noKind]
      exact SameOutcome.missingKind index

/-- The order of entries, anywhere in a document, does not show in its outcome.  What is
loaded from a text has distinct keys, and a rearranged value with distinct keys is at
fault in the same way, or it is read as the same resource up to the order of entries
inside environment values, and that resource is judged alike for trusted and for untrusted
repositories. -/
theorem resourceOf_rearranged :
    (∀ text value, .ok value ∈ Yaml.documents text → value.DistinctKeys) ∧
      ∀ (index : Nat) (value other : Value), Rearranged value other → value.DistinctKeys →
        SameOutcome (Option.Rel fun resource counterpart => Resource.Same resource counterpart ∧
            ∀ trusted, resource.check trusted = counterpart.check trusted)
          (resourceOf index value) (resourceOf index other) := by
  constructor
  · intro text value member
    exact Yaml.distinctKeys_of_mem_documents member
  · intro index value other rearranged distinct
    refine SameOutcome.imp ?_ (sameOutcome_resourceOf index rearranged distinct)
    intro resource counterpart relation
    cases relation with
    | none => exact Option.Rel.none
    | some same => exact Option.Rel.some ⟨same, same.check_eq⟩

/-- A pipeline whose step has a merge key between its own entries. -/
def tidy : Value :=
  .mapping [(.string "kind", .string "pipeline"),
    (.string "steps", .sequence [.mapping
      [(.string "name", .string "test"),
        (.string "<<", .mapping [(.string "image", .string "golang"),
          (.string "privileged", .bool true)]),
        (.string "privileged", .bool false)]])]

/-- The same pipeline with its kind behind its steps, the merge key of the step in front
and the entries that it names exchanged. -/
def untidy : Value :=
  .mapping [(.string "steps", .sequence [.mapping
      [(.string "<<", .mapping [(.string "privileged", .bool true),
          (.string "image", .string "golang")]),
        (.string "name", .string "test"), (.string "privileged", .bool false)]]),
    (.string "kind", .string "pipeline")]

theorem resourceOf_rearranged_tidy :
    (∃ value, .ok value ∈ Yaml.documents "kind: pipeline\n" ∧ value.DistinctKeys) ∧
      Rearranged tidy untidy ∧ tidy.DistinctKeys ∧
      SameOutcome (Option.Rel fun resource counterpart => Resource.Same resource counterpart ∧
          ∀ trusted, resource.check trusted = counterpart.check trusted)
        (resourceOf 0 tidy) (resourceOf 0 untidy) := by
  have distinct : tidy.DistinctKeys := by
    simp [tidy, Value.distinctKeys_mapping_iff, Value.same, Value.DistinctKeys.string,
      Value.DistinctKeys.bool]
  have named : Rearranged
      (.mapping [(.string "image", .string "golang"), (.string "privileged", .bool true)])
      (.mapping [(.string "privileged", .bool true), (.string "image", .string "golang")]) :=
    Rearranged.mapping_of_perm (List.Perm.swap _ _ _)
  have kept : ∀ entry : Value × Value, entry.1 = entry.1 ∧ Rearranged entry.2 entry.2 :=
    fun entry => ⟨rfl, Rearranged.refl entry.2⟩
  have step : Rearranged
      (.mapping [(.string "name", .string "test"),
        (.string "<<", .mapping [(.string "image", .string "golang"),
          (.string "privileged", .bool true)]),
        (.string "privileged", .bool false)])
      (.mapping [(.string "<<", .mapping [(.string "privileged", .bool true),
          (.string "image", .string "golang")]),
        (.string "name", .string "test"), (.string "privileged", .bool false)]) :=
    (Rearranged.mapping_of_perm (List.Perm.swap _ _ _)).trans (Rearranged.mapping
      (.cons ⟨rfl, named⟩ (.cons (kept _) (.cons (kept _) .nil))))
  have rearranged : Rearranged tidy untidy :=
    (Rearranged.mapping_of_perm (List.Perm.swap _ _ _)).trans (Rearranged.mapping
      (.cons ⟨rfl, Rearranged.sequence (.cons step .nil)⟩ (.cons (kept _) .nil)))
  have loads : ((Yaml.documents "kind: pipeline\n").map (·.isOk)) = [true] := by decide +kernel
  obtain ⟨document, documents, isOk⟩ := List.map_eq_singleton_iff.mp loads
  have loaded : ∃ value, .ok value ∈ Yaml.documents "kind: pipeline\n" := by
    rw [documents]
    cases document with
    | error fault => cases isOk
    | ok value => exact ⟨value, List.mem_singleton_self _⟩
  obtain ⟨value, member⟩ := loaded
  exact ⟨⟨value, member, resourceOf_rearranged.1 _ value member⟩, rearranged, distinct,
    resourceOf_rearranged.2 0 tidy untidy rearranged distinct⟩

end Manifest

end ManifestLint
