import ManifestLint.Proofs.Rearrangement

/-!
# Mappings without a key twice

Whether two values count as one key does not depend on the order of the entries inside
them.  Counting as one key is reflexive and transitive, and it is symmetric where no
mapping has a key twice: then mappings of one length that cover each other one way do so
the other way, too.
-/

namespace ManifestLint

/-! ## Numbers -/

namespace Number

/-- Numbers count as one if they are equal, if neither of them is a number at all, or if
both are zeros. -/
theorem Binary64.sameNumber_iff {x y : Binary64} :
    x.sameNumber y = true ↔
      (x.isNaN = true ∧ y.isNaN = true) ∨ x = y ∨ (x.magnitude = 0 ∧ y.magnitude = 0) := by
  rcases x with ⟨bits⟩
  rcases y with ⟨otherBits⟩
  simp [sameNumber, or_assoc]

/-- A zero is a number. -/
theorem Binary64.isNaN_of_magnitude {x : Binary64} (zero : x.magnitude = 0) : x.isNaN = false := by
  simp [isNaN, zero]

theorem same_refl (x : Number) : x.same x = true := by
  cases x with
  | integer value => simp [same]
  | float value => exact Binary64.sameNumber_iff.mpr (Or.inr (Or.inl rfl))

theorem same_symm {x y : Number} (equal : x.same y = true) : y.same x = true := by
  cases x with
  | integer value =>
      cases y with
      | integer other => simpa [same, eq_comm] using equal
      | float other => cases equal
  | float value =>
      cases y with
      | integer other => cases equal
      | float other =>
          rw [same, Binary64.sameNumber_iff] at equal ⊢
          exact equal.imp And.symm (Or.imp Eq.symm And.symm)

theorem same_trans {x y z : Number} (first : x.same y = true) (second : y.same z = true) :
    x.same z = true := by
  cases x with
  | integer value =>
      cases y with
      | integer other =>
          have equal : value = other := by simpa [same] using first
          rwa [equal]
      | float other => cases first
  | float value =>
      cases y with
      | integer other => cases first
      | float other =>
          cases z with
          | integer last => cases second
          | float last =>
              rw [same, Binary64.sameNumber_iff] at first second ⊢
              rcases first with ⟨noNumber, otherNoNumber⟩ | rfl | ⟨zero, otherZero⟩
              · rcases second with ⟨_, lastNoNumber⟩ | rfl | ⟨otherZero, _⟩
                · exact Or.inl ⟨noNumber, lastNoNumber⟩
                · exact Or.inl ⟨noNumber, otherNoNumber⟩
                · rw [Binary64.isNaN_of_magnitude otherZero] at otherNoNumber
                  cases otherNoNumber
              · exact second
              · rcases second with ⟨otherNoNumber, _⟩ | rfl | ⟨_, lastZero⟩
                · rw [Binary64.isNaN_of_magnitude otherZero] at otherNoNumber
                  cases otherNoNumber
                · exact Or.inr (Or.inr ⟨zero, otherZero⟩)
                · exact Or.inr (Or.inr ⟨zero, lastZero⟩)

end Number

/-- If every item of a list has a partner in a list of the same length, and no two items
share one, then everything in the other list is a partner. -/
theorem exists_of_matched {α β : Type} {partner : α → β → Prop} {items : List α} {others : List β}
    (length : items.length = others.length)
    (matched : ∀ item ∈ items, ∃ other ∈ others, partner item other)
    (apart : items.Pairwise fun first second => ∀ other, partner first other →
      ¬ partner second other) :
    ∀ other ∈ others, ∃ item ∈ items, partner item other := by
  induction items generalizing others with
  | nil =>
      rw [List.length_eq_zero_iff.mp length.symm]
      exact List.forall_mem_nil _
  | cons first rest ih =>
      rw [List.forall_mem_cons] at matched
      rw [List.pairwise_cons] at apart
      rcases matched.1 with ⟨own, member, isPartner⟩
      rcases List.append_of_mem member with ⟨before, after, rfl⟩
      have restLength : rest.length = (before ++ after).length := by
        simp only [List.length_cons, List.length_append] at length ⊢
        omega
      have restMatched : ∀ item ∈ rest, ∃ other ∈ before ++ after, partner item other := by
        intro item inRest
        rcases matched.2 item inRest with ⟨other, present, itsPartner⟩
        have differ : other ≠ own := by
          rintro rfl
          exact apart.1 item inRest other isPartner itsPartner
        have remains : other ∈ before ++ after := by simpa [differ] using present
        exact ⟨other, remains, itsPartner⟩
      intro other present
      by_cases isOwn : other = own
      · exact ⟨first, List.mem_cons_self .., isOwn ▸ isPartner⟩
      · have remains : other ∈ before ++ after := by simpa [isOwn] using present
        rcases ih restLength restMatched apart.2 other remains with ⟨item, inRest, itsPartner⟩
        exact ⟨item, List.mem_cons_of_mem first inRest, itsPartner⟩

namespace Yaml.Value

/-! ## Values that count as one key -/

/-- What holds of a value if it holds of all values inside it, keys included, holds of all
values. -/
theorem nested_induction {motive : Value → Prop} (null : motive .null)
    (bool : ∀ value, motive (.bool value)) (number : ∀ value, motive (.number value))
    (string : ∀ value, motive (.string value))
    (sequence : ∀ items : List Value, (∀ item ∈ items, motive item) → motive (.sequence items))
    (mapping : ∀ entries : Entries, (∀ entry ∈ entries, motive entry.1 ∧ motive entry.2) →
      motive (.mapping entries))
    (tagged : ∀ tag content, motive content → motive (.tagged tag content)) (value : Value) :
    motive value :=
  @Value.rec motive (fun items => ∀ item ∈ items, motive item)
    (fun entries => ∀ entry ∈ entries, motive entry.1 ∧ motive entry.2)
    (fun entry => motive entry.1 ∧ motive entry.2) null bool number string sequence mapping tagged
    (List.forall_mem_nil _) (fun _ _ first rest => List.forall_mem_cons.mpr ⟨first, rest⟩)
    (List.forall_mem_nil _) (fun _ _ first rest => List.forall_mem_cons.mpr ⟨first, rest⟩)
    (fun _ _ key content => ⟨key, content⟩) value

theorem sameItems_iff {items others : List Value} :
    sameItems items others = true ↔ List.Forall₂ (fun item other => same item other = true)
      items others := by
  induction items generalizing others with
  | nil => cases others <;> simp [sameItems]
  | cons item rest ih => cases others <;> simp [sameItems, ih]

theorem sameEntries_iff {entries others : Entries} :
    sameEntries entries others = true ↔ ∀ entry ∈ entries, ∃ other ∈ others,
      same entry.1 other.1 = true ∧ same entry.2 other.2 = true := by
  induction entries with
  | nil => simp [sameEntries]
  | cons entry rest ih => simp [sameEntries, ih]

/-! What counts as one key with a value, constructor by constructor. -/

theorem same_null_iff {other : Value} : same .null other = true ↔ other = .null := by
  cases other <;> simp [same]

theorem same_bool_iff {value : Bool} {other : Value} :
    same (.bool value) other = true ↔ other = .bool value := by
  cases other <;> simp [same, @eq_comm Bool value]

theorem same_number_iff {value : Number} {other : Value} :
    same (.number value) other = true ↔
      ∃ number, other = .number number ∧ value.same number = true := by
  cases other <;> simp [same]

theorem string_same_iff {value : String} {other : Value} :
    same (.string value) other = true ↔ other = .string value := by
  cases other <;> simp [same, @eq_comm String value]

theorem same_sequence_iff {items : List Value} {other : Value} :
    same (.sequence items) other = true ↔ ∃ others, other = .sequence others ∧
      List.Forall₂ (fun item other => same item other = true) items others := by
  cases other <;> simp [same, sameItems_iff]

theorem same_mapping_iff {entries : Entries} {other : Value} :
    same (.mapping entries) other = true ↔ ∃ others, other = .mapping others ∧
      entries.length = others.length ∧ ∀ entry ∈ entries, ∃ other ∈ others,
        same entry.1 other.1 = true ∧ same entry.2 other.2 = true := by
  cases other with
  | mapping others => simp [same, sameEntries_iff]
  | null | bool _ | number _ | string _ | sequence _ | tagged _ _ => simp [same]

theorem same_tagged_iff {tag : String} {content other : Value} :
    same (.tagged tag content) other = true ↔
      ∃ value, other = .tagged tag value ∧ same content value = true := by
  cases other with
  | tagged other _ => simp [same, @eq_comm String tag]
  | null | bool _ | number _ | string _ | sequence _ | mapping _ => simp [same]

theorem same_refl (value : Value) : same value value = true := by
  induction value using nested_induction with
  | null => exact same_null_iff.mpr rfl
  | bool value => exact same_bool_iff.mpr rfl
  | number value => exact same_number_iff.mpr ⟨value, rfl, value.same_refl⟩
  | string value => exact string_same_iff.mpr rfl
  | sequence items ih => exact same_sequence_iff.mpr ⟨items, rfl, List.forall₂_same.mpr ih⟩
  | mapping entries ih =>
      exact same_mapping_iff.mpr
        ⟨entries, rfl, rfl, fun entry member => ⟨entry, member, ih entry member⟩⟩
  | tagged tag content ih => exact same_tagged_iff.mpr ⟨content, rfl, ih⟩

theorem same_trans {first second third : Value} (early : same first second = true)
    (late : same second third = true) : same first third = true := by
  induction first using nested_induction generalizing second third with
  | null =>
      rwa [same_null_iff.mp early] at late
  | bool value =>
      rwa [same_bool_iff.mp early] at late
  | number value =>
      rcases same_number_iff.mp early with ⟨number, rfl, equal⟩
      rcases same_number_iff.mp late with ⟨last, rfl, next⟩
      exact same_number_iff.mpr ⟨last, rfl, Number.same_trans equal next⟩
  | string value =>
      rwa [string_same_iff.mp early] at late
  | sequence items ih =>
      rcases same_sequence_iff.mp early with ⟨others, rfl, equal⟩
      rcases same_sequence_iff.mp late with ⟨lasts, rfl, next⟩
      refine same_sequence_iff.mpr ⟨lasts, rfl, ?_⟩
      clear early late
      induction equal generalizing lasts with
      | nil => exact next
      | cons head _ restSame =>
          rw [List.forall_mem_cons] at ih
          cases next with
          | cons nextHead nextRest =>
              exact List.Forall₂.cons (ih.1 head nextHead) (restSame ih.2 _ nextRest)
  | mapping entries ih =>
      rcases same_mapping_iff.mp early with ⟨others, rfl, length, covered⟩
      rcases same_mapping_iff.mp late with ⟨lasts, rfl, nextLength, nextCovered⟩
      refine same_mapping_iff.mpr ⟨lasts, rfl, length.trans nextLength, fun entry member => ?_⟩
      rcases covered entry member with ⟨other, present, sameKey, sameContent⟩
      rcases nextCovered other present with ⟨last, there, nextKey, nextContent⟩
      rcases ih entry member with ⟨keys, contents⟩
      exact ⟨last, there, keys sameKey nextKey, contents sameContent nextContent⟩
  | tagged tag content ih =>
      rcases same_tagged_iff.mp early with ⟨value, rfl, equal⟩
      rcases same_tagged_iff.mp late with ⟨last, rfl, next⟩
      exact same_tagged_iff.mpr ⟨last, rfl, ih equal next⟩

/-! ### The order of entries -/

/-- An exchange of entries does not make another key. -/
theorem Swap.same {value other : Value} (swap : Swap value other) :
    Value.same value other = true := by
  have replaced : ∀ {before after : Entries} {entry counterpart : Value × Value},
      Value.same entry.1 counterpart.1 = true → Value.same entry.2 counterpart.2 = true →
      Value.same (.mapping (before ++ entry :: after))
        (.mapping (before ++ counterpart :: after)) = true := by
    intro before after entry counterpart sameKey sameContent
    refine same_mapping_iff.mpr ⟨_, rfl, by simp, fun candidate member => ?_⟩
    rcases List.mem_append.mp member with inBefore | behind
    · exact ⟨candidate, List.mem_append_left _ inBefore, same_refl _, same_refl _⟩
    · rcases List.mem_cons.mp behind with rfl | inAfter
      · exact ⟨counterpart, by simp, sameKey, sameContent⟩
      · exact ⟨candidate, by simp [inAfter], same_refl _, same_refl _⟩
  induction swap with
  | entries before after first second =>
      have perm : (before ++ first :: second :: after).Perm (before ++ second :: first :: after) :=
        List.Perm.append_left before (List.Perm.swap second first after)
      exact same_mapping_iff.mpr ⟨_, rfl, perm.length_eq, fun entry member =>
        ⟨entry, perm.mem_iff.mp member, same_refl _, same_refl _⟩⟩
  | key before after content inside ih => exact replaced ih (same_refl _)
  | content before after key inside ih => exact replaced (same_refl _) ih
  | item before after inside ih =>
      exact same_sequence_iff.mpr ⟨_, rfl, forall₂_replaced same_refl before after ih⟩
  | tagged tag inside ih => exact same_tagged_iff.mpr ⟨_, rfl, ih⟩

theorem Swap.same_left {value other : Value} (swap : Swap value other) (key : Value) :
    Value.same value key = Value.same other key := by
  rw [Bool.eq_iff_iff]
  exact ⟨same_trans swap.symm.same, same_trans swap.same⟩

theorem Swap.same_right {value other : Value} (swap : Swap value other) (key : Value) :
    Value.same key value = Value.same key other := by
  rw [Bool.eq_iff_iff]
  exact ⟨fun equal => same_trans equal swap.same, fun equal => same_trans equal swap.symm.same⟩

/-! ## Distinct keys -/

/-- No mapping has a key twice, neither in the value nor in the keys inside it. -/
inductive DistinctKeys : Value → Prop where
  | null : DistinctKeys .null
  | bool (value : Bool) : DistinctKeys (.bool value)
  | number (value : Number) : DistinctKeys (.number value)
  | string (value : String) : DistinctKeys (.string value)
  | sequence {items : List Value} (inside : ∀ item ∈ items, DistinctKeys item) :
      DistinctKeys (.sequence items)
  | mapping {entries : Entries}
      (distinct : entries.Pairwise fun entry other => same entry.1 other.1 = false)
      (keys : ∀ entry ∈ entries, DistinctKeys entry.1)
      (contents : ∀ entry ∈ entries, DistinctKeys entry.2) : DistinctKeys (.mapping entries)
  | tagged {tag : String} {content : Value} (inside : DistinctKeys content) :
      DistinctKeys (.tagged tag content)

@[simp]
theorem distinctKeys_sequence_iff {items : List Value} :
    DistinctKeys (.sequence items) ↔ ∀ item ∈ items, DistinctKeys item := by
  constructor
  · intro distinct
    cases distinct with
    | sequence inside => exact inside
  · exact DistinctKeys.sequence

theorem distinctKeys_mapping_iff {entries : Entries} :
    DistinctKeys (.mapping entries) ↔
      entries.Pairwise (fun entry other => same entry.1 other.1 = false) ∧
        ∀ entry ∈ entries, DistinctKeys entry.1 ∧ DistinctKeys entry.2 := by
  constructor
  · intro distinct
    cases distinct with
    | mapping distinct keys contents =>
        exact ⟨distinct, fun entry member => ⟨keys entry member, contents entry member⟩⟩
  · rintro ⟨distinct, inside⟩
    exact DistinctKeys.mapping distinct (fun entry member => (inside entry member).1)
      fun entry member => (inside entry member).2

@[simp]
theorem distinctKeys_tagged_iff {tag : String} {content : Value} :
    DistinctKeys (.tagged tag content) ↔ DistinctKeys content := by
  constructor
  · intro distinct
    cases distinct with
    | tagged inside => exact inside
  · exact DistinctKeys.tagged

/-- A value without a key twice counts as a key both ways. -/
theorem DistinctKeys.same_symm {value other : Value} (distinct : value.DistinctKeys)
    (equal : same value other = true) : same other value = true := by
  induction distinct generalizing other with
  | null => rw [same_null_iff.mp equal]; exact same_refl _
  | bool value => rw [same_bool_iff.mp equal]; exact same_refl _
  | number value =>
      rcases same_number_iff.mp equal with ⟨number, rfl, equal⟩
      exact same_number_iff.mpr ⟨value, rfl, Number.same_symm equal⟩
  | string value => rw [string_same_iff.mp equal]; exact same_refl _
  | @sequence items _ ih =>
      rcases same_sequence_iff.mp equal with ⟨others, rfl, pairs⟩
      refine same_sequence_iff.mpr ⟨items, rfl, ?_⟩
      clear * - ih pairs
      induction pairs with
      | nil => exact List.Forall₂.nil
      | cons head _ restSame =>
          rw [List.forall_mem_cons] at ih
          exact List.Forall₂.cons (ih.1 head) (restSame ih.2)
  | @mapping entries distinct _ _ keys contents =>
      rcases same_mapping_iff.mp equal with ⟨others, rfl, length, covered⟩
      refine same_mapping_iff.mpr ⟨entries, rfl, length.symm, fun other present => ?_⟩
      -- Entries with one partner have the same key, which distinct entries do not have.
      have apart : entries.Pairwise fun first second => ∀ other : Value × Value,
          same first.1 other.1 = true ∧ same first.2 other.2 = true →
          ¬ (same second.1 other.1 = true ∧ same second.2 other.2 = true) := by
        refine List.Pairwise.imp_of_mem ?_ distinct
        intro first second _ inEntries differ other firstSame secondSame
        have joined := same_trans firstSame.1 (keys second inEntries secondSame.1)
        rw [differ] at joined
        cases joined
      rcases exists_of_matched length covered apart other present with
        ⟨entry, member, sameKey, sameContent⟩
      exact ⟨entry, member, keys entry member sameKey, contents entry member sameContent⟩
  | tagged _ ih =>
      rcases same_tagged_iff.mp equal with ⟨value, rfl, inside⟩
      exact same_tagged_iff.mpr ⟨_, rfl, ih inside⟩

/-- Two entries have different keys, whichever comes first. -/
def Apart (entry other : Value × Value) : Prop :=
  same entry.1 other.1 = false ∧ same other.1 entry.1 = false

theorem Apart.symm {entry other : Value × Value} (apart : Apart entry other) :
    Apart other entry :=
  ⟨apart.2, apart.1⟩

theorem DistinctKeys.pairwise_apart {entries : Entries}
    (distinct : (Value.mapping entries).DistinctKeys) : entries.Pairwise Apart := by
  rw [distinctKeys_mapping_iff] at distinct
  refine List.Pairwise.imp_of_mem ?_ distinct.1
  intro entry other _ present differ
  refine ⟨differ, ?_⟩
  rw [← Bool.not_eq_true] at differ ⊢
  exact fun equal => differ ((distinct.2 other present).1.same_symm equal)

/-- Entries stay distinct in any order. -/
theorem DistinctKeys.perm {entries others : Entries}
    (distinct : (Value.mapping entries).DistinctKeys) (perm : entries.Perm others) :
    (Value.mapping others).DistinctKeys := by
  have apart := (perm.pairwise_iff Apart.symm).mp distinct.pairwise_apart
  rw [distinctKeys_mapping_iff] at distinct ⊢
  exact ⟨apart.imp And.left, fun entry member => distinct.2 entry (perm.mem_iff.mpr member)⟩

/-- Fewer entries are distinct all the more. -/
theorem DistinctKeys.sublist {entries others : Entries}
    (distinct : (Value.mapping entries).DistinctKeys) (sublist : others.Sublist entries) :
    (Value.mapping others).DistinctKeys := by
  rw [distinctKeys_mapping_iff] at distinct ⊢
  exact ⟨distinct.1.sublist sublist, fun entry member => distinct.2 entry (sublist.subset member)⟩

/-- An entry whose key is not there yet keeps keys distinct. -/
theorem DistinctKeys.concat {entries : Entries} (distinct : (Value.mapping entries).DistinctKeys)
    {entry : Value × Value} (unknown : ¬ hasKey entries entry.1 = true)
    (key : entry.1.DistinctKeys) (content : entry.2.DistinctKeys) :
    (Value.mapping (entries ++ [entry])).DistinctKeys := by
  rw [distinctKeys_mapping_iff] at distinct ⊢
  have differ : ∀ other ∈ entries, same other.1 entry.1 = false := by
    simpa [hasKey] using unknown
  constructor
  · rw [List.pairwise_append]
    refine ⟨distinct.1, List.pairwise_singleton _ _, fun other member last isLast => ?_⟩
    rw [List.mem_singleton.mp isLast]
    exact differ other member
  · rw [List.forall_mem_append, List.forall_mem_singleton]
    exact ⟨distinct.2, key, content⟩

/-- Distinct keys make distinct names. -/
theorem DistinctKeys.distinctNames {value : Value} (distinct : value.DistinctKeys) :
    value.DistinctNames := by
  induction distinct with
  | null => exact Throughout.null
  | bool value => exact Throughout.bool value
  | number value => exact Throughout.number value
  | string value => exact Throughout.string value
  | sequence _ ih => exact Throughout.sequence ih
  | @mapping entries distinct _ _ _ ih =>
      refine Throughout.mapping ?_ ih
      refine List.Pairwise.filterMap _ ?_ distinct
      rintro entry other differ name isName _ isOther rfl
      rw [name?_eq_some_iff.mp isName, name?_eq_some_iff.mp isOther, same_refl] at differ
      cases differ
  | tagged _ ih => exact Throughout.tagged ih

/-- Distinct keys stay distinct under an exchange. -/
theorem Swap.distinctKeys {value other : Value} (swap : Swap value other)
    (distinct : value.DistinctKeys) : other.DistinctKeys := by
  have replaced : ∀ {before after : Entries} (entry counterpart : Value × Value),
      (∀ key, Value.same entry.1 key = Value.same counterpart.1 key) →
      (∀ key, Value.same key entry.1 = Value.same key counterpart.1) →
      (Value.mapping (before ++ entry :: after)).DistinctKeys →
      counterpart.1.DistinctKeys → counterpart.2.DistinctKeys →
      (Value.mapping (before ++ counterpart :: after)).DistinctKeys := by
    intro before after entry counterpart left right distinct key content
    rw [distinctKeys_mapping_iff] at distinct ⊢
    constructor
    · have pairs := distinct.1
      rw [List.pairwise_append, List.pairwise_cons] at pairs ⊢
      refine ⟨pairs.1, ⟨fun other member => ?_, pairs.2.1.2⟩, ?_⟩
      · rw [← left]
        exact pairs.2.1.1 other member
      · intro first inBefore second behind
        rcases List.mem_cons.mp behind with rfl | inAfter
        · rw [← right]
          exact pairs.2.2 first inBefore entry (List.mem_cons_self ..)
        · exact pairs.2.2 first inBefore second (List.mem_cons_of_mem _ inAfter)
    · exact forall_mem_replaced distinct.2 ⟨key, content⟩
  induction swap with
  | entries before after first second =>
      exact distinct.perm (List.Perm.append_left before (List.Perm.swap second first after))
  | @key key other before after content inside ih =>
      have within := (distinctKeys_mapping_iff.mp distinct).2 (key, content) (by simp)
      exact replaced (key, content) _ inside.same_left inside.same_right distinct (ih within.1)
        within.2
  | @content content other before after key inside ih =>
      have within := (distinctKeys_mapping_iff.mp distinct).2 (key, content) (by simp)
      exact replaced (key, content) _ (fun _ => rfl) (fun _ => rfl) distinct within.1 (ih within.2)
  | @item item other before after inside ih =>
      rw [distinctKeys_sequence_iff] at distinct ⊢
      exact forall_mem_replaced distinct (ih (distinct item (by simp)))
  | tagged tag inside ih =>
      rw [distinctKeys_tagged_iff] at distinct ⊢
      exact ih distinct

/-- Distinct keys stay distinct under a rearrangement. -/
theorem Rearranged.distinctKeys {value other : Value} (rearranged : Rearranged value other)
    (distinct : value.DistinctKeys) : other.DistinctKeys := by
  induction rearranged with
  | refl => exact distinct
  | tail _ swap ih => exact swap.distinctKeys ih

end Yaml.Value

end ManifestLint
