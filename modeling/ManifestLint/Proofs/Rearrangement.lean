import ManifestLint.Yaml.Merge
import Mathlib.Logic.Relation
import Mathlib.Data.List.Forall2
import Mathlib.Data.List.Basic

/-!
# Values up to the order of entries

Two values are rearrangements of each other when they differ in the order of the
entries of mappings only, wherever in them those mappings are.  What is proved of
rearrangements is proved of one exchange of two neighbours.  What a mapping says
through the set of its names alone holds throughout all rearrangements or none.
-/

namespace ManifestLint.Yaml

/-! ## Names of entries -/

/-- The name that a key is, if it is a string. -/
def Value.name? : Value → Option String
  | .string name => some name
  | _ => none

/-- A key with a name is that name. -/
theorem Value.name?_eq_some_iff {key : Value} {name : String} :
    key.name? = some name ↔ key = .string name := by
  cases key <;> simp [name?]

/-- A key is the same as a name if it is that name. -/
theorem Value.same_string_iff {key : Value} {name : String} :
    same key (.string name) = true ↔ key = .string name := by
  cases key <;> simp [same]

/-- The names among the keys of entries, in their order. -/
def Entries.names (entries : Entries) : List String :=
  entries.filterMap fun entry => entry.1.name?

namespace Entries

@[simp]
theorem names_nil : names [] = [] :=
  rfl

theorem names_append (entries others : Entries) :
    names (entries ++ others) = names entries ++ names others :=
  List.filterMap_append

theorem names_cons (key content : Value) (rest : Entries) :
    names ((key, content) :: rest) = key.name?.toList ++ names rest := by
  cases found : key.name? with
  | none => simp [names, found]
  | some name => simp [names, found]

theorem hasKey_string_iff {entries : Entries} {name : String} :
    Value.hasKey entries (.string name) = true ↔ name ∈ names entries := by
  simp only [Value.hasKey, List.any_eq_true, names, List.mem_filterMap, Value.same_string_iff,
    Value.name?_eq_some_iff]

theorem names_perm {entries others : Entries} (perm : entries.Perm others) :
    (names entries).Perm (names others) :=
  perm.filterMap _

/-- Entries with the same keys have the same names. -/
theorem names_congr {entries others : Entries}
    (sameKeys : entries.map Prod.fst = others.map Prod.fst) : names entries = names others := by
  have throughKeys : ∀ list : Entries, names list = (list.map Prod.fst).filterMap Value.name? := by
    intro list
    rw [List.filterMap_map]
    rfl
  rw [throughKeys, throughKeys, sameKeys]

end Entries

namespace Value

/-! ## What holds of every mapping inside a value -/

/-- Every mapping inside a value, those in keys aside, has a property of its
entries. -/
inductive Throughout (holds : Entries → Prop) : Value → Prop where
  | null : Throughout holds .null
  | bool (value : Bool) : Throughout holds (.bool value)
  | number (value : Number) : Throughout holds (.number value)
  | string (value : String) : Throughout holds (.string value)
  | sequence {items : List Value} (inside : ∀ item ∈ items, Throughout holds item) :
      Throughout holds (.sequence items)
  | mapping {entries : Entries} (here : holds entries)
      (inside : ∀ entry ∈ entries, Throughout holds entry.2) :
      Throughout holds (.mapping entries)
  | tagged {tag : String} {content : Value} (inside : Throughout holds content) :
      Throughout holds (.tagged tag content)

@[simp]
theorem throughout_sequence_iff {holds : Entries → Prop} {items : List Value} :
    Throughout holds (.sequence items) ↔ ∀ item ∈ items, Throughout holds item := by
  constructor
  · intro throughout
    cases throughout with
    | sequence inside => exact inside
  · exact Throughout.sequence

@[simp]
theorem throughout_mapping_iff {holds : Entries → Prop} {entries : Entries} :
    Throughout holds (.mapping entries) ↔
      holds entries ∧ ∀ entry ∈ entries, Throughout holds entry.2 := by
  constructor
  · intro throughout
    cases throughout with
    | mapping here inside => exact ⟨here, inside⟩
  · rintro ⟨here, inside⟩
    exact Throughout.mapping here inside

@[simp]
theorem throughout_tagged_iff {holds : Entries → Prop} {tag : String} {content : Value} :
    Throughout holds (.tagged tag content) ↔ Throughout holds content := by
  constructor
  · intro throughout
    cases throughout with
    | tagged inside => exact inside
  · exact Throughout.tagged

/-- No mapping inside a value has one name twice. -/
def DistinctNames : Value → Prop :=
  Throughout fun entries => (Entries.names entries).Nodup

/-- Fewer entries have distinct names all the more. -/
theorem DistinctNames.sublist {entries others : Entries}
    (distinct : (Value.mapping entries).DistinctNames) (sublist : others.Sublist entries) :
    (Value.mapping others).DistinctNames := by
  rw [DistinctNames, throughout_mapping_iff] at distinct ⊢
  constructor
  · exact distinct.1.sublist (sublist.filterMap _)
  · exact fun entry member => distinct.2 entry (sublist.subset member)

/-! ## Exchanging neighbouring entries -/

/-- Two values differ in the order of two neighbouring entries, somewhere inside
them. -/
inductive Swap : Value → Value → Prop where
  | entries (before after : Entries) (first second : Value × Value) :
      Swap (.mapping (before ++ first :: second :: after))
        (.mapping (before ++ second :: first :: after))
  | key {key other : Value} (before after : Entries) (content : Value) (inside : Swap key other) :
      Swap (.mapping (before ++ (key, content) :: after))
        (.mapping (before ++ (other, content) :: after))
  | content {content other : Value} (before after : Entries) (key : Value)
      (inside : Swap content other) :
      Swap (.mapping (before ++ (key, content) :: after))
        (.mapping (before ++ (key, other) :: after))
  | item {item other : Value} (before after : List Value) (inside : Swap item other) :
      Swap (.sequence (before ++ item :: after)) (.sequence (before ++ other :: after))
  | tagged {content other : Value} (tag : String) (inside : Swap content other) :
      Swap (.tagged tag content) (.tagged tag other)

theorem Swap.symm {value other : Value} (swap : Swap value other) : Swap other value := by
  induction swap with
  | entries before after first second => exact Swap.entries before after second first
  | key before after content inside ih => exact Swap.key before after content ih
  | content before after key inside ih => exact Swap.content before after key ih
  | item before after inside ih => exact Swap.item before after ih
  | tagged tag inside ih => exact Swap.tagged tag ih

/-- A string has no entries to exchange. -/
theorem Swap.name?_eq {value other : Value} (swap : Swap value other) :
    value.name? = none ∧ other.name? = none := by
  cases swap <;> exact ⟨rfl, rfl⟩

/-- What holds of all members holds of them when one is replaced by another that it
holds of. -/
theorem forall_mem_replaced {α : Type} {holds : α → Prop} {before after : List α}
    {member other : α} (all : ∀ candidate ∈ before ++ member :: after, holds candidate)
    (replaced : holds other) : ∀ candidate ∈ before ++ other :: after, holds candidate := by
  rw [List.forall_mem_append, List.forall_mem_cons] at all ⊢
  exact ⟨all.1, replaced, all.2.2⟩

/-- Where one member of a list is replaced by a related one, all members are related. -/
theorem forall₂_replaced {α : Type} {related : α → α → Prop}
    (reflexive : ∀ member, related member member) (before after : List α) {member other : α}
    (replaced : related member other) :
    List.Forall₂ related (before ++ member :: after) (before ++ other :: after) := by
  induction before with
  | nil => exact List.Forall₂.cons replaced (List.forall₂_same.mpr fun rest _ => reflexive rest)
  | cons first before ih => exact List.Forall₂.cons (reflexive first) ih

/-- A property of the set of names of a mapping survives an exchange. -/
theorem Swap.throughout {holds : List String → Prop}
    (invariant : ∀ {names others : List String}, names.Perm others → holds names → holds others)
    {value other : Value} (swap : Swap value other)
    (throughout : value.Throughout fun entries => holds (Entries.names entries)) :
    other.Throughout fun entries => holds (Entries.names entries) := by
  induction swap with
  | entries before after first second =>
      rw [throughout_mapping_iff] at throughout ⊢
      rcases throughout with ⟨here, inside⟩
      have perm : (before ++ first :: second :: after).Perm (before ++ second :: first :: after) :=
        List.Perm.append_left before (List.Perm.swap second first after)
      constructor
      · exact invariant (Entries.names_perm perm) here
      · intro entry member
        exact inside entry (perm.mem_iff.mpr member)
  | @key key other before after content inside ih =>
      rw [throughout_mapping_iff] at throughout ⊢
      rcases throughout with ⟨here, within⟩
      constructor
      · simpa [Entries.names_append, Entries.names_cons, inside.name?_eq.1, inside.name?_eq.2]
          using here
      · exact forall_mem_replaced within (within (key, content) (by simp))
  | @content content other before after key inside ih =>
      rw [throughout_mapping_iff] at throughout ⊢
      rcases throughout with ⟨here, within⟩
      constructor
      · simpa [Entries.names_append, Entries.names_cons] using here
      · exact forall_mem_replaced within (ih (within (key, content) (by simp)))
  | @item item other before after inside ih =>
      rw [throughout_sequence_iff] at throughout ⊢
      exact forall_mem_replaced throughout (ih (throughout item (by simp)))
  | tagged tag inside ih =>
      rw [throughout_tagged_iff] at throughout ⊢
      exact ih throughout

theorem anyItemHasTag_eq_any (items : List Value) : anyItemHasTag items = items.any hasTag := by
  induction items with
  | nil => rfl
  | cons item rest ih => rw [anyItemHasTag, List.any_cons, ih]

theorem anyEntryHasTag_eq_any (entries : Entries) :
    anyEntryHasTag entries = entries.any fun entry => entry.1.hasTag || entry.2.hasTag := by
  induction entries with
  | nil => rfl
  | cons entry rest ih =>
      rcases entry with ⟨key, content⟩
      rw [anyEntryHasTag, List.any_cons, ih]

/-- Local tags stay where they are in an exchange. -/
theorem Swap.hasTag_eq {value other : Value} (swap : Swap value other) :
    value.hasTag = other.hasTag := by
  induction swap with
  | entries before after first second =>
      rw [hasTag, hasTag, anyEntryHasTag_eq_any, anyEntryHasTag_eq_any]
      exact (List.Perm.append_left before (List.Perm.swap second first after)).any_eq
  | key before after content inside ih =>
      rw [hasTag, hasTag, anyEntryHasTag_eq_any, anyEntryHasTag_eq_any, List.any_append,
        List.any_append, List.any_cons, List.any_cons, ih]
  | content before after key inside ih =>
      rw [hasTag, hasTag, anyEntryHasTag_eq_any, anyEntryHasTag_eq_any, List.any_append,
        List.any_append, List.any_cons, List.any_cons, ih]
  | item before after inside ih =>
      rw [hasTag, hasTag, anyItemHasTag_eq_any, anyItemHasTag_eq_any, List.any_append,
        List.any_append, List.any_cons, List.any_cons, ih]
  | tagged => rfl

/-! ## Rearrangements -/

/-- Two values differ in the order of the entries of mappings only. -/
def Rearranged : Value → Value → Prop :=
  Relation.ReflTransGen Swap

/-- Two entries differ at most in the order of entries inside them. -/
def Counterpart (entry other : Value × Value) : Prop :=
  Rearranged entry.1 other.1 ∧ Rearranged entry.2 other.2

namespace Rearranged

theorem refl (value : Value) : Rearranged value value :=
  Relation.ReflTransGen.refl

theorem trans {first second third : Value} (early : Rearranged first second)
    (late : Rearranged second third) : Rearranged first third :=
  Relation.ReflTransGen.trans early late

theorem symm {value other : Value} (rearranged : Rearranged value other) :
    Rearranged other value := by
  induction rearranged with
  | refl => exact refl _
  | tail _ swap ih => exact ih.head swap.symm

/-- A property of the set of names of a mapping survives a rearrangement. -/
theorem throughout {holds : List String → Prop}
    (invariant : ∀ {names others : List String}, names.Perm others → holds names → holds others)
    {value other : Value} (rearranged : Rearranged value other)
    (throughout : value.Throughout fun entries => holds (Entries.names entries)) :
    other.Throughout fun entries => holds (Entries.names entries) := by
  induction rearranged with
  | refl => exact throughout
  | tail _ swap ih => exact swap.throughout invariant ih

/-- Distinct names stay distinct under a rearrangement. -/
theorem distinctNames {value other : Value} (rearranged : Rearranged value other)
    (distinct : value.DistinctNames) : other.DistinctNames :=
  rearranged.throughout List.Perm.nodup distinct

/-- The content of a tag may be rearranged. -/
theorem tagged {content other : Value} (tag : String) (inside : Rearranged content other) :
    Rearranged (.tagged tag content) (.tagged tag other) :=
  Relation.ReflTransGen.lift (Value.tagged tag) (fun _ _ swap => Swap.tagged tag swap)
    _ _ inside

/-- All items of a sequence may be rearranged. -/
theorem sequence {items others : List Value} (inside : List.Forall₂ Rearranged items others) :
    Rearranged (.sequence items) (.sequence others) := by
  suffices behind : ∀ before : List Value,
      Rearranged (.sequence (before ++ items)) (.sequence (before ++ others)) from behind []
  induction inside with
  | nil => exact fun before => refl _
  | @cons item other items others first rest ih =>
      intro before
      have head : Rearranged (.sequence (before ++ item :: items))
          (.sequence (before ++ other :: items)) :=
        Relation.ReflTransGen.lift (fun moved => Value.sequence (before ++ moved :: items))
          (fun _ _ swap => Swap.item before items swap) _ _ first
      have tail := ih (before ++ [other])
      simp only [List.append_assoc, List.singleton_append] at tail
      exact head.trans tail

/-- The entries of a mapping may change places. -/
theorem mapping_of_perm {entries others : Entries} (perm : entries.Perm others) :
    Rearranged (.mapping entries) (.mapping others) := by
  suffices behind : ∀ before : Entries,
      Rearranged (.mapping (before ++ entries)) (.mapping (before ++ others)) from behind []
  induction perm with
  | nil => exact fun before => refl _
  | cons entry perm ih =>
      intro before
      simpa using ih (before ++ [entry])
  | swap first second rest =>
      intro before
      exact Relation.ReflTransGen.single (Swap.entries before rest second first)
  | trans _ _ early late =>
      intro before
      exact (early before).trans (late before)

/-- All entries of a mapping may be rearranged inside. -/
theorem mapping_of_counterparts {entries others : Entries}
    (inside : List.Forall₂ Counterpart entries others) :
    Rearranged (.mapping entries) (.mapping others) := by
  suffices behind : ∀ before : Entries,
      Rearranged (.mapping (before ++ entries)) (.mapping (before ++ others)) from behind []
  induction inside with
  | nil => exact fun before => refl _
  | @cons entry other entries others first rest ih =>
      rcases entry with ⟨key, content⟩
      rcases other with ⟨movedKey, movedContent⟩
      intro before
      have keys : Rearranged (.mapping (before ++ (key, content) :: entries))
          (.mapping (before ++ (movedKey, content) :: entries)) :=
        Relation.ReflTransGen.lift
          (fun value => Value.mapping (before ++ (value, content) :: entries))
          (fun _ _ swap => Swap.key before entries content swap) _ _ first.1
      have contents : Rearranged (.mapping (before ++ (movedKey, content) :: entries))
          (.mapping (before ++ (movedKey, movedContent) :: entries)) :=
        Relation.ReflTransGen.lift
          (fun value => Value.mapping (before ++ (movedKey, value) :: entries))
          (fun _ _ swap => Swap.content before entries movedKey swap) _ _ first.2
      have tail := ih (before ++ [(movedKey, movedContent)])
      simp only [List.append_assoc, List.singleton_append] at tail
      exact (keys.trans contents).trans tail

/-- All values of a mapping may be rearranged. -/
theorem mapping {entries others : Entries}
    (inside : List.Forall₂ (fun entry other => entry.1 = other.1 ∧ Rearranged entry.2 other.2)
      entries others) :
    Rearranged (.mapping entries) (.mapping others) :=
  mapping_of_counterparts (inside.imp fun entry _ pair => ⟨pair.1 ▸ refl entry.1, pair.2⟩)

end Rearranged

theorem Counterpart.refl (entry : Value × Value) : Counterpart entry entry :=
  ⟨Rearranged.refl entry.1, Rearranged.refl entry.2⟩

theorem Counterpart.symm {entry other : Value × Value} (pair : Counterpart entry other) :
    Counterpart other entry :=
  ⟨pair.1.symm, pair.2.symm⟩

theorem Counterpart.trans {first second third : Value × Value} (early : Counterpart first second)
    (late : Counterpart second third) : Counterpart first third :=
  ⟨early.1.trans late.1, early.2.trans late.2⟩

end Value

end ManifestLint.Yaml
