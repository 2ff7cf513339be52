import ManifestLint.Proofs.DistinctKeys

/-!
# Effective entries

The effective entries of a mapping are its own, and for every key that it lacks
the effective entry of the first mapping named by its merge key that has the key.
The merge keys of those mappings are followed in turn, and so are those inside
the values.  The definition goes from the inside out, so no merge key is left:
the mappings that are taken over have their own merge keys behind them.
-/

namespace ManifestLint.Yaml

namespace Value

/-- The entries of a mapping. -/
def entries? : Value → Option Entries
  | .mapping entries => some entries
  | _ => none

/-- The mappings that the value of a merge key names. -/
def named : Value → List Entries
  | .mapping entries => [entries]
  | .sequence items => items.filterMap entries?
  | _ => []

/-- A value that a merge key may have: a mapping or a sequence of mappings. -/
inductive NamesMappings : Value → Prop where
  | mapping (entries : Entries) : NamesMappings (.mapping entries)
  | sequence {items : List Value} (mappings : ∀ item ∈ items, ∃ entries, item = .mapping entries) :
      NamesMappings (.sequence items)

/-- A named mapping is the value itself or one of its items. -/
theorem mem_named {value : Value} {base : Entries} (member : base ∈ value.named) :
    value = .mapping base ∨ ∃ items, value = .sequence items ∧ .mapping base ∈ items := by
  cases value with
  | mapping entries =>
      left
      rw [List.mem_singleton.mp member]
  | sequence items =>
      right
      rcases List.mem_filterMap.mp member with ⟨item, inside, found⟩
      cases item with
      | mapping entries =>
          cases found
          exact ⟨items, rfl, inside⟩
      | null | bool _ | number _ | string _ | sequence _ | tagged _ _ => cases found
  | null | bool _ | number _ | string _ | tagged _ _ => cases member

end Value

namespace Entries

/-! ## One level of merging -/

theorem isMergeKey_iff {key : Value} : isMergeKey key = true ↔ key = .string "<<" :=
  Value.same_string_iff

/-- The entries besides the merge key. -/
def own (entries : Entries) : Entries :=
  entries.filter fun entry => !isMergeKey entry.1

/-- The mappings that the merge key names, the first to take from first. -/
def bases (entries : Entries) : List Entries :=
  entries.flatMap fun entry => if isMergeKey entry.1 then entry.2.named else []

/-- The own entries, and what they lack of the mappings that the merge key names,
whatever merge keys those have. -/
def direct (entries : Entries) : Entries :=
  (bases entries).foldl takeOver (own entries)

/-- Apply a function to the values of entries. -/
def mapValues (change : Value → Value) (entries : Entries) : Entries :=
  entries.map fun entry => (entry.1, change entry.2)

/-! ## Names after taking over -/

/-- A merge key among entries is the name `<<` among their names. -/
theorem mergeKey_mem_names_iff {entries : Entries} :
    "<<" ∈ names entries ↔ ∃ entry ∈ entries, isMergeKey entry.1 = true := by
  rw [← hasKey_string_iff, Value.hasKey, List.any_eq_true]
  rfl

theorem mem_addMissing {entries : Entries} {entry candidate : Value × Value}
    (member : candidate ∈ addMissing entries entry) : candidate ∈ entries ∨ candidate = entry := by
  unfold addMissing at member
  split at member
  · exact Or.inl member
  · simpa using member

theorem mem_takeOver {entries others : Entries} {candidate : Value × Value}
    (member : candidate ∈ takeOver entries others) : candidate ∈ entries ∨ candidate ∈ others := by
  induction others generalizing entries with
  | nil => exact Or.inl member
  | cons other rest ih =>
      rcases @ih (addMissing entries other) member with known | later
      · rcases mem_addMissing known with old | rfl
        · exact Or.inl old
        · exact Or.inr (List.mem_cons_self ..)
      · exact Or.inr (List.mem_cons_of_mem _ later)

theorem mem_names_addMissing {entries : Entries} {entry : Value × Value} {name : String} :
    name ∈ names (addMissing entries entry) ↔
      name ∈ names entries ∨ entry.1 = .string name := by
  unfold addMissing
  split
  · rename_i known
    constructor
    · exact Or.inl
    · rintro (old | new)
      · exact old
      · rw [new] at known
        exact hasKey_string_iff.mp known
  · rw [names_append, List.mem_append]
    simp [names, Value.name?_eq_some_iff]

theorem mem_names_takeOver {entries others : Entries} {name : String} :
    name ∈ names (takeOver entries others) ↔ name ∈ names entries ∨ name ∈ names others := by
  induction others generalizing entries with
  | nil => simp [takeOver, names]
  | cons other rest ih =>
      rcases other with ⟨key, content⟩
      change name ∈ names (takeOver (addMissing entries (key, content)) rest) ↔ _
      rw [ih, mem_names_addMissing, names_cons, List.mem_append, Option.mem_toList,
        Value.name?_eq_some_iff, or_assoc]

theorem mem_names_foldl_takeOver {entries : Entries} {others : List Entries} {name : String} :
    name ∈ names (others.foldl takeOver entries) ↔
      name ∈ names entries ∨ ∃ base ∈ others, name ∈ names base := by
  induction others generalizing entries with
  | nil => simp
  | cons base rest ih =>
      rw [List.foldl_cons, ih, mem_names_takeOver]
      simp [or_assoc]

/-- Own entries have no merge key. -/
theorem mergeKey_not_mem_names_own (entries : Entries) : "<<" ∉ names (own entries) := by
  rw [mergeKey_mem_names_iff]
  rintro ⟨entry, member, isMerge⟩
  have kept := List.of_mem_filter member
  rw [isMerge] at kept
  cases kept

/-- A merge key arrives by merging if a mapping that is named has one. -/
theorem mergeKey_mem_names_direct_iff {entries : Entries} :
    "<<" ∈ names (direct entries) ↔ ∃ base ∈ bases entries, "<<" ∈ names base := by
  rw [direct, mem_names_foldl_takeOver]
  constructor
  · rintro (own | arrived)
    · exact absurd own (mergeKey_not_mem_names_own entries)
    · exact arrived
  · exact Or.inr

/-- Taking over keeps names distinct. -/
theorem nodup_names_addMissing {entries : Entries} (distinct : (names entries).Nodup)
    (entry : Value × Value) : (names (addMissing entries entry)).Nodup := by
  rcases entry with ⟨key, content⟩
  unfold addMissing
  split
  · exact distinct
  · rename_i unknown
    rw [names_append, names_cons]
    cases found : key.name? with
    | none => simpa using distinct
    | some name =>
        rw [Value.name?_eq_some_iff.mp found, hasKey_string_iff] at unknown
        rw [names_nil, List.append_nil, Option.toList_some, List.nodup_append]
        refine ⟨distinct, by simp, ?_⟩
        intro other member new isNew equal
        rw [equal, List.mem_singleton.mp isNew] at member
        exact unknown member

theorem nodup_names_takeOver {entries : Entries} (distinct : (names entries).Nodup)
    (others : Entries) : (names (takeOver entries others)).Nodup := by
  induction others generalizing entries with
  | nil => exact distinct
  | cons other rest ih => exact ih (nodup_names_addMissing distinct other)

theorem nodup_names_direct {entries : Entries} (distinct : (names entries).Nodup) :
    (names (direct entries)).Nodup := by
  have behind : ∀ (others : List Entries) {start : Entries}, (names start).Nodup →
      (names (others.foldl takeOver start)).Nodup := by
    intro others
    induction others with
    | nil => exact fun known => known
    | cons base rest ih => exact fun known => ih (nodup_names_takeOver known base)
  apply behind
  exact distinct.sublist (List.Sublist.filterMap _ List.filter_sublist)

/-! ## Where direct entries come from -/

theorem mem_foldl_takeOver {others : List Entries} {entries : Entries} {entry : Value × Value}
    (member : entry ∈ others.foldl takeOver entries) :
    entry ∈ entries ∨ ∃ base ∈ others, entry ∈ base := by
  induction others generalizing entries with
  | nil => exact Or.inl member
  | cons base rest ih =>
      rcases ih member with taken | ⟨later, present, inside⟩
      · rcases mem_takeOver taken with old | new
        · exact Or.inl old
        · exact Or.inr ⟨base, List.mem_cons_self .., new⟩
      · exact Or.inr ⟨later, List.mem_cons_of_mem _ present, inside⟩

theorem mem_bases {entries base : Entries} (member : base ∈ bases entries) :
    ∃ source ∈ entries, base ∈ source.2.named := by
  rcases List.mem_flatMap.mp member with ⟨source, present, named⟩
  split at named
  · exact ⟨source, present, named⟩
  · cases named

/-- An entry after one level of merging is an entry of the mapping, or of one
that its merge key names. -/
theorem mem_direct {entries : Entries} {entry : Value × Value} (member : entry ∈ direct entries) :
    entry ∈ entries ∨ ∃ base ∈ bases entries, entry ∈ base := by
  rcases mem_foldl_takeOver member with own | arrived
  · exact Or.inl (List.mem_of_mem_filter own)
  · exact Or.inr arrived

/-- What holds throughout the values of entries holds throughout the mappings
that their merge key names. -/
theorem throughout_bases {holds : Entries → Prop} {entries base : Entries}
    (inside : ∀ entry ∈ entries, entry.2.Throughout holds) (member : base ∈ bases entries) :
    (Value.mapping base).Throughout holds := by
  rcases mem_bases member with ⟨source, present, named⟩
  have within := inside source present
  rcases Value.mem_named named with itself | ⟨items, sequence, item⟩
  · rwa [itself] at within
  · rw [sequence, Value.throughout_sequence_iff] at within
    exact within _ item

/-- What holds throughout the values of entries holds throughout those of the
direct entries. -/
theorem throughout_direct {holds : Entries → Prop} {entries : Entries}
    (inside : ∀ entry ∈ entries, entry.2.Throughout holds) {entry : Value × Value}
    (member : entry ∈ direct entries) : entry.2.Throughout holds := by
  rcases mem_direct member with own | ⟨base, named, inBase⟩
  · exact inside entry own
  · exact (Value.throughout_mapping_iff.mp (throughout_bases inside named)).2 entry inBase

theorem depth_le_of_mem {entries : Entries} {entry : Value × Value} (member : entry ∈ entries) :
    entry.2.depth ≤ Value.depthOfEntries entries := by
  induction entries with
  | nil => cases member
  | cons head rest ih =>
      rw [Value.depthOfEntries]
      rcases List.mem_cons.mp member with rfl | later
      · omega
      · have bound := ih later
        omega

theorem depth_le_of_mem_items {items : List Value} {item : Value} (member : item ∈ items) :
    item.depth ≤ Value.depthOfItems items := by
  induction items with
  | nil => cases member
  | cons head rest ih =>
      rw [Value.depthOfItems]
      rcases List.mem_cons.mp member with rfl | later
      · omega
      · have bound := ih later
        omega

/-- Direct entries lie no deeper than the entries of the mapping. -/
theorem depth_le_of_mem_direct {entries : Entries} {entry : Value × Value}
    (member : entry ∈ direct entries) : entry.2.depth ≤ Value.depthOfEntries entries := by
  rcases mem_direct member with own | ⟨base, arrived, inside⟩
  · exact depth_le_of_mem own
  · rcases mem_bases arrived with ⟨source, present, named⟩
    have outer := depth_le_of_mem present
    have inner := depth_le_of_mem inside
    rcases Value.mem_named named with itself | ⟨items, sequence, item⟩
    · rw [itself, Value.depth] at outer
      omega
    · have between := depth_le_of_mem_items item
      rw [sequence, Value.depth] at outer
      rw [Value.depth] at between
      omega

/-! ## Merging against changing values -/

theorem hasKey_mapValues (change : Value → Value) (entries : Entries) (key : Value) :
    Value.hasKey (mapValues change entries) key = Value.hasKey entries key := by
  rw [Value.hasKey, Value.hasKey, mapValues, List.any_map]
  rfl

theorem addMissing_mapValues (change : Value → Value) (entries : Entries)
    (entry : Value × Value) :
    addMissing (mapValues change entries) (entry.1, change entry.2) =
      mapValues change (addMissing entries entry) := by
  unfold addMissing
  rw [hasKey_mapValues]
  split
  · rfl
  · simp [mapValues]

theorem takeOver_mapValues (change : Value → Value) (entries others : Entries) :
    takeOver (mapValues change entries) (mapValues change others) =
      mapValues change (takeOver entries others) := by
  induction others generalizing entries with
  | nil => rfl
  | cons other rest ih =>
      calc
        takeOver (mapValues change entries) (mapValues change (other :: rest)) =
            takeOver (addMissing (mapValues change entries) (other.1, change other.2))
              (mapValues change rest) := rfl
        _ = takeOver (mapValues change (addMissing entries other)) (mapValues change rest) := by
            rw [addMissing_mapValues]
        _ = mapValues change (takeOver (addMissing entries other) rest) := ih _

theorem foldl_takeOver_mapValues (change : Value → Value) (others : List Entries)
    (entries : Entries) :
    (others.map (mapValues change)).foldl takeOver (mapValues change entries) =
      mapValues change (others.foldl takeOver entries) := by
  induction others generalizing entries with
  | nil => rfl
  | cons base rest ih =>
      rw [List.map_cons, List.foldl_cons, takeOver_mapValues, ih, List.foldl_cons]

theorem own_mapValues (change : Value → Value) (entries : Entries) :
    own (mapValues change entries) = mapValues change (own entries) := by
  rw [own, mapValues, List.filter_map]
  rfl

theorem names_mapValues (change : Value → Value) (entries : Entries) :
    names (mapValues change entries) = names entries :=
  names_congr (by simp [mapValues])

/-! ## Mappings without a merge key -/

theorem isMergeKey_eq_false {entries : Entries} (noMerge : "<<" ∉ names entries)
    {entry : Value × Value} (member : entry ∈ entries) : isMergeKey entry.1 = false := by
  rw [← Bool.not_eq_true]
  exact fun isMerge => noMerge (mergeKey_mem_names_iff.mpr ⟨entry, member, isMerge⟩)

theorem own_eq_self {entries : Entries} (noMerge : "<<" ∉ names entries) :
    own entries = entries := by
  apply List.filter_eq_self.mpr
  intro entry member
  rw [isMergeKey_eq_false noMerge member]
  rfl

theorem bases_eq_nil {entries : Entries} (noMerge : "<<" ∉ names entries) :
    bases entries = [] := by
  apply List.flatMap_eq_nil_iff.mpr
  intro entry member
  rw [isMergeKey_eq_false noMerge member]
  rfl

/-- Nothing is to be merged where there is no merge key. -/
theorem direct_eq_self {entries : Entries} (noMerge : "<<" ∉ names entries) :
    direct entries = entries := by
  rw [direct, own_eq_self noMerge, bases_eq_nil noMerge]
  rfl

end Entries

namespace Value

open Entries (direct mapValues bases own takeOver names)

/-! ## Effective values -/

mutual

/-- The value in which every mapping has its effective entries.  Keys stay as
they are. -/
def effective : Value → Value
  | .mapping entries => .mapping (direct (effectiveEntries entries))
  | .sequence items => .sequence (effectiveItems items)
  | .tagged tag content => .tagged tag (effective content)
  | value => value

/-- The effective values of items. -/
def effectiveItems : List Value → List Value
  | [] => []
  | item :: rest => effective item :: effectiveItems rest

/-- Entries with effective values. -/
def effectiveEntries : Entries → Entries
  | [] => []
  | (key, content) :: rest => (key, effective content) :: effectiveEntries rest

end

theorem effectiveItems_eq_map (items : List Value) :
    effectiveItems items = items.map effective := by
  induction items with
  | nil => rfl
  | cons item rest ih => rw [effectiveItems, ih, List.map_cons]

theorem effectiveEntries_eq_mapValues (entries : Entries) :
    effectiveEntries entries = mapValues effective entries := by
  induction entries with
  | nil => rfl
  | cons entry rest ih =>
      rcases entry with ⟨key, content⟩
      rw [effectiveEntries, ih]
      rfl

@[simp]
theorem effective_mapping (entries : Entries) :
    (Value.mapping entries).effective = .mapping (direct (mapValues effective entries)) := by
  rw [effective, effectiveEntries_eq_mapValues]

@[simp]
theorem effective_sequence (items : List Value) :
    (Value.sequence items).effective = .sequence (items.map effective) := by
  rw [effective, effectiveItems_eq_map]

@[simp]
theorem effective_tagged (tag : String) (content : Value) :
    (Value.tagged tag content).effective = .tagged tag content.effective := by
  rw [effective]

/-- What holds of a value if it holds of the values inside it, those in keys
aside, holds of all values. -/
theorem inside_induction {motive : Value → Prop} (null : motive .null)
    (bool : ∀ value, motive (.bool value)) (number : ∀ value, motive (.number value))
    (string : ∀ value, motive (.string value))
    (sequence : ∀ items : List Value, (∀ item ∈ items, motive item) → motive (.sequence items))
    (mapping : ∀ entries : Entries, (∀ entry ∈ entries, motive entry.2) → motive (.mapping entries))
    (tagged : ∀ tag content, motive content → motive (.tagged tag content)) (value : Value) :
    motive value :=
  nested_induction null bool number string sequence
    (fun entries inside => mapping entries fun entry member => (inside entry member).2) tagged value

/-- What holds of all entries holds throughout every value. -/
theorem throughout_of_forall {holds : Entries → Prop} (always : ∀ entries, holds entries)
    (value : Value) : value.Throughout holds := by
  induction value using inside_induction with
  | null => exact Throughout.null
  | bool value => exact Throughout.bool value
  | number value => exact Throughout.number value
  | string value => exact Throughout.string value
  | sequence items ih => exact Throughout.sequence ih
  | mapping entries ih => exact Throughout.mapping (always entries) ih
  | tagged tag content ih => exact Throughout.tagged ih

/-- The mappings that an effective value names are those that the value names,
each with its effective entries. -/
theorem named_effective (value : Value) :
    value.effective.named = value.named.map fun base => direct (mapValues effective base) := by
  have item_entries : ∀ item : Value, item.effective.entries? =
      item.entries?.map fun base => direct (mapValues effective base) := by
    intro item
    cases item with
    | mapping entries => simp [entries?]
    | null | bool _ | number _ | string _ | sequence _ | tagged _ _ => simp [entries?, effective]
  cases value with
  | mapping entries => simp [named]
  | sequence items =>
      rw [effective_sequence, named, named, List.filterMap_map, List.map_filterMap]
      exact List.filterMap_congr fun item _ => item_entries item
  | null | bool _ | number _ | string _ | tagged _ _ => simp [named, effective]

theorem bases_effective (entries : Entries) :
    bases (mapValues effective entries) =
      (bases entries).map fun base => direct (mapValues effective base) := by
  rw [bases, bases, mapValues, List.flatMap_map, List.map_flatMap]
  congr 1
  funext entry
  rw [named_effective]
  split <;> rfl

/-- Where no merge key arrives by merging, the effective entries are the direct
entries with effective values. -/
theorem direct_effective {entries : Entries} (unchained : "<<" ∉ names (direct entries)) :
    direct (mapValues effective entries) = mapValues effective (direct entries) := by
  have basesPlain : (bases entries).map (fun base => direct (mapValues effective base)) =
      (bases entries).map (mapValues effective) := by
    apply List.map_congr_left
    intro base member
    apply Entries.direct_eq_self
    rw [Entries.names_mapValues]
    exact fun inBase =>
      unchained (Entries.mergeKey_mem_names_direct_iff.mpr ⟨base, member, inBase⟩)
  rw [direct, bases_effective, basesPlain, Entries.own_mapValues,
    Entries.foldl_takeOver_mapValues, ← direct]

/-! ## What effective values are like -/

/-- What one level of merging makes of the entries of a mapping, with what is
inside them done, holds throughout the effective value. -/
theorem throughout_effective {before after : Entries → Prop}
    (merged : ∀ entries, before entries →
      (∀ entry ∈ mapValues effective entries, entry.2.Throughout after) →
      after (direct (mapValues effective entries)))
    {value : Value} (known : value.Throughout before) : value.effective.Throughout after := by
  induction known with
  | null => exact Throughout.null
  | bool value => exact Throughout.bool value
  | number value => exact Throughout.number value
  | string value => exact Throughout.string value
  | @sequence items _ ih =>
      rw [effective_sequence, throughout_sequence_iff, List.forall_mem_map]
      exact ih
  | @mapping entries here _ ih =>
      have inside : ∀ entry ∈ mapValues effective entries, entry.2.Throughout after := by
        rw [mapValues, List.forall_mem_map]
        exact ih
      rw [effective_mapping, throughout_mapping_iff]
      constructor
      · exact merged entries here inside
      · exact fun entry member => Entries.throughout_direct inside member
  | tagged _ ih =>
      rw [effective_tagged, throughout_tagged_iff]
      exact ih

/-- No mapping inside a value has a merge key. -/
def Resolved : Value → Prop :=
  Throughout fun entries => "<<" ∉ names entries

/-- Whatever the depth of chaining, no merge key is left. -/
theorem resolved_effective (value : Value) : value.effective.Resolved := by
  apply throughout_effective _ (throughout_of_forall (fun _ => trivial) value)
  intro entries _ inside
  rw [Entries.mergeKey_mem_names_direct_iff]
  rintro ⟨base, member, inBase⟩
  exact (throughout_mapping_iff.mp (Entries.throughout_bases inside member)).1 inBase

/-- Effective entries have distinct names where the entries have. -/
theorem distinctNames_effective {value : Value} (distinct : value.DistinctNames) :
    value.effective.DistinctNames := by
  apply throughout_effective _ distinct
  intro entries here _
  apply Entries.nodup_names_direct
  rw [Entries.names_mapValues]
  exact here

/-! ## What stands under a key -/

end Value

namespace Entries

/-- The entry with a key, the first if there are several. -/
def entryAt? (entries : Entries) (key : Value) : Option (Value × Value) :=
  List.find? (fun entry => Value.same entry.1 key) entries

theorem entryAt?_cons (entry : Value × Value) (rest : Entries) (key : Value) :
    entryAt? (entry :: rest) key =
      if Value.same entry.1 key then some entry else entryAt? rest key := by
  rw [entryAt?, List.find?_cons]
  cases Value.same entry.1 key <;> rfl

theorem entryAt?_append (entries others : Entries) (key : Value) :
    entryAt? (entries ++ others) key = (entryAt? entries key).or (entryAt? others key) :=
  List.find?_append

theorem isSome_entryAt? (entries : Entries) (key : Value) :
    (entryAt? entries key).isSome = Value.hasKey entries key := by
  rw [entryAt?, Bool.eq_iff_iff, List.find?_isSome, Value.hasKey, List.any_eq_true]

theorem entryAt?_addMissing (entries : Entries) (entry : Value × Value) (key : Value) :
    entryAt? (addMissing entries entry) key = (entryAt? entries key).or (entryAt? [entry] key) := by
  unfold addMissing
  split
  · rename_i known
    rw [entryAt?_cons]
    split
    · rename_i equal
      rcases List.any_eq_true.mp known with ⟨own, member, sameKey⟩
      have present : Value.hasKey entries key = true :=
        List.any_eq_true.mpr ⟨own, member, Value.same_trans sameKey equal⟩
      rw [Option.or_of_isSome ((isSome_entryAt? entries key).trans present)]
    · exact Option.or_none.symm
  · exact entryAt?_append entries [entry] key

theorem entryAt?_takeOver (entries others : Entries) (key : Value) :
    entryAt? (takeOver entries others) key = (entryAt? entries key).or (entryAt? others key) := by
  induction others generalizing entries with
  | nil => exact Option.or_none.symm
  | cons other rest ih =>
      calc
        entryAt? (takeOver entries (other :: rest)) key =
            entryAt? (takeOver (addMissing entries other) rest) key := rfl
        _ = ((entryAt? entries key).or (entryAt? [other] key)).or (entryAt? rest key) := by
            rw [ih, entryAt?_addMissing]
        _ = (entryAt? entries key).or (entryAt? ([other] ++ rest) key) := by
            rw [Option.or_assoc, ← entryAt?_append]

theorem entryAt?_foldl_takeOver (others : List Entries) (entries : Entries) (key : Value) :
    entryAt? (others.foldl takeOver entries) key =
      (entryAt? entries key).or (others.findSome? fun base => entryAt? base key) := by
  induction others generalizing entries with
  | nil => exact Option.or_none.symm
  | cons base rest ih =>
      rw [List.foldl_cons, ih, entryAt?_takeOver, Option.or_assoc, List.findSome?_cons]
      cases entryAt? base key <;> rfl

theorem entryAt?_own (entries : Entries) {key : Value} (notMerge : key ≠ .string "<<") :
    entryAt? (own entries) key = entryAt? entries key := by
  induction entries with
  | nil => rfl
  | cons entry rest ih =>
      by_cases isMerge : isMergeKey entry.1 = true
      · have dropped : own (entry :: rest) = own rest :=
          List.filter_cons_of_neg (by simpa using isMerge)
        rw [dropped, ih, entryAt?_cons, if_neg]
        rw [isMergeKey_iff.mp isMerge, Value.string_same_iff]
        exact notMerge
      · have kept : own (entry :: rest) = entry :: own rest :=
          List.filter_cons_of_pos (by simpa using isMerge)
        rw [kept, entryAt?_cons, entryAt?_cons, ih]

/-- The direct entry with a key: the own one or, where there is none, that of the
first mapping named by the merge key that has one. -/
theorem entryAt?_direct (entries : Entries) {key : Value} (notMerge : key ≠ .string "<<") :
    entryAt? (direct entries) key =
      (entryAt? entries key).or ((bases entries).findSome? fun base => entryAt? base key) := by
  rw [direct, entryAt?_foldl_takeOver, entryAt?_own _ notMerge]

end Entries

namespace Value

open Entries (direct mapValues bases)

theorem lookup?_mapping (entries : Entries) (name : String) :
    (Value.mapping entries).lookup? name = (Entries.entryAt? entries (.string name)).map (·.2) :=
  rfl

theorem lookup?_mapValues (change : Value → Value) (entries : Entries) (name : String) :
    (Value.mapping (mapValues change entries)).lookup? name =
      ((Value.mapping entries).lookup? name).map change := by
  rw [lookup?, lookup?, mapValues, List.find?_map, Option.map_map, Option.map_map]
  rfl

theorem lookup?_direct (entries : Entries) {name : String} (notMerge : name ≠ "<<") :
    (Value.mapping (direct entries)).lookup? name =
      ((Value.mapping entries).lookup? name).or
        ((bases entries).findSome? fun base => (Value.mapping base).lookup? name) := by
  rw [lookup?_mapping, Entries.entryAt?_direct _ fun equal => notMerge (Value.string.inj equal),
    Option.map_or, List.map_findSome?]
  rfl

/-- The effective entries of a mapping: its own entry under a name with its value
made effective or, where it has none, the effective entry of the first mapping
named by its merge key that has one. -/
theorem lookup?_effective (entries : Entries) {name : String} (notMerge : name ≠ "<<") :
    (Value.mapping entries).effective.lookup? name =
      (((Value.mapping entries).lookup? name).map effective).or
        ((bases entries).findSome? fun base => (Value.mapping base).effective.lookup? name) := by
  rw [effective_mapping, lookup?_direct _ notMerge, lookup?_mapValues, bases_effective,
    List.findSome?_map]
  congr 1
  congr 1
  funext base
  rw [Function.comp_apply, effective_mapping]

end Value

end ManifestLint.Yaml
