import ManifestLint.Proofs.Rearrangement
import ManifestLint.Shape.Record

/-!
# Reading values whatever the order of their entries

A reader is free of order if exchanging two neighbouring entries, anywhere inside
a value, does not keep it from succeeding and changes its result no more than a
relation allows.  Exchanges can be taken back, so only one direction is needed.
Records are free of order when their fields are and no two fields change the same
part of the record; dictionaries are because their names are distinct.
-/

namespace ManifestLint

/-- Lists that are related item by item to one list in between are related. -/
theorem forall₂_trans {α : Type} {related : α → α → Prop}
    (transitive : ∀ first second third, related first second → related second third →
      related first third)
    {first second third : List α} (early : List.Forall₂ related first second)
    (late : List.Forall₂ related second third) : List.Forall₂ related first third := by
  induction early generalizing third with
  | nil => exact late
  | cons head rest ih =>
      cases late with
      | cons nextHead nextRest =>
          exact List.Forall₂.cons (transitive _ _ _ head nextHead) (ih nextRest)

namespace Dictionary

/-! ## Dictionaries with related values -/

variable {α : Type}

/-- Two dictionaries have the same keys, with related values. -/
def Same (related : α → α → Prop) (dictionary other : Dictionary α) : Prop :=
  List.Forall₂ (fun entry counterpart => entry.1 = counterpart.1 ∧ related entry.2 counterpart.2)
    dictionary.entries other.entries

theorem Same.refl {related : α → α → Prop} (reflexive : ∀ value, related value value)
    (dictionary : Dictionary α) : Same related dictionary dictionary :=
  List.forall₂_same.mpr fun entry _ => ⟨rfl, reflexive entry.2⟩

theorem Same.trans {related : α → α → Prop}
    (transitive : ∀ first second third, related first second → related second third →
      related first third)
    {first second third : Dictionary α} (early : Same related first second)
    (late : Same related second third) : Same related first third := by
  refine forall₂_trans ?_ early late
  rintro entry middle last ⟨sameKey, relation⟩ ⟨nextKey, nextRelation⟩
  exact ⟨sameKey.trans nextKey, transitive _ _ _ relation nextRelation⟩

theorem Same.eq {dictionary other : Dictionary α} (same : Same Eq dictionary other) :
    dictionary = other := by
  apply Dictionary.ext
  rw [← List.forall₂_eq_eq_eq]
  exact List.Forall₂.imp (fun _ _ => Prod.ext_iff.mpr) same

/-- Related values under one key keep dictionaries related. -/
theorem Same.insert {related : α → α → Prop} {dictionary other : Dictionary α}
    (same : Same related dictionary other) (key : String) {value content : α}
    (relation : related value content) :
    Same related (dictionary.insert key value) (other.insert key content) := by
  unfold Same at same ⊢
  rw [entries_insert, entries_insert]
  generalize dictionary.entries = entries at same
  generalize other.entries = others at same
  induction same with
  | nil => exact List.Forall₂.cons ⟨rfl, relation⟩ List.Forall₂.nil
  | @cons entry counterpart rest others first rest_same ih =>
      rw [insertEntry, insertEntry, ← first.1]
      split
      · exact List.Forall₂.cons ⟨rfl, relation⟩ (List.Forall₂.cons first rest_same)
      · split
        · exact List.Forall₂.cons first ih
        · exact List.Forall₂.cons ⟨rfl, relation⟩ rest_same

/-- Values can be put under different keys in any order. -/
theorem insert_comm (dictionary : Dictionary α) {key other : String} (differ : key ≠ other)
    (value content : α) :
    (dictionary.insert other content).insert key value =
      (dictionary.insert key value).insert other content := by
  apply Dictionary.ext
  have total : ∀ left right : String, left < right ∨ left = right ∨ right < left := by
    intro left right
    by_cases before : left < right
    · exact Or.inl before
    · by_cases after : right < left
      · exact Or.inr (Or.inr after)
      · exact Or.inr (Or.inl (String.le_antisymm after before))
  rw [entries_insert, entries_insert, entries_insert, entries_insert]
  induction dictionary.entries with
  | nil =>
      have keys := total key other
      grind [insertEntry, String.lt_asymm, String.lt_irrefl]
  | cons entry rest ih =>
      have keys := total key other
      have keyPlace := total key entry.1
      have otherPlace := total other entry.1
      grind [insertEntry, String.lt_asymm, String.lt_irrefl, String.lt_trans]

end Dictionary

namespace Shape

open ManifestLint.Yaml (Value Entries)
open ManifestLint.Yaml.Value (Swap Rearranged)

/-! ## Success that carries over -/

section Follows

variable {ε α β γ δ : Type}

/-- If the first computation succeeds, then so does the second, with a related
result. -/
def Follows (related : α → β → Prop) (first : Except ε α) (second : Except ε β) : Prop :=
  ∀ result, first = .ok result → ∃ other, second = .ok other ∧ related result other

theorem Follows.ok {related : α → β → Prop} {result : α} {other : β}
    (relation : related result other) :
    Follows related (.ok result : Except ε α) (.ok other) := by
  intro _ success
  cases success
  exact ⟨other, rfl, relation⟩

theorem Follows.refl {related : α → α → Prop} (reflexive : ∀ result, related result result)
    (computation : Except ε α) : Follows related computation computation :=
  fun result success => ⟨result, success, reflexive result⟩

theorem Follows.of_error {related : α → β → Prop} {first : Except ε α} {error : ε}
    (failure : first = .error error) (second : Except ε β) : Follows related first second := by
  intro result success
  rw [failure] at success
  cases success

/-- A computation in two parts carries over part by part. -/
theorem Follows.bind {related : α → β → Prop} {relatedNext : γ → δ → Prop}
    {first : Except ε α} {second : Except ε β} {next : α → Except ε γ} {nextOther : β → Except ε δ}
    (start : Follows related first second)
    (continuation : ∀ result other, related result other →
      Follows relatedNext (next result) (nextOther other)) :
    Follows relatedNext (first >>= next) (second >>= nextOther) := by
  intro result success
  cases first with
  | error error => cases success
  | ok middle =>
      rcases start middle rfl with ⟨other, otherSuccess, relation⟩
      rw [otherSuccess]
      exact continuation middle other relation result success

theorem Follows.bind_of_eq {relatedNext : γ → δ → Prop} (first : Except ε α)
    {next : α → Except ε γ} {nextOther : α → Except ε δ}
    (continuation : ∀ result, Follows relatedNext (next result) (nextOther result)) :
    Follows relatedNext (first >>= next) (first >>= nextOther) := by
  apply Follows.bind (Follows.refl (fun _ => rfl) first)
  rintro result _ rfl
  exact continuation result

theorem Follows.map {related : α → β → Prop} {relatedNext : γ → δ → Prop}
    {first : Except ε α} {second : Except ε β} {change : α → γ} {changeOther : β → δ}
    (start : Follows related first second)
    (changed : ∀ result other, related result other →
      relatedNext (change result) (changeOther other)) :
    Follows relatedNext (first.map change) (second.map changeOther) := by
  intro result success
  cases first with
  | error error => cases success
  | ok middle =>
      cases success
      rcases start middle rfl with ⟨other, otherSuccess, relation⟩
      rw [otherSuccess]
      exact ⟨_, rfl, changed middle other relation⟩

end Follows

/-! ## Readers that are free of order -/

/-- An exchange of entries leaves a reader successful, with a related result. -/
def OrderFree {α : Type} (related : α → α → Prop) (read : Reader α) : Prop :=
  ∀ ⦃value other : Value⦄, Swap value other → value.DistinctNames →
    Follows related (read value) (read other)

/-- A reader that is free of order is so under any number of exchanges. -/
theorem OrderFree.follows_of_rearranged {α : Type} {related : α → α → Prop} {read : Reader α}
    (free : OrderFree related read) (reflexive : ∀ result, related result result)
    (transitive : ∀ first second third, related first second → related second third →
      related first third)
    {value other : Value} (rearranged : Rearranged value other) (distinct : value.DistinctNames) :
    Follows related (read value) (read other) := by
  induction rearranged with
  | refl => exact Follows.refl reflexive _
  | @tail middle last early swap ih =>
      intro result success
      rcases ih result success with ⟨between, betweenSuccess, relation⟩
      rcases free swap (Rearranged.distinctNames early distinct) between betweenSuccess with
        ⟨final, finalSuccess, finalRelation⟩
      exact ⟨final, finalSuccess, transitive result between final relation finalRelation⟩

/-- A reader that refuses tags is free of order if it is so on mappings and inside
the items of sequences. -/
theorem orderFree_of_parts {α : Type} {related : α → α → Prop} {read : Reader α}
    (mappings : ∀ {entries others : Entries}, Swap (.mapping entries) (.mapping others) →
      (Value.mapping entries).DistinctNames →
      Follows related (read (.mapping entries)) (read (.mapping others)))
    (items : ∀ (before after : List Value) {item other : Value}, Swap item other →
      (Value.sequence (before ++ item :: after)).DistinctNames →
      Follows related (read (.sequence (before ++ item :: after)))
        (read (.sequence (before ++ other :: after))))
    (tags : ∀ tag content, ∃ error, read (.tagged tag content) = .error error) :
    OrderFree related read := by
  intro value other swap distinct
  cases swap with
  | entries before after first second =>
      exact mappings (Swap.entries before after first second) distinct
  | key before after content inside =>
      exact mappings (Swap.key before after content inside) distinct
  | content before after key inside =>
      exact mappings (Swap.content before after key inside) distinct
  | item before after inside => exact items before after inside distinct
  | @tagged content _ tag inside =>
      rcases tags tag content with ⟨error, failure⟩
      exact Follows.of_error failure _

/-- A reader that refuses whatever may hold entries is free of order. -/
theorem orderFree_of_refuses {α : Type} {related : α → α → Prop} {read : Reader α}
    (sequences : ∀ items, ∃ error, read (.sequence items) = .error error)
    (mappings : ∀ entries, ∃ error, read (.mapping entries) = .error error)
    (tags : ∀ tag content, ∃ error, read (.tagged tag content) = .error error) :
    OrderFree related read := by
  refine orderFree_of_parts ?_ ?_ tags
  · intro entries others _ _
    rcases mappings entries with ⟨error, failure⟩
    exact Follows.of_error failure _
  · intro before after item other _ _
    rcases sequences (before ++ item :: after) with ⟨error, failure⟩
    exact Follows.of_error failure _

theorem readString_orderFree : OrderFree Eq readString :=
  orderFree_of_refuses (fun _ => ⟨_, rfl⟩) (fun _ => ⟨_, rfl⟩) (fun _ _ => ⟨_, rfl⟩)

theorem readBool_orderFree : OrderFree Eq readBool :=
  orderFree_of_refuses (fun _ => ⟨_, rfl⟩) (fun _ => ⟨_, rfl⟩) (fun _ _ => ⟨_, rfl⟩)

theorem readWord16_orderFree : OrderFree Eq readWord16 :=
  orderFree_of_refuses (fun _ => ⟨_, rfl⟩) (fun _ => ⟨_, rfl⟩) (fun _ _ => ⟨_, rfl⟩)

theorem readWord64_orderFree : OrderFree Eq readWord64 :=
  orderFree_of_refuses (fun _ => ⟨_, rfl⟩) (fun _ => ⟨_, rfl⟩) (fun _ _ => ⟨_, rfl⟩)

theorem readOption_orderFree {α : Type} {read : Reader α} (inner : OrderFree Eq read) :
    OrderFree Eq (readOption read) := by
  have notNull : ∀ {value other : Value}, Swap value other →
      readOption read value = (read value).map some := by
    intro value other swap
    cases swap <;> rfl
  intro value other swap distinct
  rw [notNull swap, notNull swap.symm]
  exact Follows.map (inner swap distinct) fun _ _ same => congrArg some same

/-- Only the result of an item whose entries are exchanged may change. -/
theorem follows_readItems {α : Type} {related : α → α → Prop} {read : Reader α}
    (reflexive : ∀ result, related result result) (before after : List Value) {item other : Value}
    (changed : Follows related (read item) (read other)) :
    Follows (List.Forall₂ related) (readItems read (before ++ item :: after))
      (readItems read (before ++ other :: after)) := by
  have same : ∀ results, List.Forall₂ related results results :=
    fun results => List.forall₂_same.mpr fun result _ => reflexive result
  induction before with
  | nil =>
      apply Follows.bind changed
      intro result otherResult relation
      apply Follows.bind_of_eq
      exact fun results => Follows.ok (List.Forall₂.cons relation (same results))
  | cons first rest ih =>
      apply Follows.bind_of_eq
      intro result
      apply Follows.bind ih
      exact fun results others relation =>
        Follows.ok (List.Forall₂.cons (reflexive result) relation)

theorem readList_orderFree {α : Type} {related : α → α → Prop} {read : Reader α}
    (reflexive : ∀ result, related result result) (inner : OrderFree related read) :
    OrderFree (List.Forall₂ related) (readList read) := by
  refine orderFree_of_parts (fun _ _ => Follows.of_error rfl _) ?_ (fun _ _ => ⟨_, rfl⟩)
  intro before after item other inside distinct
  rw [Value.DistinctNames, Yaml.Value.throughout_sequence_iff] at distinct
  exact follows_readItems reflexive before after (inner inside (distinct _ (by simp)))

theorem readList_orderFree_eq {α : Type} {read : Reader α} (inner : OrderFree Eq read) :
    OrderFree Eq (readList read) := by
  have pointwise := readList_orderFree (fun _ => rfl) inner
  rwa [List.forall₂_eq_eq_eq] at pointwise

/-! ## Reading entry by entry -/

/-- Reading an entry into a state respects a relation of states, does not depend
on whether the entry before it was read first, and does not depend on the order
inside its value; a key with entries inside it is refused. -/
structure OrderFreeStep {σ : Type} (related : σ → σ → Prop)
    (step : σ → Value × Value → Except Error σ) : Prop where
  reflexive : ∀ state, related state state
  respects : ∀ ⦃state other⦄, related state other → ∀ entry,
    Follows related (step state entry) (step other entry)
  exchange : ∀ state first second, (Entries.names [first, second]).Nodup →
    Follows related (step state first >>= (step · second)) (step state second >>= (step · first))
  inside : ∀ state key ⦃value other⦄, Swap value other → value.DistinctNames →
    Follows related (step state (key, value)) (step state (key, other))
  refuses : ∀ state ⦃key other⦄, Swap key other → ∀ content,
    ∃ error, step state (key, content) = .error error

namespace OrderFreeStep

variable {σ : Type} {related : σ → σ → Prop} {step : σ → Value × Value → Except Error σ}

/-- From related states the same entries lead to related states. -/
theorem foldlM_respects (free : OrderFreeStep related step) (entries : Entries) {state other : σ}
    (relation : related state other) :
    Follows related (entries.foldlM step state) (entries.foldlM step other) := by
  induction entries generalizing state other with
  | nil => exact Follows.ok relation
  | cons entry rest ih =>
      rw [List.foldlM_cons, List.foldlM_cons]
      exact Follows.bind (free.respects relation entry) fun _ _ next => ih next

/-- The entries of mappings that differ by one exchange lead to related states. -/
theorem foldlM_of_swap (free : OrderFreeStep related step) {entries others : Entries}
    (swap : Swap (.mapping entries) (.mapping others))
    (distinct : (Value.mapping entries).DistinctNames) (state : σ) :
    Follows related (entries.foldlM step state) (others.foldlM step state) := by
  rw [Value.DistinctNames, Yaml.Value.throughout_mapping_iff] at distinct
  cases swap with
  | entries before after first second =>
      have pair : (Entries.names [first, second]).Nodup := by
        refine distinct.1.sublist (List.Sublist.filterMap _ ?_)
        refine List.Sublist.trans ?_ (List.sublist_append_right before _)
        exact List.Sublist.cons_cons first (List.Sublist.cons_cons second (List.nil_sublist after))
      rw [List.foldlM_append, List.foldlM_append]
      apply Follows.bind_of_eq
      intro reached
      simp only [List.foldlM_cons, ← bind_assoc]
      exact Follows.bind (free.exchange reached first second pair)
        fun _ _ next => free.foldlM_respects after next
  | @key key other before after content inside =>
      rw [List.foldlM_append, List.foldlM_append]
      apply Follows.bind_of_eq
      intro reached
      rcases free.refuses reached inside content with ⟨error, failure⟩
      rw [List.foldlM_cons, failure]
      exact Follows.of_error rfl _
  | @content content other before after key inside =>
      rw [List.foldlM_append, List.foldlM_append]
      apply Follows.bind_of_eq
      intro reached
      rw [List.foldlM_cons, List.foldlM_cons]
      exact Follows.bind (free.inside reached key inside (distinct.2 (key, content) (by simp)))
        fun _ _ next => free.foldlM_respects after next

end OrderFreeStep

/-! ## Dictionaries -/

theorem readEntry_string {α : Type} (read : Reader α) (dictionary : Dictionary α)
    (name : String) (value : Value) :
    readEntry read dictionary (.string name, value) = (read value).map (dictionary.insert name) :=
  rfl

/-- A key that is no string is refused. -/
theorem readEntry_of_name?_eq_none {α : Type} (read : Reader α) (dictionary : Dictionary α)
    {key : Value} (noName : key.name? = none) (value : Value) :
    ∃ error, readEntry read dictionary (key, value) = .error error := by
  cases key with
  | string name => cases noName
  | null | bool _ | number _ | sequence _ | mapping _ | tagged _ _ => exact ⟨_, rfl⟩

/-- Entries with different names are read into a dictionary in either order. -/
theorem readEntry_exchange {α : Type} {related : α → α → Prop} {read : Reader α}
    (reflexive : ∀ result, related result result) (dictionary : Dictionary α)
    {first second : Value × Value} (distinct : (Entries.names [first, second]).Nodup) :
    Follows (Dictionary.Same related)
      (readEntry read dictionary first >>= (readEntry read · second))
      (readEntry read dictionary second >>= (readEntry read · first)) := by
  rcases first with ⟨key, value⟩
  rcases second with ⟨otherKey, otherValue⟩
  cases found : key.name? with
  | none =>
      rcases readEntry_of_name?_eq_none read dictionary found value with ⟨error, failure⟩
      rw [failure]
      exact Follows.of_error rfl _
  | some name =>
      cases otherFound : otherKey.name? with
      | none =>
          cases readEntry read dictionary (key, value) with
          | error error => exact Follows.of_error rfl _
          | ok reached =>
              rcases readEntry_of_name?_eq_none read reached otherFound otherValue with
                ⟨error, failure⟩
              exact Follows.of_error failure _
      | some otherName =>
          rw [Entries.names_cons, Entries.names_cons, found, otherFound] at distinct
          have differ : otherName ≠ name := by
            simpa [eq_comm] using distinct
          rw [Value.name?_eq_some_iff.mp found, Value.name?_eq_some_iff.mp otherFound]
          simp only [readEntry_string]
          cases read value with
          | error error => exact Follows.of_error rfl _
          | ok content =>
              cases read otherValue with
              | error error => exact Follows.of_error rfl _
              | ok otherContent =>
                  apply Follows.ok
                  rw [Dictionary.insert_comm dictionary differ]
                  exact Dictionary.Same.refl reflexive _

theorem readEntry_orderFreeStep {α : Type} {related : α → α → Prop} {read : Reader α}
    (reflexive : ∀ result, related result result) (inner : OrderFree related read) :
    OrderFreeStep (Dictionary.Same related) (readEntry read) where
  reflexive := Dictionary.Same.refl reflexive
  respects := by
    intro dictionary other same entry
    apply Follows.bind_of_eq
    intro name
    apply Follows.bind_of_eq
    intro content
    exact Follows.ok (same.insert name (reflexive content))
  exchange dictionary _ _ distinct := readEntry_exchange reflexive dictionary distinct
  inside := by
    intro dictionary key value other swap distinct
    apply Follows.bind_of_eq
    intro name
    exact Follows.bind (inner swap distinct) fun _ _ relation =>
      Follows.ok ((Dictionary.Same.refl reflexive dictionary).insert name relation)
  refuses := by
    intro dictionary key other swap content
    exact readEntry_of_name?_eq_none read dictionary swap.name?_eq.1 content

theorem readDictionary_orderFree {α : Type} {related : α → α → Prop} {read : Reader α}
    (reflexive : ∀ result, related result result) (inner : OrderFree related read) :
    OrderFree (Dictionary.Same related) (readDictionary read) := by
  have free := readEntry_orderFreeStep reflexive inner
  refine orderFree_of_parts ?_ (fun _ _ _ _ _ _ => Follows.of_error rfl _) (fun _ _ => ⟨_, rfl⟩)
  exact fun swap distinct => free.foldlM_of_swap swap distinct Dictionary.empty

theorem readDictionary_orderFree_eq {α : Type} {read : Reader α} (inner : OrderFree Eq read) :
    OrderFree Eq (readDictionary read) := by
  intro value other swap distinct result success
  rcases readDictionary_orderFree (fun _ => rfl) inner swap distinct result success with
    ⟨otherResult, otherSuccess, same⟩
  exact ⟨otherResult, otherSuccess, same.eq⟩

/-! ## Records -/

variable {α : Type}

/-- Two changes make related records of related ones. -/
def Tracks (same : α → α → Prop) (change other : α → α) : Prop :=
  ∀ ⦃record counterpart⦄, same record counterpart → same (change record) (other counterpart)

namespace Field

/-- What the field makes of a record respects a relation of records, and does not
depend on the order inside its value. -/
structure OrderFree (same : α → α → Prop) (field : Field α) : Prop where
  respects : ∀ value, Follows (Tracks same) (field.read value) (field.read value)
  inside : Shape.OrderFree (Tracks same) field.read

/-- Two fields change different parts of a record. -/
def Commutes (field other : Field α) : Prop :=
  ∀ ⦃value content change otherChange⦄, field.read value = .ok change →
    other.read content = .ok otherChange →
    ∀ record, change (otherChange record) = otherChange (change record)

theorem Commutes.symm {field other : Field α} (commutes : Commutes field other) :
    Commutes other field :=
  fun _ _ _ _ success otherSuccess record => (commutes otherSuccess success record).symm

/-- Putting related parts into related records keeps them related. -/
theorem of_orderFree {β : Type} {same : α → α → Prop} {related : β → β → Prop} {name : String}
    {read : Reader β} {put : β → α → α} {secondName : Option String}
    (reflexive : ∀ part, related part part) (inner : Shape.OrderFree related read)
    (puts : ∀ part other, related part other → Tracks same (put part) (put other)) :
    OrderFree same (.of name read put secondName) where
  respects value := Follows.map (Follows.refl reflexive (read value)) puts
  inside _ _ swap distinct := Follows.map (inner swap distinct) puts

theorem of_orderFree_eq {β : Type} {name : String} {read : Reader β} {put : β → α → α}
    {secondName : Option String} (inner : Shape.OrderFree Eq read) :
    OrderFree Eq (.of name read put secondName) := by
  apply of_orderFree (fun _ => rfl) inner
  rintro part _ rfl record _ rfl
  rfl

theorem of_commutes {β γ : Type} {name otherName : String} {read : Reader β} {otherRead : Reader γ}
    {put : β → α → α} {otherPut : γ → α → α} {secondName otherSecondName : Option String}
    (commute : ∀ part other record, put part (otherPut other record) =
      otherPut other (put part record)) :
    Commutes (.of name read put secondName) (.of otherName otherRead otherPut otherSecondName) := by
  intro value content change otherChange success otherSuccess record
  change (read value).map put = .ok change at success
  change (otherRead content).map otherPut = .ok otherChange at otherSuccess
  cases found : read value with
  | error error =>
      rw [found] at success
      cases success
  | ok part =>
      cases otherFound : otherRead content with
      | error error =>
          rw [otherFound] at otherSuccess
          cases otherSuccess
      | ok other =>
          rw [found] at success
          rw [otherFound] at otherSuccess
          cases success
          cases otherSuccess
          exact commute part other record

end Field

namespace Record

/-- What an entry does to a record: nothing if it names no field, and otherwise
the field that it names is set, which was not set before. -/
inductive Sets (record : Record α) (entry : Value × Value) (progress : Progress α) :
    Progress α → Prop where
  | nothing (noField : record.field? entry.1 = .ok none) : Sets record entry progress progress
  | field {position : Nat} {field : Field α} {change : α → α}
      (named : record.field? entry.1 = .ok (some (position, field)))
      (fresh : position ∉ progress.positions) (success : field.read entry.2 = .ok change) :
      Sets record entry progress ⟨position :: progress.positions, change progress.result⟩

theorem setEntry_eq_ok_iff {record : Record α} {entry : Value × Value}
    {progress next : Progress α} :
    record.setEntry progress entry = .ok next ↔ Sets record entry progress next := by
  constructor
  · intro success
    unfold setEntry at success
    cases named : record.field? entry.1 with
    | error error =>
        rw [named] at success
        cases success
    | ok field? =>
        rw [named] at success
        cases field? with
        | none =>
            cases success
            exact Sets.nothing named
        | some placed =>
            rcases placed with ⟨position, field⟩
            by_cases known : position ∈ progress.positions
            · simp [bind, Except.bind, known] at success
            · cases read : field.read entry.2 with
              | error error => simp [bind, Except.bind, known, read] at success
              | ok change =>
                  simp only [bind, Except.bind, known, read, if_false] at success
                  cases success
                  exact Sets.field named known read
  · intro sets
    cases sets with
    | nothing noField =>
        unfold setEntry
        rw [noField]
        rfl
    | field named fresh success =>
        unfold setEntry
        rw [named]
        simp [bind, Except.bind, fresh, success, pure, Except.pure]

/-- A field that a key names is declared at its position. -/
theorem declared_of_field? {record : Record α} {key : Value} {position : Nat} {field : Field α}
    (named : record.field? key = .ok (some (position, field))) :
    record.fields[position]? = some field := by
  unfold field? at named
  cases found : record.position? key with
  | error error =>
      rw [found] at named
      cases named
  | ok position? =>
      rw [found] at named
      have placed : (position?.bind fun position =>
          (record.fields[position]?).map fun field => (position, field)) = some (position, field) :=
        Except.ok.inj named
      rcases Option.bind_eq_some_iff.mp placed with ⟨candidate, _, mapped⟩
      rcases Option.map_eq_some_iff.mp mapped with ⟨declared, found, pair⟩
      cases pair
      exact found

/-- A key with entries inside it names no field. -/
theorem setEntry_of_swap (record : Record α) (progress : Progress α) {key other : Value}
    (swap : Swap key other) (content : Value) :
    ∃ error, record.setEntry progress (key, content) = .error error := by
  cases swap <;> exact ⟨_, rfl⟩

/-- Progress with the same fields set and related records. -/
structure Progress.Same (same : α → α → Prop) (progress other : Progress α) : Prop where
  positions : ∀ position, position ∈ progress.positions ↔ position ∈ other.positions
  result : same progress.result other.result

/-- A record whose fields are free of order and change different parts of it. -/
structure Independent (same : α → α → Prop) (record : Record α) : Prop where
  reflexive : ∀ result, same result result
  fields : ∀ field ∈ record.fields, field.OrderFree same
  commute : record.fields.Pairwise Field.Commutes

namespace Independent

variable {same : α → α → Prop} {record : Record α}

theorem field_orderFree (independent : Independent same record) {key : Value} {position : Nat}
    {field : Field α} (named : record.field? key = .ok (some (position, field))) :
    field.OrderFree same :=
  independent.fields field (List.mem_of_getElem? (declared_of_field? named))

theorem commutes_of_ne (independent : Independent same record) {position place : Nat}
    {field other : Field α} (declared : record.fields[position]? = some field)
    (otherDeclared : record.fields[place]? = some other) (differ : position ≠ place) :
    field.Commutes other := by
  rcases List.getElem?_eq_some_iff.mp declared with ⟨bound, rfl⟩
  rcases List.getElem?_eq_some_iff.mp otherDeclared with ⟨otherBound, rfl⟩
  have ordered := List.pairwise_iff_getElem.mp independent.commute
  rcases Nat.lt_or_gt_of_ne differ with before | after
  · exact ordered _ _ bound otherBound before
  · exact (ordered _ _ otherBound bound after).symm

theorem progress_refl (independent : Independent same record) (progress : Progress α) :
    Progress.Same same progress progress :=
  ⟨fun _ => Iff.rfl, independent.reflexive _⟩

/-- The same entry takes records with the same progress to the same progress. -/
theorem setEntry_respects (independent : Independent same record) {progress other : Progress α}
    (agree : Progress.Same same progress other) (entry : Value × Value) :
    Follows (Progress.Same same) (record.setEntry progress entry)
      (record.setEntry other entry) := by
  intro next success
  cases setEntry_eq_ok_iff.mp success with
  | nothing noField => exact ⟨other, setEntry_eq_ok_iff.mpr (Sets.nothing noField), agree⟩
  | @field position field change named fresh read =>
      rcases (independent.field_orderFree named).respects _ change read with
        ⟨otherChange, otherRead, tracks⟩
      have otherFresh : position ∉ other.positions := by
        rwa [← agree.positions]
      refine ⟨_, setEntry_eq_ok_iff.mpr (Sets.field named otherFresh otherRead), ?_, ?_⟩
      · intro place
        rw [List.mem_cons, List.mem_cons, agree.positions]
      · exact tracks agree.result

/-- Whatever two entries do one after the other, they do the other way round. -/
theorem sets_exchange (independent : Independent same record) {first second : Value × Value}
    {progress middle result : Progress α} (firstSets : Sets record first progress middle)
    (secondSets : Sets record second middle result) :
    ∃ between other, Sets record second progress between ∧ Sets record first between other ∧
      Progress.Same same result other := by
  cases firstSets with
  | nothing noField =>
      exact ⟨result, result, secondSets, Sets.nothing noField, independent.progress_refl result⟩
  | @field position field change named fresh read =>
      cases secondSets with
      | nothing noField =>
          exact ⟨progress, _, Sets.nothing noField, Sets.field named fresh read,
            independent.progress_refl _⟩
      | @field place other otherChange otherNamed otherFresh otherRead =>
          rw [List.mem_cons, not_or] at otherFresh
          have stillFresh : position ∉ place :: progress.positions := by
            rw [List.mem_cons, not_or]
            exact ⟨fun equal => otherFresh.1 equal.symm, fresh⟩
          refine ⟨_, _, Sets.field otherNamed otherFresh.2 otherRead,
            Sets.field named stillFresh read, ?_, ?_⟩
          · intro candidate
            simp only [List.mem_cons]
            exact or_left_comm
          · have commutes := independent.commutes_of_ne (declared_of_field? named)
              (declared_of_field? otherNamed) (fun equal => otherFresh.1 equal.symm)
            rw [commutes read otherRead]
            exact independent.reflexive _

theorem setEntry_exchange (independent : Independent same record) (progress : Progress α)
    (first second : Value × Value) :
    Follows (Progress.Same same)
      (record.setEntry progress first >>= (record.setEntry · second))
      (record.setEntry progress second >>= (record.setEntry · first)) := by
  intro result success
  cases firstSuccess : record.setEntry progress first with
  | error error =>
      rw [firstSuccess] at success
      cases success
  | ok middle =>
      rw [firstSuccess] at success
      rcases independent.sets_exchange (setEntry_eq_ok_iff.mp firstSuccess)
        (setEntry_eq_ok_iff.mp success) with ⟨between, other, secondSets, firstSets, agree⟩
      refine ⟨other, ?_, agree⟩
      rw [setEntry_eq_ok_iff.mpr secondSets]
      exact setEntry_eq_ok_iff.mpr firstSets

/-- An exchange inside the value of an entry carries over to the record. -/
theorem setEntry_inside (independent : Independent same record) (progress : Progress α)
    (key : Value) {value other : Value} (swap : Swap value other)
    (distinct : value.DistinctNames) :
    Follows (Progress.Same same) (record.setEntry progress (key, value))
      (record.setEntry progress (key, other)) := by
  intro next success
  cases setEntry_eq_ok_iff.mp success with
  | nothing noField =>
      exact ⟨progress, setEntry_eq_ok_iff.mpr (Sets.nothing noField),
        independent.progress_refl progress⟩
  | @field position field change named fresh read =>
      rcases (independent.field_orderFree named).inside swap distinct change read with
        ⟨otherChange, otherRead, tracks⟩
      refine ⟨_, setEntry_eq_ok_iff.mpr (Sets.field named fresh otherRead), ?_, ?_⟩
      · exact fun _ => Iff.rfl
      · exact tracks (independent.reflexive _)

theorem setEntry_orderFreeStep (independent : Independent same record) :
    OrderFreeStep (Progress.Same same) record.setEntry where
  reflexive := independent.progress_refl
  respects _ _ agree entry := independent.setEntry_respects agree entry
  exchange progress first second _ := independent.setEntry_exchange progress first second
  inside progress key _ _ swap distinct := independent.setEntry_inside progress key swap distinct
  refuses progress _ _ swap content := record.setEntry_of_swap progress swap content

/-! ## Reading whole records -/

/-- Related records stay related when further items are set. -/
theorem follows_setItems (fields : List (Field α))
    (free : ∀ field ∈ fields, field.OrderFree same) (items : List Value) {result other : α}
    (relation : same result other) :
    Follows same (setItems fields items result) (setItems fields items other) := by
  induction fields generalizing items result other with
  | nil => exact Follows.ok relation
  | cons field rest ih =>
      rw [List.forall_mem_cons] at free
      cases items with
      | nil => exact Follows.ok relation
      | cons item later =>
          exact Follows.bind (free.1.respects item) fun _ _ tracks =>
            ih free.2 later (tracks relation)

/-- An exchange inside one item carries over to the record. -/
theorem follows_setItems_of_item (fields : List (Field α))
    (free : ∀ field ∈ fields, field.OrderFree same) (before after : List Value)
    {item counterpart : Value} (swap : Swap item counterpart) (distinct : item.DistinctNames)
    {result other : α} (relation : same result other) :
    Follows same (setItems fields (before ++ item :: after) result)
      (setItems fields (before ++ counterpart :: after) other) := by
  induction fields generalizing before result other with
  | nil => cases before <;> exact Follows.ok relation
  | cons field rest ih =>
      rw [List.forall_mem_cons] at free
      cases before with
      | nil =>
          exact Follows.bind (free.1.inside swap distinct) fun _ _ tracks =>
            follows_setItems rest free.2 after (tracks relation)
      | cons first others =>
          exact Follows.bind (free.1.respects first) fun _ _ tracks =>
            ih free.2 others (tracks relation)

/-- A record whose fields are free of order and change different parts of it is
read free of order. -/
theorem read_orderFree (independent : Independent same record) : OrderFree same record.read := by
  have free := independent.setEntry_orderFreeStep
  refine orderFree_of_parts ?_ ?_ (fun _ _ => ⟨_, rfl⟩)
  · intro entries others swap distinct
    exact Follows.bind (free.foldlM_of_swap swap distinct _) fun _ _ agree =>
      Follows.ok agree.result
  · intro before after item counterpart inside distinct
    rw [Value.DistinctNames, Yaml.Value.throughout_sequence_iff] at distinct
    apply Follows.bind (follows_setItems_of_item record.fields independent.fields before after
      inside (distinct item (by simp)) (independent.reflexive record.initial))
    intro result otherResult relation
    have sameLength :
        (before ++ item :: after).length = (before ++ counterpart :: after).length := by
      simp
    rw [sameLength]
    split
    · exact Follows.of_error rfl _
    · exact Follows.ok relation

end Independent

end Record

end Shape

end ManifestLint
