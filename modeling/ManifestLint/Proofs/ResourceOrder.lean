import ManifestLint.Proofs.OrderFree
import ManifestLint.Resource.Reading

/-!
# Reading resources whatever the order of entries

Rearranging the entries of a document gives the same resource or none.  Only the
values of environment variables may show the difference, since they are kept as
they are; resources are compared up to the order of entries inside those values.
-/

namespace ManifestLint

open ManifestLint.Yaml (Value Entries)
open ManifestLint.Yaml.Value (Swap Rearranged)
open ManifestLint.Shape

/-! ## Records without environment values -/

theorem Platform.record_independent : Platform.record.Independent Eq where
  reflexive _ := rfl
  fields := by
    simp only [Platform.record, List.forall_mem_cons]
    exact ⟨Field.of_orderFree_eq readString_orderFree,
      Field.of_orderFree_eq readString_orderFree, Field.of_orderFree_eq readString_orderFree,
      Field.of_orderFree_eq readString_orderFree, List.forall_mem_nil _⟩
  commute := by
    simp only [Platform.record, List.pairwise_cons, List.forall_mem_cons, List.not_mem_nil,
      false_implies, implies_true, List.Pairwise.nil, and_true]
    and_intros <;> exact Field.of_commutes fun _ _ _ => rfl

theorem Build.record_independent : Build.record.Independent Eq where
  reflexive _ := rfl
  fields := by
    simp only [Build.record, List.forall_mem_cons]
    exact ⟨Field.of_orderFree_eq readString_orderFree,
      Field.of_orderFree_eq readString_orderFree, Field.of_orderFree_eq readString_orderFree,
      Field.of_orderFree_eq (readDictionary_orderFree_eq readString_orderFree),
      Field.of_orderFree_eq (readDictionary_orderFree_eq readString_orderFree),
      Field.of_orderFree_eq (readList_orderFree_eq readString_orderFree), List.forall_mem_nil _⟩
  commute := by
    simp only [Build.record, List.pairwise_cons, List.forall_mem_cons, List.not_mem_nil,
      false_implies, implies_true, List.Pairwise.nil, and_true]
    and_intros <;> exact Field.of_commutes fun _ _ _ => rfl

theorem HostPath.record_independent : HostPath.record.Independent Eq where
  reflexive _ := rfl
  fields := by
    simp only [HostPath.record, List.forall_mem_cons]
    exact ⟨Field.of_orderFree_eq readString_orderFree, List.forall_mem_nil _⟩
  commute := List.pairwise_singleton _ _

theorem TemporaryDirectory.record_independent : TemporaryDirectory.record.Independent Eq where
  reflexive _ := rfl
  fields := by
    simp only [TemporaryDirectory.record, List.forall_mem_cons]
    exact ⟨Field.of_orderFree_eq readString_orderFree,
      Field.of_orderFree_eq (readOption_orderFree readWord64_orderFree), List.forall_mem_nil _⟩
  commute := List.pairwise_pair.mpr (Field.of_commutes fun _ _ _ => rfl)

theorem Volume.record_independent : Volume.record.Independent Eq where
  reflexive _ := rfl
  fields := by
    simp only [Volume.record, List.forall_mem_cons]
    exact ⟨Field.of_orderFree_eq readString_orderFree,
      Field.of_orderFree_eq (readOption_orderFree HostPath.record_independent.read_orderFree),
      Field.of_orderFree_eq
        (readOption_orderFree TemporaryDirectory.record_independent.read_orderFree),
      List.forall_mem_nil _⟩
  commute := by
    simp only [Volume.record, List.pairwise_cons, List.forall_mem_cons, List.not_mem_nil,
      false_implies, implies_true, List.Pairwise.nil, and_true]
    and_intros <;> exact Field.of_commutes fun _ _ _ => rfl

theorem Device.record_independent : Device.record.Independent Eq where
  reflexive _ := rfl
  fields := by
    simp only [Device.record, List.forall_mem_cons]
    exact ⟨Field.of_orderFree_eq readString_orderFree,
      Field.of_orderFree_eq readString_orderFree, List.forall_mem_nil _⟩
  commute := List.pairwise_pair.mpr (Field.of_commutes fun _ _ _ => rfl)

theorem Mount.record_independent : Mount.record.Independent Eq where
  reflexive _ := rfl
  fields := by
    simp only [Mount.record, List.forall_mem_cons]
    exact ⟨Field.of_orderFree_eq readString_orderFree,
      Field.of_orderFree_eq readString_orderFree, List.forall_mem_nil _⟩
  commute := List.pairwise_pair.mpr (Field.of_commutes fun _ _ _ => rfl)

theorem PortMapping.record_independent : PortMapping.record.Independent Eq where
  reflexive _ := rfl
  fields := by
    simp only [PortMapping.record, List.forall_mem_cons]
    exact ⟨Field.of_orderFree_eq readWord16_orderFree,
      Field.of_orderFree_eq (readOption_orderFree readWord16_orderFree),
      Field.of_orderFree_eq (readOption_orderFree readString_orderFree), List.forall_mem_nil _⟩
  commute := by
    simp only [PortMapping.record, List.pairwise_cons, List.forall_mem_cons, List.not_mem_nil,
      false_implies, implies_true, List.Pairwise.nil, and_true]
    and_intros <;> exact Field.of_commutes fun _ _ _ => rfl

theorem PortMapping.read_orderFree : OrderFree Eq PortMapping.read := by
  intro value other swap distinct
  apply Follows.bind (PortMapping.record_independent.read_orderFree swap distinct)
  rintro draft _ rfl
  exact Follows.refl (fun _ => rfl) _

/-- What holds entries is no number, so only the long form of a port is left. -/
theorem Port.read_orderFree : OrderFree Eq Port.read := by
  have long : ∀ {value other : Value}, Swap value other →
      ∃ error, readWord16 value = .error error := by
    intro value other swap
    cases swap <;> exact ⟨_, rfl⟩
  intro value other swap distinct result success
  rcases long swap with ⟨error, failure⟩
  rcases long swap.symm with ⟨otherError, otherFailure⟩
  cases found : PortMapping.read value with
  | error reason =>
      rw [Port.read, failure, found] at success
      cases success
  | ok mapping =>
      rcases PortMapping.read_orderFree swap distinct mapping found with ⟨_, otherFound, rfl⟩
      rw [Port.read, failure, found] at success
      cases success
      refine ⟨.mapping mapping, ?_, rfl⟩
      rw [Port.read, otherFailure, otherFound]

theorem Secret.record_independent : Secret.record.Independent Eq where
  reflexive _ := rfl
  fields := by
    simp only [Secret.record, List.forall_mem_cons]
    exact ⟨Field.of_orderFree_eq readString_orderFree,
      Field.of_orderFree_eq readString_orderFree, List.forall_mem_nil _⟩
  commute := List.pairwise_pair.mpr (Field.of_commutes fun _ _ _ => rfl)

theorem Signature.record_independent : Signature.record.Independent Eq where
  reflexive _ := rfl
  fields := by
    simp only [Signature.record, List.forall_mem_cons]
    exact ⟨Field.of_orderFree_eq readString_orderFree, List.forall_mem_nil _⟩
  commute := List.pairwise_singleton _ _

/-! ## Containers and pipelines -/

/-- Any value is read as it is, so the order of its entries shows. -/
theorem readValue_orderFree : OrderFree Rearranged readValue :=
  fun _ _ swap _ => Follows.ok (Relation.ReflTransGen.single swap)

namespace Container

/-- Two containers differ at most in the order of entries inside the values of
their environment. -/
structure Same (container other : Container) : Prop where
  environment : container.environment.Same Rearranged other.environment
  rest : { container with environment := other.environment } = other

theorem Same.refl (container : Container) : Same container container :=
  ⟨Dictionary.Same.refl Rearranged.refl container.environment, rfl⟩

theorem Same.trans (first second third : Container) (early : Same first second)
    (late : Same second third) : Same first third := by
  constructor
  · exact Dictionary.Same.trans (fun _ _ _ first second => first.trans second)
      early.environment late.environment
  · rw [← late.rest, ← early.rest]

/-- A field besides the environment leaves the environment as it is. -/
theorem field_orderFree {β : Type} {name : String} {read : Reader β}
    {put : β → Container → Container} {secondName : Option String} (inner : OrderFree Eq read)
    (keeps : ∀ part container, (put part container).environment = container.environment)
    (commutes : ∀ part container environment, { put part container with environment } =
      put part { container with environment }) :
    Field.OrderFree Same (.of name read put secondName) := by
  apply Field.of_orderFree (fun _ => rfl) inner
  rintro part _ rfl container other same
  constructor
  · rw [keeps, keeps]
    exact same.environment
  · rw [keeps, commutes, same.rest]

/-- The environment shows the order of the entries inside its values. -/
theorem environment_orderFree :
    Field.OrderFree Same (.of "environment" (readDictionary readValue)
      fun environment container => { container with environment }) := by
  apply Field.of_orderFree (Dictionary.Same.refl Rearranged.refl)
    (readDictionary_orderFree Rearranged.refl readValue_orderFree)
  intro environment counterpart relation container other same
  constructor
  · exact relation
  · rw [← same.rest]

theorem record_independent : Container.record.Independent Same where
  reflexive := Same.refl
  fields := by
    simp only [Container.record, List.forall_mem_cons]
    exact ⟨field_orderFree readString_orderFree (fun _ _ => rfl) (fun _ _ _ => rfl),
      field_orderFree readString_orderFree (fun _ _ => rfl) (fun _ _ _ => rfl),
      field_orderFree (readList_orderFree_eq readString_orderFree)
        (fun _ _ => rfl) (fun _ _ _ => rfl),
      environment_orderFree,
      field_orderFree readBool_orderFree (fun _ _ => rfl) (fun _ _ _ => rfl),
      field_orderFree readBool_orderFree (fun _ _ => rfl) (fun _ _ _ => rfl),
      field_orderFree (readList_orderFree_eq Device.record_independent.read_orderFree)
        (fun _ _ => rfl) (fun _ _ _ => rfl),
      field_orderFree (readList_orderFree_eq Port.read_orderFree)
        (fun _ _ => rfl) (fun _ _ _ => rfl),
      field_orderFree (readList_orderFree_eq readString_orderFree)
        (fun _ _ => rfl) (fun _ _ _ => rfl),
      field_orderFree (readList_orderFree_eq readString_orderFree)
        (fun _ _ => rfl) (fun _ _ _ => rfl),
      field_orderFree (readList_orderFree_eq readString_orderFree)
        (fun _ _ => rfl) (fun _ _ _ => rfl),
      field_orderFree readString_orderFree (fun _ _ => rfl) (fun _ _ _ => rfl),
      field_orderFree (readList_orderFree_eq Mount.record_independent.read_orderFree)
        (fun _ _ => rfl) (fun _ _ _ => rfl),
      field_orderFree (readList_orderFree_eq readString_orderFree)
        (fun _ _ => rfl) (fun _ _ _ => rfl),
      List.forall_mem_nil _⟩
  commute := by
    simp only [Container.record, List.pairwise_cons, List.forall_mem_cons, List.not_mem_nil,
      false_implies, implies_true, List.Pairwise.nil, and_true]
    and_intros <;> exact Field.of_commutes fun _ _ _ => rfl

end Container

namespace Pipeline

/-- Two pipelines differ at most in the order of entries inside the values of
their environments. -/
structure Same (pipeline other : Pipeline) : Prop where
  services : List.Forall₂ Container.Same pipeline.services other.services
  steps : List.Forall₂ Container.Same pipeline.steps other.steps
  rest : { pipeline with services := other.services, steps := other.steps } = other

theorem containers_same (containers : List Container) :
    List.Forall₂ Container.Same containers containers :=
  List.forall₂_same.mpr fun container _ => Container.Same.refl container

theorem Same.refl (pipeline : Pipeline) : Same pipeline pipeline :=
  ⟨containers_same pipeline.services, containers_same pipeline.steps, rfl⟩

theorem Same.trans (first second third : Pipeline) (early : Same first second)
    (late : Same second third) : Same first third := by
  constructor
  · exact forall₂_trans Container.Same.trans early.services late.services
  · exact forall₂_trans Container.Same.trans early.steps late.steps
  · rw [← late.rest, ← early.rest]

/-- A field besides the containers leaves the containers as they are. -/
theorem field_orderFree {β : Type} {name : String} {read : Reader β}
    {put : β → Pipeline → Pipeline} {secondName : Option String} (inner : OrderFree Eq read)
    (keepsServices : ∀ part pipeline, (put part pipeline).services = pipeline.services)
    (keepsSteps : ∀ part pipeline, (put part pipeline).steps = pipeline.steps)
    (commutes : ∀ part pipeline services steps, { put part pipeline with services, steps } =
      put part { pipeline with services, steps }) :
    Field.OrderFree Same (.of name read put secondName) := by
  apply Field.of_orderFree (fun _ => rfl) inner
  rintro part _ rfl pipeline other same
  constructor
  · rw [keepsServices, keepsServices]
    exact same.services
  · rw [keepsSteps, keepsSteps]
    exact same.steps
  · rw [keepsServices, keepsSteps, commutes, same.rest]

theorem readContainers_orderFree :
    OrderFree (List.Forall₂ Container.Same) (readList Container.record.read) :=
  readList_orderFree Container.Same.refl Container.record_independent.read_orderFree

theorem services_orderFree :
    Field.OrderFree Same (.of "services" (readList Container.record.read)
      fun services pipeline => { pipeline with services }) := by
  apply Field.of_orderFree containers_same readContainers_orderFree
  intro services counterparts relation pipeline other same
  constructor
  · exact relation
  · exact same.steps
  · rw [← same.rest]

theorem steps_orderFree :
    Field.OrderFree Same (.of "steps" (readList Container.record.read)
      fun steps pipeline => { pipeline with steps }) := by
  apply Field.of_orderFree containers_same readContainers_orderFree
  intro steps counterparts relation pipeline other same
  constructor
  · exact same.services
  · exact relation
  · rw [← same.rest]

theorem record_independent : Pipeline.record.Independent Same where
  reflexive := Same.refl
  fields := by
    simp only [Pipeline.record, List.forall_mem_cons]
    exact ⟨field_orderFree readString_orderFree
        (fun _ _ => rfl) (fun _ _ => rfl) (fun _ _ _ _ => rfl),
      field_orderFree readString_orderFree
        (fun _ _ => rfl) (fun _ _ => rfl) (fun _ _ _ _ => rfl),
      field_orderFree Platform.record_independent.read_orderFree
        (fun _ _ => rfl) (fun _ _ => rfl) (fun _ _ _ _ => rfl),
      field_orderFree (readOption_orderFree Build.record_independent.read_orderFree)
        (fun _ _ => rfl) (fun _ _ => rfl) (fun _ _ _ _ => rfl),
      field_orderFree (readList_orderFree_eq Volume.record_independent.read_orderFree)
        (fun _ _ => rfl) (fun _ _ => rfl) (fun _ _ _ _ => rfl),
      services_orderFree,
      steps_orderFree,
      field_orderFree (readList_orderFree_eq readString_orderFree)
        (fun _ _ => rfl) (fun _ _ => rfl) (fun _ _ _ _ => rfl),
      List.forall_mem_nil _⟩
  commute := by
    simp only [Pipeline.record, List.pairwise_cons, List.forall_mem_cons, List.not_mem_nil,
      false_implies, implies_true, List.Pairwise.nil, and_true]
    and_intros <;> exact Field.of_commutes fun _ _ _ => rfl

end Pipeline

namespace Resource

/-- Two resources differ at most in the order of entries inside environment
values. -/
inductive Same : Resource → Resource → Prop where
  | pipeline {declared other : Pipeline} (same : Pipeline.Same declared other) :
      Same (.pipeline declared) (.pipeline other)
  | secret (declared : Secret) : Same (.secret declared) (.secret declared)
  | signature (declared : Signature) : Same (.signature declared) (.signature declared)

theorem Same.refl (resource : Resource) : Same resource resource := by
  cases resource with
  | pipeline declared => exact Same.pipeline (Pipeline.Same.refl declared)
  | secret declared => exact Same.secret declared
  | signature declared => exact Same.signature declared

theorem Same.trans (first second third : Resource) (early : Same first second)
    (late : Same second third) : Same first third := by
  cases early with
  | pipeline same =>
      cases late with
      | pipeline next => exact Same.pipeline (Pipeline.Same.trans _ _ _ same next)
  | secret declared => exact late
  | signature declared => exact late

/-! ## Resources -/

theorem readFields_orderFree (kind : Kind) : OrderFree Same (readFields kind) := by
  intro value other swap distinct
  cases kind with
  | pipeline =>
      exact Follows.map (Pipeline.record_independent.read_orderFree swap distinct)
        fun _ _ same => Same.pipeline same
  | secret =>
      apply Follows.map (Secret.record_independent.read_orderFree swap distinct)
      rintro declared _ rfl
      exact Same.secret declared
  | signature =>
      apply Follows.map (Signature.record_independent.read_orderFree swap distinct)
      rintro declared _ rfl
      exact Same.signature declared

/-- The values under the name of the kind. -/
def kindValues (entries : Entries) : List Value :=
  (entries.filter fun entry => Value.same entry.1 (.string "kind")).map Prod.snd

/-- The entries besides the kind. -/
def unkinded (entries : Entries) : Entries :=
  entries.filter fun entry => !Value.same entry.1 (.string "kind")

theorem kindValues_append (entries others : Entries) :
    kindValues (entries ++ others) = kindValues entries ++ kindValues others := by
  rw [kindValues, List.filter_append, List.map_append, ← kindValues, ← kindValues]

theorem unkinded_append (entries others : Entries) :
    unkinded (entries ++ others) = unkinded entries ++ unkinded others :=
  List.filter_append ..

theorem kindValues_cons_kind (value : Value) (rest : Entries) :
    kindValues ((.string "kind", value) :: rest) = value :: kindValues rest := by
  simp [kindValues, Value.same_string_iff]

theorem unkinded_cons_kind (value : Value) (rest : Entries) :
    unkinded ((.string "kind", value) :: rest) = unkinded rest := by
  simp [unkinded, Value.same_string_iff]

theorem kindValues_cons_of_ne {key : Value} (notKind : key ≠ .string "kind") (value : Value)
    (rest : Entries) : kindValues ((key, value) :: rest) = kindValues rest := by
  simp [kindValues, Value.same_string_iff, notKind]

theorem unkinded_cons_of_ne {key : Value} (notKind : key ≠ .string "kind") (value : Value)
    (rest : Entries) : unkinded ((key, value) :: rest) = (key, value) :: unkinded rest := by
  simp [unkinded, List.filter_cons, Value.same_string_iff, notKind]

theorem hasTag_mapping_cons {entry : Value × Value} {rest : Entries} :
    (Value.mapping (entry :: rest)).hasTag = false ↔
      (entry.1.hasTag = false ∧ entry.2.hasTag = false) ∧ (Value.mapping rest).hasTag = false := by
  simp only [Value.hasTag, Value.anyEntryHasTag, Bool.or_eq_false_iff]

theorem splitKind_cons_of_ne {key : Value} (notKind : key ≠ .string "kind") (value : Value)
    (rest : Entries) (kind : Option Kind) :
    splitKind ((key, value) :: rest) kind =
      if key.hasTag || value.hasTag then .error .unsupportedTag
      else do
        let (found, others) ← splitKind rest kind
        return (found, (key, value) :: others) := by
  rw [splitKind]
  exact fun isKind => notKind isKind

/-- The kind is looked for among the entries, and the others are kept, unless a
local tag stands in them. -/
theorem splitKind_of_ne_eq_ok_iff {key : Value} (notKind : key ≠ .string "kind") {value : Value}
    {rest others : Entries} {kind found : Option Kind} :
    splitKind ((key, value) :: rest) kind = .ok (found, others) ↔
      (key.hasTag = false ∧ value.hasTag = false) ∧
        ∃ remaining, splitKind rest kind = .ok (found, remaining) ∧
          others = (key, value) :: remaining := by
  rw [splitKind_cons_of_ne notKind]
  by_cases tags : key.hasTag = false ∧ value.hasTag = false
  · rw [tags.1, tags.2]
    cases splitKind rest kind with
    | error error => simp [bind, Except.bind]
    | ok split =>
        rcases split with ⟨splitFound, remaining⟩
        simp only [bind, Except.bind, pure, Except.pure, Bool.or_self, Bool.false_eq_true,
          if_false, Except.ok.injEq, Prod.mk.injEq, and_self, true_and]
        constructor
        · rintro ⟨rfl, rfl⟩
          exact ⟨remaining, ⟨rfl, rfl⟩, rfl⟩
        · rintro ⟨_, ⟨rfl, rfl⟩, rfl⟩
          exact ⟨rfl, rfl⟩
  · have tagged : (key.hasTag || value.hasTag) = true := by
      rw [Bool.or_eq_true]
      by_cases inKey : key.hasTag = true
      · exact Or.inl inKey
      · exact Or.inr (by simpa using fun none => tags ⟨by simpa using inKey, none⟩)
    rw [if_pos tagged]
    simp [tags]

/-- Once the kind is found, the rest of the entries are all others. -/
theorem splitKind_some_eq_ok_iff {entries others : Entries} {kind : Kind} {found : Option Kind} :
    splitKind entries (some kind) = .ok (found, others) ↔
      found = some kind ∧ kindValues entries = [] ∧ others = unkinded entries ∧
        (Value.mapping (unkinded entries)).hasTag = false := by
  induction entries generalizing others with
  | nil =>
      rw [splitKind, Except.ok.injEq, Prod.mk.injEq]
      constructor
      · rintro ⟨rfl, rfl⟩
        exact ⟨rfl, rfl, rfl, rfl⟩
      · rintro ⟨rfl, _, rfl, _⟩
        exact ⟨rfl, rfl⟩
  | cons entry rest ih =>
      rcases entry with ⟨key, value⟩
      by_cases isKind : key = .string "kind"
      · subst isKind
        rw [kindValues_cons_kind]
        simp [splitKind]
      · rw [splitKind_of_ne_eq_ok_iff isKind, kindValues_cons_of_ne isKind,
          unkinded_cons_of_ne isKind, hasTag_mapping_cons]
        simp only [ih]
        constructor
        · rintro ⟨tags, remaining, ⟨rfl, noKind, rfl, tagless⟩, rfl⟩
          exact ⟨rfl, noKind, rfl, tags, tagless⟩
        · rintro ⟨rfl, noKind, rfl, tags, tagless⟩
          exact ⟨tags, _, ⟨rfl, noKind, rfl, tagless⟩, rfl⟩

/-- A document has a kind if exactly one entry names it with a word for a kind,
and no local tag stands in the others. -/
theorem splitKind_eq_ok_iff {entries others : Entries} {kind : Kind} :
    splitKind entries none = .ok (some kind, others) ↔
      (∃ value, kindValues entries = [value] ∧ Kind.read value = .ok kind) ∧
        others = unkinded entries ∧ (Value.mapping (unkinded entries)).hasTag = false := by
  induction entries generalizing others with
  | nil => simp [splitKind, kindValues]
  | cons entry rest ih =>
      rcases entry with ⟨key, value⟩
      by_cases isKind : key = .string "kind"
      · subst isKind
        rw [kindValues_cons_kind, unkinded_cons_kind]
        have step : splitKind ((.string "kind", value) :: rest) none =
            Kind.read value >>= fun found => splitKind rest (some found) := rfl
        rw [step]
        cases read : Kind.read value with
        | error error =>
            constructor
            · intro success
              cases success
            · rintro ⟨⟨_, single, success⟩, _⟩
              rw [← (List.cons.inj single).1, read] at success
              cases success
        | ok found =>
            have rest_split := @splitKind_some_eq_ok_iff rest others found (some kind)
            rw [show (Except.ok found >>= fun found => splitKind rest (some found)) =
              splitKind rest (some found) from rfl, rest_split]
            constructor
            · rintro ⟨same, noKind, rfl, tagless⟩
              cases same
              rw [noKind]
              exact ⟨⟨value, rfl, read⟩, rfl, tagless⟩
            · rintro ⟨⟨_, single, success⟩, rfl, tagless⟩
              rcases List.cons.inj single with ⟨rfl, noKind⟩
              rw [read] at success
              cases success
              exact ⟨rfl, noKind, rfl, tagless⟩
      · rw [splitKind_of_ne_eq_ok_iff isKind, kindValues_cons_of_ne isKind,
          unkinded_cons_of_ne isKind, hasTag_mapping_cons]
        simp only [ih]
        constructor
        · rintro ⟨tags, remaining, ⟨kinds, rfl, tagless⟩, rfl⟩
          exact ⟨kinds, rfl, tags, tagless⟩
        · rintro ⟨kinds, rfl, tags, tagless⟩
          exact ⟨tags, _, ⟨kinds, rfl, tagless⟩, rfl⟩

/-- A kind is no value with entries inside it. -/
theorem Kind.read_of_swap {value other : Value} (swap : Swap value other) :
    ∃ error, Kind.read value = .error error := by
  induction swap with
  | entries | key | content | item => exact ⟨_, rfl⟩
  | tagged tag inside ih => exact ih

/-- Of two neighbours a filter keeps both, or it leaves the same of them in either
order. -/
theorem filter_pair {α : Type} (keep : α → Bool) (first second : α) :
    ([first, second].filter keep = [first, second] ∧
        [second, first].filter keep = [second, first]) ∨
      [first, second].filter keep = [second, first].filter keep := by
  cases keptFirst : keep first with
  | false => exact Or.inr (by simp [List.filter_cons, keptFirst])
  | true =>
      cases keptSecond : keep second with
      | false => exact Or.inr (by simp [keptFirst, keptSecond])
      | true => exact Or.inl (by simp [keptFirst, keptSecond])

/-- Two neighbours of which at most one is the kind leave the kind, and at most
change places among the others. -/
theorem split_of_neighbours (before after : Entries) (first second : Value × Value)
    {value : Value} (single : kindValues (before ++ first :: second :: after) = [value]) :
    kindValues (before ++ second :: first :: after) = [value] ∧
      (unkinded (before ++ second :: first :: after) =
          unkinded (before ++ first :: second :: after) ∨
        Swap (.mapping (unkinded (before ++ first :: second :: after)))
          (.mapping (unkinded (before ++ second :: first :: after)))) := by
  have apart (entry other : Value × Value) :
      before ++ entry :: other :: after = before ++ ([entry, other] ++ after) := rfl
  rw [apart, kindValues_append, kindValues_append] at single
  rw [apart, apart, kindValues_append, kindValues_append, unkinded_append, unkinded_append,
    unkinded_append, unkinded_append]
  constructor
  · rcases filter_pair (fun entry => Value.same entry.1 (.string "kind")) first second with
      ⟨kept, _⟩ | same
    · have tooMany := congrArg List.length single
      have both : kindValues [first, second] = [first.2, second.2] := congrArg (List.map _) kept
      rw [both] at tooMany
      simp only [List.length_append, List.length_cons, List.length_nil] at tooMany
      omega
    · have sameKinds : kindValues [first, second] = kindValues [second, first] :=
        congrArg (List.map _) same
      rwa [← sameKinds]
  · rcases filter_pair (fun entry => !Value.same entry.1 (.string "kind")) first second with
      ⟨kept, otherKept⟩ | same
    · have both : unkinded [first, second] = [first, second] := kept
      have otherBoth : unkinded [second, first] = [second, first] := otherKept
      rw [both, otherBoth]
      exact Or.inr (Swap.entries _ _ _ _)
    · have sameOthers : unkinded [first, second] = unkinded [second, first] := same
      rw [sameOthers]
      exact Or.inl rfl

/-- An exchange of entries leaves the kind, and at most exchanges the others. -/
theorem split_of_swap {entries others : Entries} (swap : Swap (.mapping entries) (.mapping others))
    {value : Value} (single : kindValues entries = [value]) {kind : Kind}
    (read : Kind.read value = .ok kind) :
    kindValues others = [value] ∧
      (unkinded others = unkinded entries ∨
        Swap (.mapping (unkinded entries)) (.mapping (unkinded others))) := by
  cases swap with
  | entries before after first second => exact split_of_neighbours before after first second single
  | @key key other before after content inside =>
      have notKind : key ≠ .string "kind" := by
        rintro rfl
        cases inside
      have otherNotKind : other ≠ .string "kind" := by
        rintro rfl
        cases inside
      rw [kindValues_append, kindValues_cons_of_ne notKind] at single
      rw [kindValues_append, kindValues_cons_of_ne otherNotKind, unkinded_append, unkinded_append,
        unkinded_cons_of_ne notKind, unkinded_cons_of_ne otherNotKind]
      exact ⟨single, Or.inr (Swap.key _ _ _ inside)⟩
  | @content content other before after key inside =>
      by_cases isKind : key = .string "kind"
      · subst isKind
        rw [kindValues_append, kindValues_cons_kind] at single
        have isValue : content ∈ [value] := by
          rw [← single]
          simp
        rw [← List.mem_singleton.mp isValue] at read
        rcases Kind.read_of_swap inside with ⟨error, failure⟩
        rw [failure] at read
        cases read
      · rw [kindValues_append, kindValues_cons_of_ne isKind] at single
        rw [kindValues_append, kindValues_cons_of_ne isKind, unkinded_append, unkinded_append,
          unkinded_cons_of_ne isKind, unkinded_cons_of_ne isKind]
        exact ⟨single, Or.inr (Swap.content _ _ _ inside)⟩

theorem read_mapping_eq_ok_iff {entries : Entries} {resource : Resource} :
    read (.mapping entries) = .ok resource ↔
      ∃ kind fields, splitKind entries none = .ok (some kind, fields) ∧
        readFields kind (.mapping fields) = .ok resource := by
  rw [read]
  constructor
  · intro success
    cases split : splitKind entries none with
    | error error =>
        rw [split] at success
        cases success
    | ok result =>
        rw [split] at success
        rcases result with ⟨found, fields⟩
        cases found with
        | none => cases success
        | some kind => exact ⟨kind, fields, rfl, success⟩
  · rintro ⟨kind, fields, split, success⟩
    rw [split]
    exact success

/-- The kind that a mapping has stays, so its fields are read as the same resource. -/
theorem follows_read_mapping {entries others : Entries}
    (swap : Swap (.mapping entries) (.mapping others))
    (distinct : (Value.mapping entries).DistinctNames) :
    Follows Same (read (.mapping entries)) (read (.mapping others)) := by
  intro resource success
  rcases read_mapping_eq_ok_iff.mp success with ⟨kind, fields, split, fieldsRead⟩
  rcases splitKind_eq_ok_iff.mp split with ⟨⟨value, single, kindRead⟩, rfl, tagless⟩
  rcases split_of_swap swap single kindRead with ⟨otherSingle, unchanged | exchanged⟩
  · rw [← unchanged] at fieldsRead tagless
    have otherSplit := splitKind_eq_ok_iff.mpr ⟨⟨value, otherSingle, kindRead⟩, rfl, tagless⟩
    exact ⟨resource, read_mapping_eq_ok_iff.mpr ⟨kind, _, otherSplit, fieldsRead⟩, Same.refl _⟩
  · have fieldsDistinct : (Value.mapping (unkinded entries)).DistinctNames :=
      distinct.sublist List.filter_sublist
    rcases readFields_orderFree kind exchanged fieldsDistinct resource fieldsRead with
      ⟨other, otherRead, same⟩
    rw [exchanged.hasTag_eq] at tagless
    have otherSplit := splitKind_eq_ok_iff.mpr ⟨⟨value, otherSingle, kindRead⟩, rfl, tagless⟩
    exact ⟨other, read_mapping_eq_ok_iff.mpr ⟨kind, _, otherSplit, otherRead⟩, same⟩

/-- The first item of a sequence is its kind, and the others are the fields. -/
theorem follows_read_sequence (before after : List Value) {item counterpart : Value}
    (inside : Swap item counterpart)
    (distinct : (Value.sequence (before ++ item :: after)).DistinctNames) :
    Follows Same (read (.sequence (before ++ item :: after)))
      (read (.sequence (before ++ counterpart :: after))) := by
  cases before with
  | nil =>
      rcases Kind.read_of_swap inside with ⟨error, failure⟩
      have refused : read (.sequence (item :: after)) = .error error := by
        rw [read, failure]
        rfl
      exact Follows.of_error refused _
  | cons first fields =>
      have exchanged : Swap (.sequence (fields ++ item :: after))
          (.sequence (fields ++ counterpart :: after)) := Swap.item fields after inside
      have fieldsDistinct : (Value.sequence (fields ++ item :: after)).DistinctNames := by
        rw [Value.DistinctNames, Value.throughout_sequence_iff] at distinct ⊢
        exact fun field member => distinct field (List.mem_cons_of_mem _ member)
      have sameTags := exchanged.hasTag_eq
      rw [Value.hasTag, Value.hasTag] at sameTags
      rw [List.cons_append, List.cons_append, read, read, sameTags]
      apply Follows.bind_of_eq
      intro kind
      split
      · exact Follows.of_error rfl _
      · exact readFields_orderFree kind exchanged fieldsDistinct

/-- Resources are read free of order. -/
theorem read_orderFree : OrderFree Same read :=
  orderFree_of_parts follows_read_mapping follows_read_sequence fun _ _ => ⟨_, rfl⟩

/-- A rearranged document is read as the same resource, if it is read at all. -/
theorem follows_read_of_rearranged {value other : Value} (rearranged : Rearranged value other)
    (distinct : value.DistinctNames) : Follows Same (read value) (read other) :=
  read_orderFree.follows_of_rearranged Same.refl Same.trans rearranged distinct

end Resource

end ManifestLint
