import ManifestLint.Proofs.InverseReaders
import Mathlib.Data.List.Induction
import Mathlib.Data.Option.Defs

/-!
# What values stand for

A meaning says, without reading it, what a value of some shape stands for, and which
values do not have the shape.  A reader is faithful to a meaning if it gives what the
value stands for and refuses exactly the values without the shape: it drops nothing,
makes nothing up, and lets nothing pass for something else.
-/

namespace ManifestLint

open ManifestLint.Yaml (Value Entries)

/-- The values under a name, in the order of their entries. -/
def Yaml.Entries.under (name : String) (entries : Entries) : List Value :=
  (entries.filter fun entry => entry.1.name? = some name).map Prod.snd

theorem Yaml.Entries.under_append (name : String) (entries others : Entries) :
    Entries.under name (entries ++ others) =
      Entries.under name entries ++ Entries.under name others := by
  rw [under, List.filter_append, List.map_append, ← under, ← under]

namespace Dictionary

theorem lookup_cons_eq_ite {α : Type} (name : String) (first : String × α)
    (rest : List (String × α)) :
    (first :: rest).lookup name = if name = first.1 then some first.2 else rest.lookup name := by
  rw [List.lookup_cons]
  by_cases same : name = first.1
  · simp [same]
  · rw [beq_false_of_ne same, if_neg same]

theorem find?_insert {α : Type} (dictionary : Dictionary α) (key name : String) (content : α) :
    (dictionary.insert key content).find? name =
      if name = key then some content else dictionary.find? name := by
  rcases dictionary with ⟨entries, ordered⟩
  simp only [find?, entries_insert]
  induction entries with
  | nil => exact lookup_cons_eq_ite name (key, content) []
  | cons first rest ih =>
      have parts := List.pairwise_cons.mp ordered
      rw [insertEntry]
      split
      · exact lookup_cons_eq_ite name (key, content) (first :: rest)
      · split
        · rename_i after
          have differ : first.1 ≠ key := fun same => String.lt_irrefl key (same ▸ after)
          rw [lookup_cons_eq_ite, lookup_cons_eq_ite, ih parts.2]
          by_cases same : name = first.1 <;> simp [same, differ]
        · rename_i notBefore notAfter
          have equal : first.1 = key := String.le_antisymm notBefore notAfter
          rw [lookup_cons_eq_ite, lookup_cons_eq_ite, equal]
          by_cases same : name = key <;> simp [same]

theorem lookup_eq_some_iff_mem {α : Type} {entries : List (String × α)}
    (ordered : entries.Pairwise fun left right => left.1 < right.1) {name : String} {content : α} :
    entries.lookup name = some content ↔ (name, content) ∈ entries := by
  induction entries with
  | nil => simp
  | cons first rest ih =>
      have parts := List.pairwise_cons.mp ordered
      rw [lookup_cons_eq_ite, List.mem_cons]
      by_cases same : name = first.1
      · subst same
        have behind : (first.1, content) ∉ rest :=
          fun member => String.lt_irrefl first.1 (parts.1 (first.1, content) member)
        rw [if_pos rfl, or_iff_left behind, Option.some.injEq, Prod.ext_iff]
        exact ⟨fun equal => ⟨rfl, equal.symm⟩, fun equal => equal.2.symm⟩
      · rw [if_neg same, ih parts.2, or_iff_right]
        exact fun equal => same (congrArg Prod.fst equal)

/-- A dictionary is known by what is found in it. -/
theorem ext_find? {α : Type} {dictionary other : Dictionary α}
    (same : ∀ name, dictionary.find? name = other.find? name) : dictionary = other := by
  have nodup (dictionary : Dictionary α) : dictionary.entries.Nodup := by
    apply dictionary.ordered.imp
    rintro first second before rfl
    exact String.lt_irrefl _ before
  have members : dictionary.entries.Perm other.entries := by
    rw [List.perm_ext_iff_of_nodup (nodup dictionary) (nodup other)]
    rintro ⟨name, content⟩
    rw [← lookup_eq_some_iff_mem dictionary.ordered, ← lookup_eq_some_iff_mem other.ordered]
    exact Eq.congr_left (same name)
  apply Dictionary.ext
  apply members.eq_of_pairwise _ dictionary.ordered other.ordered
  intro first second _ _ before after
  exact absurd before (String.lt_asymm after)

end Dictionary

namespace Shape

/-! ## Both ends of a computation -/

section Ends

variable {ε α β γ : Type}

/-- A computation that succeeds has a good result, and one that fails does so for a
bad reason. -/
def Ends (good : α → Prop) (bad : Prop) : Except ε α → Prop
  | .ok result => good result
  | .error _ => bad

theorem Ends.imp {good better : α → Prop} {bad worse : Prop} {outcome : Except ε α}
    (ends : Ends good bad outcome) (onSuccess : ∀ result, good result → better result)
    (onFailure : bad → worse) : Ends better worse outcome := by
  cases outcome with
  | ok result => exact onSuccess result ends
  | error _ => exact onFailure ends

theorem Ends.bind {middle : α → Prop} {good : β → Prop} {bad : Prop} {first : Except ε α}
    {next : α → Except ε β} (start : Ends middle bad first)
    (continuation : ∀ result, middle result → Ends good bad (next result)) :
    Ends good bad (first >>= next) := by
  cases first with
  | ok result => exact continuation result start
  | error _ => exact start

theorem Ends.map {middle : α → Prop} {good : β → Prop} {bad : Prop} {outcome : Except ε α}
    {change : α → β} (start : Ends middle bad outcome)
    (changed : ∀ result, middle result → good (change result)) :
    Ends good bad (outcome.map change) := by
  cases outcome with
  | ok result => exact changed result start
  | error _ => exact start

/-- Steps over a list end well as long as every step does, whatever came before. -/
theorem ends_foldlM {step : α → β → Except ε α} (good : List β → α → Prop)
    (bad : List β → Prop) {initial : α} (start : good [] initial)
    (onward : ∀ earlier state item, good earlier state →
      Ends (good (earlier ++ [item])) (bad (earlier ++ [item])) (step state item))
    (stays : ∀ earlier item, bad earlier → bad (earlier ++ [item])) (items : List β) :
    Ends (good items) (bad items) (items.foldlM step initial) := by
  induction items using List.reverseRecOn with
  | nil => exact start
  | append_singleton earlier item ih =>
      rw [List.foldlM_append]
      apply Ends.bind (ih.imp (fun _ => id) (stays earlier item))
      intro state reached
      rw [List.foldlM_cons]
      apply Ends.bind (onward earlier state item reached)
      exact fun _ => id

end Ends

variable {α β : Type}

/-! ## Meanings -/

/-- What a value of a shape stands for, and which values do not have the shape. -/
structure Meaning (α : Type) where
  Denotes : Value → α → Prop
  Misfits : Value → Prop

namespace Meaning

/-- An outcome agrees with a meaning if a result is what the value stands for, and
there is none exactly if the value does not have the shape. -/
def Agrees (meaning : Meaning α) (value : Value) : Except Error α → Prop :=
  Ends (fun result => meaning.Denotes value result ∧ ¬ meaning.Misfits value)
    (meaning.Misfits value)

/-- A value stands for something if it is written in the one way that there is. -/
def literal (write : α → Value) : Meaning α where
  Denotes value result := value = write result
  Misfits value := ∀ result, value ≠ write result

/-- Something made of what a value stands for. -/
def map (wrap : α → β) (meaning : Meaning α) : Meaning β where
  Denotes value result := ∃ content, result = wrap content ∧ meaning.Denotes value content
  Misfits := meaning.Misfits

/-- Null stands for nothing, and every other value for something. -/
def option (meaning : Meaning α) : Meaning (Option α) where
  Denotes value result :=
    (value = .null ∧ result = none) ∨
      value ≠ .null ∧ ∃ content, result = some content ∧ meaning.Denotes value content
  Misfits value := value ≠ .null ∧ meaning.Misfits value

/-- A sequence stands for what its items stand for, one by one. -/
def list (meaning : Meaning α) : Meaning (List α) where
  Denotes
    | .sequence items, results => List.Forall₂ meaning.Denotes items results
    | _, _ => False
  Misfits
    | .sequence items => ∃ item ∈ items, meaning.Misfits item
    | _ => True

/-- A mapping from strings stands for a dictionary with what the last value under
each name stands for.  (The keys of a mapping differ, so the last value is the only
one.) -/
def dictionary (meaning : Meaning α) : Meaning (Dictionary α) where
  Denotes
    | .mapping entries, dictionary => ∀ name,
        Option.Rel meaning.Denotes (Entries.under name entries).getLast? (dictionary.find? name)
    | _, _ => False
  Misfits
    | .mapping entries =>
        ∃ entry ∈ entries, (∀ name, entry.1 ≠ .string name) ∨ meaning.Misfits entry.2
    | _ => True

/-- A string. -/
def string : Meaning String :=
  literal .string

/-- A boolean. -/
def boolean : Meaning Bool :=
  literal .bool

/-- An integer that a word of sixteen bits holds. -/
def word16 : Meaning UInt16 :=
  literal fun word => .nat word.toNat

/-- An integer that a word of sixty-four bits holds. -/
def word64 : Meaning UInt64 :=
  literal fun word => .nat word.toNat

/-- Any value stands for itself. -/
def any : Meaning Value :=
  literal id

end Meaning

/-! ## Values stand for one thing -/

namespace Meaning

/-- A value stands for at most one thing. -/
def IsUnique (meaning : Meaning α) : Prop :=
  ∀ ⦃value result other⦄, meaning.Denotes value result → meaning.Denotes value other →
    result = other

theorem isUnique_literal {write : α → Value}
    (injective : ∀ result other, write result = write other → result = other) :
    (literal write).IsUnique :=
  fun _ result other denotes otherDenotes =>
    injective result other (denotes.symm.trans otherDenotes)

theorem isUnique_string : string.IsUnique :=
  isUnique_literal fun _ _ => Value.string.inj

theorem isUnique_boolean : boolean.IsUnique :=
  isUnique_literal fun _ _ => Value.bool.inj

theorem nat_inj {number other : Nat} (same : Value.nat number = Value.nat other) :
    number = other :=
  Int.ofNat.inj (Number.integer.inj (Value.number.inj same))

theorem isUnique_word16 : word16.IsUnique :=
  isUnique_literal fun _ _ same => UInt16.toNat_inj.mp (nat_inj same)

theorem isUnique_word64 : word64.IsUnique :=
  isUnique_literal fun _ _ same => UInt64.toNat_inj.mp (nat_inj same)

theorem isUnique_any : any.IsUnique :=
  isUnique_literal fun _ _ => id

theorem IsUnique.map {meaning : Meaning α} (unique : meaning.IsUnique) (wrap : α → β) :
    (meaning.map wrap).IsUnique := by
  rintro value _ _ ⟨content, rfl, denotes⟩ ⟨other, rfl, otherDenotes⟩
  rw [unique denotes otherDenotes]

theorem IsUnique.option {meaning : Meaning α} (unique : meaning.IsUnique) :
    meaning.option.IsUnique := by
  rintro value _ _ (⟨null, rfl⟩ | ⟨notNull, content, rfl, denotes⟩)
    (⟨otherNull, rfl⟩ | ⟨otherNotNull, other, rfl, otherDenotes⟩)
  · rfl
  · exact absurd null otherNotNull
  · exact absurd otherNull notNull
  · rw [unique denotes otherDenotes]

theorem IsUnique.list {meaning : Meaning α} (unique : meaning.IsUnique) :
    meaning.list.IsUnique := by
  intro value results others denote otherDenote
  cases value with
  | sequence items =>
      change List.Forall₂ meaning.Denotes items results at denote
      change List.Forall₂ meaning.Denotes items others at otherDenote
      induction denote generalizing others with
      | nil =>
          cases otherDenote
          rfl
      | cons first _ ih =>
          cases otherDenote with
          | cons otherFirst otherRest => rw [unique first otherFirst, ih otherRest]
  | null | bool _ | number _ | string _ | mapping _ | tagged _ _ => cases denote

theorem IsUnique.dictionary {meaning : Meaning α} (unique : meaning.IsUnique) :
    meaning.dictionary.IsUnique := by
  intro value dictionary other denotes otherDenotes
  cases value with
  | mapping entries =>
      apply Dictionary.ext_find?
      intro name
      have found := denotes name
      have otherFound := otherDenotes name
      generalize (Entries.under name entries).getLast? = content at found otherFound
      generalize dictionary.find? name = result at found
      generalize other.find? name = otherResult at otherFound
      cases found with
      | none =>
          cases otherFound
          rfl
      | some denotes =>
          cases otherFound with
          | some otherDenotes => rw [unique denotes otherDenotes]
  | null | bool _ | number _ | string _ | sequence _ | tagged _ _ => cases denotes

end Meaning

/-! ## Faithful readers -/

/-- A reader gives what a value stands for, and refuses exactly the values without
the shape. -/
def Faithful (read : Reader α) (meaning : Meaning α) : Prop :=
  ∀ value, meaning.Agrees value (read value)

theorem faithful_literal {read : Reader α} {write : α → Value}
    (exact : ∀ value result, read value = .ok result ↔ value = write result) :
    Faithful read (.literal write) := by
  intro value
  cases outcome : read value with
  | ok result =>
      have written := (exact value result).mp outcome
      exact ⟨written, fun none => none result written⟩
  | error error =>
      intro result written
      rw [(exact value result).mpr written] at outcome
      cases outcome

theorem readString_faithful : Faithful readString .string :=
  faithful_literal fun _ _ => readString_eq_ok_iff

theorem readBool_faithful : Faithful readBool .boolean :=
  faithful_literal fun _ _ => readBool_eq_ok_iff

theorem readWord16_faithful : Faithful readWord16 .word16 :=
  faithful_literal fun _ _ => readWord16_eq_ok_iff

theorem readWord64_faithful : Faithful readWord64 .word64 :=
  faithful_literal fun _ _ => readWord64_eq_ok_iff

theorem readOption_faithful {read : Reader α} {meaning : Meaning α}
    (inner : Faithful read meaning) : Faithful (readOption read) meaning.option := by
  intro value
  by_cases null : value = .null
  · subst null
    exact ⟨.inl ⟨rfl, rfl⟩, fun misfit => misfit.1 rfl⟩
  · have step : readOption read value = (read value).map some := by
      cases value <;> first | rfl | exact absurd rfl null
    rw [step]
    apply Ends.map ((inner value).imp (fun _ => id) fun misfit => ⟨null, misfit⟩)
    rintro result ⟨denotes, fits⟩
    exact ⟨.inr ⟨null, result, rfl, denotes⟩, fun misfit => fits misfit.2⟩

/-- A list is refused for its first item without the shape. -/
theorem readItems_agrees {read : Reader α} {meaning : Meaning α} (inner : Faithful read meaning)
    (items : List Value) : meaning.list.Agrees (.sequence items) (readItems read items) := by
  induction items with
  | nil => exact ⟨.nil, fun misfit => by simp [Meaning.list] at misfit⟩
  | cons item rest ih =>
      apply Ends.bind ((inner item).imp (fun _ => id) fun misfit => ⟨item, by simp, misfit⟩)
      rintro first ⟨firstDenotes, firstFits⟩
      have later : meaning.list.Misfits (.sequence rest) →
          meaning.list.Misfits (.sequence (item :: rest)) :=
        fun ⟨other, member, misfit⟩ => ⟨other, List.mem_cons_of_mem _ member, misfit⟩
      apply Ends.bind (Ends.imp ih (fun _ => id) later)
      rintro others ⟨denote, fit⟩
      constructor
      · exact .cons firstDenotes denote
      · rintro ⟨other, member, misfit⟩
        rcases List.mem_cons.mp member with rfl | member
        · exact firstFits misfit
        · exact fit ⟨other, member, misfit⟩

theorem readList_faithful {read : Reader α} {meaning : Meaning α}
    (inner : Faithful read meaning) : Faithful (readList read) meaning.list := by
  intro value
  cases value with
  | sequence items => exact readItems_agrees inner items
  | null | bool _ | number _ | string _ | mapping _ | tagged _ _ => exact True.intro

/-- Reading one more entry into a dictionary. -/
theorem readEntry_agrees {read : Reader α} {meaning : Meaning α} (inner : Faithful read meaning)
    {earlier : Entries} {dictionary : Dictionary α} (entry : Value × Value)
    (reached : meaning.dictionary.Denotes (.mapping earlier) dictionary ∧
      ¬ meaning.dictionary.Misfits (.mapping earlier)) :
    meaning.dictionary.Agrees (.mapping (earlier ++ [entry]))
      (readEntry read dictionary entry) := by
  rcases entry with ⟨key, content⟩
  rcases reached with ⟨denotes, fits⟩
  have last : (key, content) ∈ earlier ++ [(key, content)] := by simp
  have noString : Meaning.string.Misfits key →
      meaning.dictionary.Misfits (.mapping (earlier ++ [(key, content)])) :=
    fun misfit => ⟨_, last, .inl misfit⟩
  apply Ends.bind ((readString_faithful key).imp (fun _ => id) noString)
  rintro name ⟨rfl, -⟩
  apply Ends.bind ((inner content).imp (fun _ => id) fun misfit => ⟨_, last, .inr misfit⟩)
  rintro result ⟨resultDenotes, resultFits⟩
  constructor
  · intro other
    rw [Entries.under_append, Dictionary.find?_insert]
    by_cases same : other = name
    · subst same
      rw [if_pos rfl]
      simpa [Entries.under, Value.name?] using Option.Rel.some resultDenotes
    · have differ : name ≠ other := fun equal => same equal.symm
      rw [if_neg same]
      simpa [Entries.under, Value.name?, differ] using denotes other
  · rintro ⟨other, member, misfit⟩
    rcases List.mem_append.mp member with early | new
    · exact fits ⟨other, early, misfit⟩
    · rw [List.mem_singleton.mp new] at misfit
      rcases misfit with noName | misfit
      · exact noName name rfl
      · exact resultFits misfit

theorem readDictionary_faithful {read : Reader α} {meaning : Meaning α}
    (inner : Faithful read meaning) : Faithful (readDictionary read) meaning.dictionary := by
  intro value
  cases value with
  | mapping entries =>
      apply ends_foldlM
        (fun earlier dictionary => meaning.dictionary.Denotes (.mapping earlier) dictionary ∧
          ¬ meaning.dictionary.Misfits (.mapping earlier))
        (fun earlier => meaning.dictionary.Misfits (.mapping earlier))
      · constructor
        · exact fun _ => .none
        · rintro ⟨_, member, _⟩
          cases member
      · exact fun earlier dictionary entry reached => readEntry_agrees inner entry reached
      · rintro earlier entry ⟨other, member, misfit⟩
        exact ⟨other, List.mem_append_left _ member, misfit⟩
  | null | bool _ | number _ | string _ | sequence _ | tagged _ _ => exact True.intro

end Shape

end ManifestLint
