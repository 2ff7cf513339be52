import ManifestLint.Proofs.Meanings
import Mathlib.Data.List.Nodup

/-!
# What records stand for

A mapping sets the fields of a record under their names, their second names, or their
places, and a sequence sets them by place.  A record stands for fields that are each
written once, with the value that is written there, or not at all, with their zero
value.  Reading entry by entry is faithful to that as long as no two fields share a
name and setting one field leaves all others as they are.
-/

namespace ManifestLint.Shape

open ManifestLint.Yaml (Value Entries)

variable {α β : Type}

/-! ## Fields as a value can set them -/

/-- A field of a record: its names, when the record has what a value stands for, which
values do not have the shape of the field, how the record is without it, whether it has
to be written, and when two records have the same in it. -/
structure Slot (α : Type) where
  name : String
  secondName : Option String
  Holds : Value → α → Prop
  Misfits : Value → Prop
  Unset : α → Prop
  required : Bool
  Same : α → α → Prop

namespace Slot

/-- A field that has a zero value. -/
def of (name : String) (meaning : Meaning β) (get : α → β) (zero : β)
    (secondName : Option String := none) : Slot α where
  name := name
  secondName := secondName
  Holds value record := meaning.Denotes value (get record)
  Misfits := meaning.Misfits
  Unset record := get record = zero
  required := false
  Same record other := get record = get other

/-- A field that has to be written. -/
def needed (name : String) (meaning : Meaning β) (get : α → β) : Slot α where
  name := name
  secondName := none
  Holds value record := meaning.Denotes value (get record)
  Misfits := meaning.Misfits
  Unset _ := False
  required := true
  Same record other := get record = get other

/-- Whether a key of a mapping stands for the field at a place: the name of the field,
its second name, or the place. -/
def isNamedBy (slot : Slot α) (place : Nat) : Value → Bool
  | .string name => slot.name = name || slot.secondName = some name
  | .number (.integer position) => position = place
  | _ => false

/-- What a value writes into the field at a place. -/
def contents (slot : Slot α) (place : Nat) : Value → List Value
  | .mapping entries => (entries.filter fun entry => slot.isNamedBy place entry.1).map Prod.snd
  | .sequence items => items[place]?.toList
  | _ => []

/-- A record has a field as it is written, which is once or not at all. -/
def IsSet (slot : Slot α) (record : α) : List Value → Prop
  | [] => slot.Unset record
  | [content] => slot.Holds content record
  | _ => False

/-- A field is not written although it has to be, is written with a value that does not
have its shape, or is written more than once. -/
def IsSpoilt (slot : Slot α) : List Value → Prop
  | [] => slot.required = true
  | [content] => slot.Misfits content
  | _ => True

end Slot

/-- Whether a key of a mapping can stand for a field. -/
def IsFieldKey : Value → Prop
  | .string _ => True
  | .number (.integer position) => 0 ≤ position
  | _ => False

/-- A value is no record with some number of fields: it is neither a mapping nor a
sequence, it has a key that cannot stand for a field, or it has too many items. -/
def IsNoRecord (fieldCount : Nat) : Value → Prop
  | .mapping entries => ∃ entry ∈ entries, ¬ IsFieldKey entry.1
  | .sequence items => fieldCount < items.length
  | _ => True

/-- A record with fields in order of declaration. -/
def Meaning.record (slots : List (Slot α)) : Meaning α where
  Denotes value result :=
    ∀ (place : Nat) (slot : Slot α), slots[place]? = some slot →
      slot.IsSet result (slot.contents place value)
  Misfits value :=
    IsNoRecord slots.length value ∨
      ∃ (place : Nat) (slot : Slot α), slots[place]? = some slot ∧
        slot.IsSpoilt (slot.contents place value)

namespace Slot

theorem contents_append (slot : Slot α) (place : Nat) (earlier : Entries) (key content : Value) :
    slot.contents place (.mapping (earlier ++ [(key, content)])) =
      slot.contents place (.mapping earlier) ++
        if slot.isNamedBy place key = true then [content] else [] := by
  by_cases named : slot.isNamedBy place key = true <;>
    simp [contents, List.filter_append, named]

/-- What spoils a field that may be left out still spoils it when more is written. -/
theorem IsSpoilt.append {slot : Slot α} (optional : slot.required = false)
    {contents : List Value} (spoilt : slot.IsSpoilt contents) (more : List Value) :
    slot.IsSpoilt (contents ++ more) := by
  match contents, more with
  | [], _ => simp [IsSpoilt, optional] at spoilt
  | [content], [] => exact spoilt
  | [_], _ :: _ => exact True.intro
  | _ :: _ :: _, _ => exact True.intro

end Slot

/-! ## Records are known by their fields -/

namespace Slot

/-- What is written determines the field. -/
def IsUnique (slot : Slot α) : Prop :=
  ∀ ⦃record other contents⦄, slot.IsSet record contents → slot.IsSet other contents →
    slot.Same record other

theorem isUnique_of {meaning : Meaning β} (unique : meaning.IsUnique) (name : String)
    (get : α → β) (zero : β) (secondName : Option String) :
    (Slot.of name meaning get zero secondName).IsUnique := by
  intro record other contents set otherSet
  match contents with
  | [] => exact Eq.trans set (Eq.symm otherSet)
  | [_] => exact unique set otherSet
  | _ :: _ :: _ => exact False.elim set

theorem isUnique_needed {meaning : Meaning β} (unique : meaning.IsUnique) (name : String)
    (get : α → β) : (Slot.needed name meaning get).IsUnique := by
  intro record other contents set otherSet
  match contents with
  | [] => exact False.elim set
  | [_] => exact unique set otherSet
  | _ :: _ :: _ => exact False.elim set

end Slot

theorem Meaning.isUnique_record {slots : List (Slot α)}
    (fields : ∀ slot ∈ slots, slot.IsUnique)
    (whole : ∀ record other, (∀ slot ∈ slots, slot.Same record other) → record = other) :
    (Meaning.record slots).IsUnique := by
  intro value record other denotes otherDenotes
  apply whole
  intro slot member
  rcases List.getElem?_of_mem member with ⟨place, declared⟩
  exact fields slot member (denotes place slot declared) (otherDenotes place slot declared)

/-! ## Fields as they are read -/

/-- All names of a field. -/
def Field.names (field : Field α) : List String :=
  field.name :: field.secondName.toList

/-- A field is read as a slot of the record. -/
structure Field.Reads (field : Field α) (slot : Slot α) : Prop where
  name : field.name = slot.name
  secondName : field.secondName = slot.secondName
  optional : slot.required = false
  ends : ∀ content, Ends
    (fun change => (∀ record, slot.Holds content (change record)) ∧ ¬ slot.Misfits content)
    (slot.Misfits content) (field.read content)

/-- Setting a field leaves a slot of the record as it is. -/
def Field.Keeps (field : Field α) (slot : Slot α) : Prop :=
  ∀ ⦃content change⦄, field.read content = .ok change → ∀ record contents,
    slot.IsSet record contents → slot.IsSet (change record) contents

/-- A field with a zero value is read as its slot if its value is what is put into the
record. -/
theorem Field.reads_of {name : String} {read : Reader β} {put : β → α → α}
    {secondName : Option String} {meaning : Meaning β} (inner : Faithful read meaning)
    {get : α → β} (zero : β) (set : ∀ content record, get (put content record) = content) :
    (Field.of name read put secondName).Reads (.of name meaning get zero secondName) where
  name := rfl
  secondName := rfl
  optional := rfl
  ends content := by
    apply Ends.map (inner content)
    rintro result ⟨denotes, fits⟩
    constructor
    · intro record
      change meaning.Denotes content (get (put result record))
      rwa [set]
    · exact fits

theorem Field.keeps_of {γ : Type} {name otherName : String} {read : Reader β} {put : β → α → α}
    {secondName otherSecondName : Option String} {meaning : Meaning γ} {get : α → γ} {zero : γ}
    (apart : ∀ content record, get (put content record) = get record) :
    (Field.of name read put secondName).Keeps
      (.of otherName meaning get zero otherSecondName) := by
  intro content change success record contents set
  rcases map_eq_ok_iff.mp success with ⟨result, _, rfl⟩
  match contents with
  | [] => exact (apart result record).trans set
  | [value] =>
      change meaning.Denotes value (get (put result record))
      rwa [apart]
  | _ :: _ :: _ => exact set

/-- The fields of a record are read as its slots, do not share names, and leave each
other as they are. -/
structure Record.Describes (record : Record α) (slots : List (Slot α)) : Prop where
  reads : List.Forall₂ Field.Reads record.fields slots
  distinct : (record.fields.flatMap Field.names).Nodup
  apart : (record.fields.zip slots).Pairwise fun first second =>
    first.1.Keeps second.2 ∧ second.1.Keeps first.2
  initial : ∀ slot ∈ slots, slot.Unset record.initial

namespace Record.Describes

variable {record : Record α} {slots : List (Slot α)}

theorem length_eq (described : record.Describes slots) : record.fields.length = slots.length :=
  described.reads.length_eq

theorem field_of_slot (described : record.Describes slots) {place : Nat} {slot : Slot α}
    (declared : slots[place]? = some slot) :
    ∃ field, record.fields[place]? = some field ∧ field.Reads slot := by
  rcases List.getElem?_eq_some_iff.mp declared with ⟨bound, rfl⟩
  have fieldBound : place < record.fields.length := by rwa [described.length_eq]
  exact ⟨record.fields[place], List.getElem?_eq_getElem fieldBound,
    described.reads.get fieldBound bound⟩

theorem slot_of_field (described : record.Describes slots) {place : Nat} {field : Field α}
    (declared : record.fields[place]? = some field) :
    ∃ slot, slots[place]? = some slot ∧ field.Reads slot := by
  rcases List.getElem?_eq_some_iff.mp declared with ⟨bound, rfl⟩
  have slotBound : place < slots.length := by rwa [← described.length_eq]
  exact ⟨slots[place], List.getElem?_eq_getElem slotBound, described.reads.get bound slotBound⟩

theorem keeps (described : record.Describes slots) {place other : Nat} {field : Field α}
    {slot : Slot α} (declared : record.fields[place]? = some field)
    (otherDeclared : slots[other]? = some slot) (differ : place ≠ other) : field.Keeps slot := by
  rcases described.slot_of_field declared with ⟨ownSlot, ownDeclared, _⟩
  rcases described.field_of_slot otherDeclared with ⟨otherField, otherFieldDeclared, _⟩
  have ordered := List.pairwise_iff_getElem.mp described.apart
  have pair {index : Nat} {left : Field α} {right : Slot α}
      (leftDeclared : record.fields[index]? = some left)
      (rightDeclared : slots[index]? = some right) :
      ∃ bound : index < (record.fields.zip slots).length,
        (record.fields.zip slots)[index] = (left, right) := by
    apply List.getElem?_eq_some_iff.mp
    rw [List.getElem?_zip_eq_some]
    exact ⟨leftDeclared, rightDeclared⟩
  rcases pair declared ownDeclared with ⟨bound, own⟩
  rcases pair otherFieldDeclared otherDeclared with ⟨otherBound, theirs⟩
  rcases Nat.lt_or_gt_of_ne differ with before | after
  · have kept := (ordered _ _ bound otherBound before).1
    rwa [own, theirs] at kept
  · have kept := (ordered _ _ otherBound bound after).2
    rwa [own, theirs] at kept

theorem hasName_iff {field : Field α} {name : String} :
    field.hasName name = true ↔ name ∈ field.names := by
  simp only [Field.hasName, Field.names, List.mem_cons, Option.mem_toList,
    Bool.or_eq_true, decide_eq_true_eq]
  exact or_congr_left eq_comm

/-- Only one field has a name. -/
theorem place_eq_of_hasName (described : record.Describes slots) {place other : Nat}
    {field otherField : Field α} {name : String} (declared : record.fields[place]? = some field)
    (otherDeclared : record.fields[other]? = some otherField)
    (named : field.hasName name = true) (otherNamed : otherField.hasName name = true) :
    place = other := by
  rcases List.getElem?_eq_some_iff.mp declared with ⟨bound, rfl⟩
  rcases List.getElem?_eq_some_iff.mp otherDeclared with ⟨otherBound, rfl⟩
  rw [hasName_iff] at named otherNamed
  have disjoint := List.pairwise_iff_getElem.mp (List.nodup_flatMap.mp described.distinct).2
  by_contra differ
  rcases Nat.lt_or_gt_of_ne differ with before | after
  · exact disjoint _ _ bound otherBound before named otherNamed
  · exact disjoint _ _ otherBound bound after otherNamed named

/-- A key leads to the one place whose field it stands for. -/
theorem isNamedBy_iff (described : record.Describes slots) {key : Value} {position? : Option Nat}
    (success : record.position? key = .ok position?) {place : Nat} {slot : Slot α}
    (declared : slots[place]? = some slot) :
    slot.isNamedBy place key = true ↔ position? = some place := by
  rcases described.field_of_slot declared with ⟨field, fieldDeclared, reads⟩
  rcases List.getElem?_eq_some_iff.mp fieldDeclared with ⟨bound, fieldAt⟩
  cases key with
  | string name =>
      cases success
      have sameNames : slot.isNamedBy place (.string name) = field.hasName name := by
        simp only [Slot.isNamedBy, Field.hasName, reads.name, reads.secondName]
      rw [sameNames, List.findIdx?_eq_some_iff_getElem]
      constructor
      · intro named
        refine ⟨bound, by rwa [fieldAt], ?_⟩
        intro earlier before otherNamed
        exact Nat.ne_of_lt before (described.place_eq_of_hasName
          (List.getElem?_eq_getElem (Nat.lt_trans before bound)) fieldDeclared otherNamed named)
      · rintro ⟨_, named, _⟩
        rwa [fieldAt] at named
  | number written =>
      cases written with
      | float _ => cases success
      | integer position =>
          simp only [Record.position?] at success
          split at success
          · cases success
          · cases success
            simp only [Slot.isNamedBy, decide_eq_true_eq]
            split <;> simp <;> omega
  | null | bool _ | sequence _ | mapping _ | tagged _ _ => cases success

/-- A key is refused exactly if it cannot stand for a field. -/
theorem position?_ends (record : Record α) (key : Value) :
    Ends (fun _ => IsFieldKey key) (¬ IsFieldKey key) (record.position? key) := by
  cases key with
  | string name => exact True.intro
  | number written =>
      cases written with
      | float _ => exact id
      | integer position =>
          rw [Record.position?]
          split
          · rename_i negative
            exact Int.not_le.mpr negative
          · rename_i natural
            exact Int.not_lt.mp natural
  | null | bool _ | sequence _ | mapping _ | tagged _ _ => exact id

/-! ## Mappings -/

/-- How far a record is set by the entries so far: all of their keys can stand for
fields, each field is as it is written, and the positions are those of the fields that
are written. -/
structure Reached (slots : List (Slot α)) (earlier : Entries) (progress : Progress α) : Prop where
  keys : ∀ entry ∈ earlier, IsFieldKey entry.1
  set : ∀ (place : Nat) (slot : Slot α), slots[place]? = some slot →
    slot.IsSet progress.result (slot.contents place (.mapping earlier))
  sound : ∀ (place : Nat) (slot : Slot α), slots[place]? = some slot →
    ¬ slot.IsSpoilt (slot.contents place (.mapping earlier))
  positions : ∀ (place : Nat) (slot : Slot α), slots[place]? = some slot →
    (place ∈ progress.positions ↔ slot.contents place (.mapping earlier) ≠ [])

theorem keys_append {earlier : Entries} {key content : Value}
    (keys : ∀ entry ∈ earlier, IsFieldKey entry.1) (isKey : IsFieldKey key) :
    ∀ entry ∈ earlier ++ [(key, content)], IsFieldKey entry.1 := by
  intro entry member
  rcases List.mem_append.mp member with early | last
  · exact keys entry early
  · rw [List.mem_singleton.mp last]
    exact isKey

/-- An entry that stands for no field changes nothing. -/
theorem Reached.nothing {earlier : Entries} {progress : Progress α}
    (reached : Reached slots earlier progress) {key content : Value} (isKey : IsFieldKey key)
    (unnamed : ∀ (place : Nat) (slot : Slot α), slots[place]? = some slot →
      ¬ slot.isNamedBy place key = true) :
    Reached slots (earlier ++ [(key, content)]) progress := by
  have same : ∀ (place : Nat) (slot : Slot α), slots[place]? = some slot →
      slot.contents place (.mapping (earlier ++ [(key, content)])) =
        slot.contents place (.mapping earlier) := by
    intro place slot declared
    rw [slot.contents_append, if_neg (unnamed place slot declared), List.append_nil]
  constructor
  · exact keys_append reached.keys isKey
  · intro place slot declared
    rw [same place slot declared]
    exact reached.set place slot declared
  · intro place slot declared
    rw [same place slot declared]
    exact reached.sound place slot declared
  · intro place slot declared
    rw [same place slot declared]
    exact reached.positions place slot declared

/-- An entry that stands for a field sets it and leaves all others as they are. -/
theorem Reached.field (described : record.Describes slots) {earlier : Entries}
    {progress : Progress α} (reached : Reached slots earlier progress) {key content : Value}
    (isKey : IsFieldKey key) {position : Nat} {field : Field α} {change : α → α}
    (fieldDeclared : record.fields[position]? = some field)
    (named : ∀ (place : Nat) (slot : Slot α), slots[place]? = some slot →
      (slot.isNamedBy place key = true ↔ position = place))
    (fresh : position ∉ progress.positions) (success : field.read content = .ok change) :
    Reached slots (earlier ++ [(key, content)])
      ⟨position :: progress.positions, change progress.result⟩ := by
  have own : ∀ slot, slots[position]? = some slot →
      slot.contents position (.mapping (earlier ++ [(key, content)])) = [content] := by
    intro slot declared
    have unwritten := (reached.positions position slot declared).not.mp fresh
    rw [not_ne_iff] at unwritten
    rw [slot.contents_append, if_pos ((named position slot declared).mpr rfl), unwritten,
      List.nil_append]
  have others : ∀ (place : Nat) (slot : Slot α), slots[place]? = some slot → position ≠ place →
      slot.contents place (.mapping (earlier ++ [(key, content)])) =
        slot.contents place (.mapping earlier) := by
    intro place slot declared differ
    rw [slot.contents_append, if_neg ((named place slot declared).not.mpr differ),
      List.append_nil]
  rcases described.slot_of_field fieldDeclared with ⟨ownSlot, ownDeclared, reads⟩
  have ends := reads.ends content
  rw [success] at ends
  rcases ends with ⟨holds, fits⟩
  have ownSlot_eq : ∀ slot, slots[position]? = some slot → slot = ownSlot :=
    fun slot declared => Option.some.inj (declared.symm.trans ownDeclared)
  constructor
  · exact keys_append reached.keys isKey
  · intro place slot declared
    by_cases same : position = place
    · subst same
      rw [own slot declared, ownSlot_eq slot declared]
      exact holds progress.result
    · rw [others place slot declared same]
      exact described.keeps fieldDeclared declared same success _ _
        (reached.set place slot declared)
  · intro place slot declared
    by_cases same : position = place
    · subst same
      rw [own slot declared, ownSlot_eq slot declared]
      exact fits
    · rw [others place slot declared same]
      exact reached.sound place slot declared
  · intro place slot declared
    rw [List.mem_cons]
    by_cases same : position = place
    · subst same
      simp [own slot declared]
    · rw [others place slot declared same, ← reached.positions place slot declared]
      simp [Ne.symm same]

theorem setEntry_of_named {progress : Progress α} {key content : Value} {position : Nat}
    {field : Field α} (named : record.field? key = .ok (some (position, field))) :
    record.setEntry progress (key, content) =
      if position ∈ progress.positions then .error (.duplicateField field.name)
      else (field.read content).map fun change =>
        ⟨position :: progress.positions, change progress.result⟩ := by
  unfold setEntry
  rw [named]
  by_cases known : position ∈ progress.positions
  · simp [bind, Except.bind, known]
  · cases read : field.read content <;>
      simp [bind, Except.bind, pure, Except.pure, Except.map, known, read]

/-- One more entry keeps to what the record stands for, or spoils it. -/
theorem setEntry_ends (described : record.Describes slots) (earlier : Entries)
    (progress : Progress α) (entry : Value × Value) (reached : Reached slots earlier progress) :
    Ends (Reached slots (earlier ++ [entry]))
      ((Meaning.record slots).Misfits (.mapping (earlier ++ [entry])))
      (record.setEntry progress entry) := by
  rcases entry with ⟨key, content⟩
  have keyEnds := position?_ends record key
  cases found : record.position? key with
  | error error =>
      rw [found] at keyEnds
      have refused : record.setEntry progress (key, content) = .error error := by
        simp only [setEntry, field?, found, bind, Except.bind]
      rw [refused]
      exact .inl ⟨(key, content), by simp, keyEnds⟩
  | ok position? =>
      rw [found] at keyEnds
      have isNamedBy : ∀ (place : Nat) (slot : Slot α), slots[place]? = some slot →
          (slot.isNamedBy place key = true ↔ position? = some place) :=
        fun _ _ declared => described.isNamedBy_iff found declared
      cases located : position?.bind fun position =>
          (record.fields[position]?).map fun field => (position, field) with
      | none =>
          have ignored : record.setEntry progress (key, content) = .ok progress := by
            simp only [setEntry, field?, found, bind, Except.bind, pure, Except.pure, located]
          rw [ignored]
          apply reached.nothing keyEnds
          intro place slot declared named
          rcases described.field_of_slot declared with ⟨field, fieldDeclared, _⟩
          rw [(isNamedBy place slot declared).mp named] at located
          simp [fieldDeclared] at located
      | some placed =>
          rcases placed with ⟨position, field⟩
          have named : record.field? key = .ok (some (position, field)) := by
            simp only [field?, found, bind, Except.bind, pure, Except.pure, located]
          have fieldDeclared := declared_of_field? named
          rcases Option.bind_eq_some_iff.mp located with ⟨_, rfl, mapped⟩
          rcases Option.map_eq_some_iff.mp mapped with ⟨_, _, pair⟩
          cases pair
          have names : ∀ (place : Nat) (slot : Slot α), slots[place]? = some slot →
              (slot.isNamedBy place key = true ↔ position = place) := by
            intro place slot declared
            rw [isNamedBy place slot declared, Option.some.injEq]
          rcases described.slot_of_field fieldDeclared with ⟨slot, declared, reads⟩
          have written := slot.contents_append position earlier key content
          rw [if_pos ((names position slot declared).mpr rfl)] at written
          rw [setEntry_of_named named]
          by_cases known : position ∈ progress.positions
          · rw [if_pos known]
            refine .inr ⟨position, slot, declared, ?_⟩
            rw [written]
            cases before : slot.contents position (.mapping earlier) with
            | nil => exact absurd before ((reached.positions position slot declared).mp known)
            | cons first rest =>
                cases rest <;> exact True.intro
          · rw [if_neg known]
            cases success : field.read content with
            | error error =>
                have misfit := reads.ends content
                rw [success] at misfit
                have unwritten := (reached.positions position slot declared).not.mp known
                rw [not_ne_iff] at unwritten
                refine .inr ⟨position, slot, declared, ?_⟩
                rw [written, unwritten]
                exact misfit
            | ok change =>
                exact reached.field described keyEnds fieldDeclared names known success

/-- What spoils a record still spoils it when more is written. -/
theorem misfits_append (described : record.Describes slots) (earlier : Entries)
    (entry : Value × Value) (misfit : (Meaning.record slots).Misfits (.mapping earlier)) :
    (Meaning.record slots).Misfits (.mapping (earlier ++ [entry])) := by
  rcases misfit with ⟨bad, member, noKey⟩ | ⟨place, slot, declared, spoilt⟩
  · exact .inl ⟨bad, List.mem_append_left _ member, noKey⟩
  · rcases described.field_of_slot declared with ⟨_, _, reads⟩
    refine .inr ⟨place, slot, declared, ?_⟩
    rw [slot.contents_append]
    exact spoilt.append reads.optional _

theorem reached_nil (described : record.Describes slots) :
    Reached slots [] ⟨[], record.initial⟩ where
  keys := List.forall_mem_nil _
  set _ slot declared := described.initial slot (List.mem_of_getElem? declared)
  sound place slot declared := by
    rcases described.field_of_slot declared with ⟨_, _, reads⟩
    simp [Slot.contents, Slot.IsSpoilt, reads.optional]
  positions _ _ _ := by simp [Slot.contents]

theorem read_mapping_agrees (described : record.Describes slots) (entries : Entries) :
    (Meaning.record slots).Agrees (.mapping entries) (record.read (.mapping entries)) := by
  apply Ends.bind (ends_foldlM (Reached slots)
    (fun earlier => (Meaning.record slots).Misfits (.mapping earlier)) described.reached_nil
    described.setEntry_ends described.misfits_append entries)
  intro progress reached
  refine ⟨reached.set, ?_⟩
  rintro (⟨entry, member, noKey⟩ | ⟨place, slot, declared, spoilt⟩)
  · exact noKey (reached.keys entry member)
  · exact reached.sound place slot declared spoilt

/-! ## Sequences -/

/-- Fields leave a slot as it is that none of them is about. -/
theorem setItems_keeps {slot : Slot α} {contents : List Value} {fields : List (Field α)}
    (keep : ∀ field ∈ fields, field.Keeps slot) {items : List Value} {result final : α}
    (success : setItems fields items result = .ok final) (set : slot.IsSet result contents) :
    slot.IsSet final contents := by
  induction fields generalizing items result with
  | nil =>
      cases success
      exact set
  | cons field rest ih =>
      rw [List.forall_mem_cons] at keep
      cases items with
      | nil =>
          cases success
          exact set
      | cons item later =>
          cases read : field.read item with
          | error _ => simp [setItems, read, bind, Except.bind] at success
          | ok change =>
              simp only [setItems, read, bind, Except.bind] at success
              exact ih keep.2 success (keep.1 read result contents set)

/-- Items set the fields of a record one after the other. -/
theorem setItems_ends {fields : List (Field α)} {slots : List (Slot α)}
    (reads : List.Forall₂ Field.Reads fields slots)
    (apart : (fields.zip slots).Pairwise fun first second =>
      first.1.Keeps second.2 ∧ second.1.Keeps first.2)
    {result : α} (blank : ∀ slot ∈ slots, slot.IsSet result [] ∧ ¬ slot.IsSpoilt [])
    (items : List Value) :
    Ends
      (fun final => ∀ (place : Nat) (slot : Slot α), slots[place]? = some slot →
        slot.IsSet final items[place]?.toList ∧ ¬ slot.IsSpoilt items[place]?.toList)
      (∃ (place : Nat) (slot : Slot α), slots[place]? = some slot ∧
        slot.IsSpoilt items[place]?.toList)
      (setItems fields items result) := by
  induction reads generalizing items result with
  | nil => exact fun _ _ declared => by simp at declared
  | @cons field slot fields slots fieldReads reads ih =>
      rw [List.zip_cons_cons, List.pairwise_cons] at apart
      have keepsLater : ∀ other ∈ slots, field.Keeps other := by
        intro other member
        rw [← List.map_snd_zip (Nat.le_of_eq reads.length_eq.symm)] at member
        rcases List.mem_map.mp member with ⟨pair, paired, rfl⟩
        exact (apart.1 pair paired).1
      have laterKeep : ∀ other ∈ fields, other.Keeps slot := by
        intro other member
        rw [← List.map_fst_zip (Nat.le_of_eq reads.length_eq)] at member
        rcases List.mem_map.mp member with ⟨pair, paired, rfl⟩
        exact (apart.1 pair paired).2
      cases items with
      | nil => exact fun _ other declared => blank other (List.mem_of_getElem? declared)
      | cons item rest =>
          have ends := fieldReads.ends item
          cases success : field.read item with
          | error error =>
              rw [success] at ends
              simp only [setItems, success, bind, Except.bind]
              exact ⟨0, slot, rfl, ends⟩
          | ok change =>
              rw [success] at ends
              simp only [setItems, success, bind, Except.bind]
              have stillBlank : ∀ other ∈ slots,
                  other.IsSet (change result) [] ∧ ¬ other.IsSpoilt [] := by
                intro other member
                have before := blank other (List.mem_cons_of_mem _ member)
                exact ⟨keepsLater other member success result [] before.1, before.2⟩
              have later := ih apart.2 stillBlank rest
              cases finished : setItems fields rest (change result) with
              | error error =>
                  rw [finished] at later
                  rcases later with ⟨place, other, declared, spoilt⟩
                  exact ⟨place + 1, other, declared, spoilt⟩
              | ok final =>
                  rw [finished] at later
                  intro place other declared
                  cases place with
                  | zero =>
                      cases declared
                      have set : slot.IsSet (change result) [item] := ends.1 result
                      exact ⟨setItems_keeps laterKeep finished set, ends.2⟩
                  | succ place => exact later place other declared

theorem read_sequence_agrees (described : record.Describes slots) (items : List Value) :
    (Meaning.record slots).Agrees (.sequence items) (record.read (.sequence items)) := by
  have blank : ∀ slot ∈ slots, slot.IsSet record.initial [] ∧ ¬ slot.IsSpoilt [] := by
    intro slot member
    rcases List.getElem?_of_mem member with ⟨place, declared⟩
    exact ⟨described.reached_nil.set place slot declared,
      described.reached_nil.sound place slot declared⟩
  apply Ends.bind ((setItems_ends described.reads described.apart blank items).imp
    (fun _ => id) Or.inr)
  intro result fields
  rw [described.length_eq]
  split
  · rename_i tooMany
    exact .inl tooMany
  · rename_i enough
    constructor
    · exact fun place slot declared => (fields place slot declared).1
    · rintro (tooMany | ⟨place, slot, declared, spoilt⟩)
      · exact enough tooMany
      · exact (fields place slot declared).2 spoilt

/-- A record is read as what a value stands for. -/
theorem read_faithful (described : record.Describes slots) :
    Faithful record.read (.record slots) := by
  intro value
  cases value with
  | mapping entries => exact described.read_mapping_agrees entries
  | sequence items => exact described.read_sequence_agrees items
  | null | bool _ | number _ | string _ | tagged _ _ => exact .inl True.intro

end Record.Describes

end ManifestLint.Shape
