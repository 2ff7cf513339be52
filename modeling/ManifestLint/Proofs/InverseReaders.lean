import ManifestLint.Resource.Writing
import ManifestLint.Proofs.OrderFree

/-!
# Readers that undo writing

What a reader takes from the value that was written for something is that thing
again.  A record is read back if its entries set its fields in order of their
declaration.
-/

namespace ManifestLint

open ManifestLint.Yaml (Value Entries)

namespace Shape

open ManifestLint.Yaml.Value (entry ofStrings ofOption ofDictionary)

variable {α : Type}

/-! ## Values of one shape -/

/-- Whatever is written is read back. -/
def Inverts (read : Reader α) (write : α → Value) : Prop :=
  ∀ written, read (write written) = .ok written

theorem readBounded_eq_ok_iff {limit number : Nat} {wanted : Wanted} {value : Value} :
    readBounded limit wanted value = .ok number ↔ value = .nat number ∧ number < limit := by
  constructor
  · intro success
    cases value with
    | number written =>
        cases written with
        | float content => cases success
        | integer content =>
            rw [readBounded] at success
            split at success
            · rename_i bounds
              cases success
              have same : (content.toNat : Int) = content := Int.toNat_of_nonneg bounds.1
              rw [Value.nat, same]
              exact ⟨rfl, by omega⟩
            · cases success
    | null | bool _ | string _ | sequence _ | mapping _ | tagged _ _ => cases success
  · rintro ⟨rfl, bound⟩
    have bounds : 0 ≤ (number : Int) ∧ (number : Int) < limit :=
      ⟨Int.natCast_nonneg number, Int.ofNat_lt.mpr bound⟩
    rw [Value.nat, readBounded, if_pos bounds, Int.toNat_natCast]

theorem readString_eq_ok_iff {value : Value} {written : String} :
    readString value = .ok written ↔ value = .string written := by
  cases value <;> simp [readString, mismatch]

theorem readBool_eq_ok_iff {value : Value} {written : Bool} :
    readBool value = .ok written ↔ value = .bool written := by
  cases value <;> simp [readBool, mismatch]

theorem map_eq_ok_iff {ε β : Type} {outcome : Except ε α} {change : α → β} {result : β} :
    outcome.map change = .ok result ↔
      ∃ content, outcome = .ok content ∧ change content = result := by
  cases outcome <;> simp [Except.map]

theorem readWord16_eq_ok_iff {value : Value} {word : UInt16} :
    readWord16 value = .ok word ↔ value = .nat word.toNat := by
  simp only [readWord16, map_eq_ok_iff, readBounded_eq_ok_iff]
  constructor
  · rintro ⟨number, ⟨rfl, bound⟩, rfl⟩
    rw [UInt16.toNat_ofNat_of_lt' bound]
  · rintro rfl
    exact ⟨word.toNat, ⟨rfl, word.toNat_lt⟩, UInt16.ofNat_toNat⟩

theorem readWord64_eq_ok_iff {value : Value} {word : UInt64} :
    readWord64 value = .ok word ↔ value = .nat word.toNat := by
  simp only [readWord64, map_eq_ok_iff, readBounded_eq_ok_iff]
  constructor
  · rintro ⟨number, ⟨rfl, bound⟩, rfl⟩
    rw [UInt64.toNat_ofNat_of_lt' bound]
  · rintro rfl
    exact ⟨word.toNat, ⟨rfl, word.toNat_lt⟩, UInt64.ofNat_toNat⟩

theorem readString_inverts : Inverts readString .string :=
  fun _ => readString_eq_ok_iff.mpr rfl

theorem readWord16_inverts : Inverts readWord16 fun word => .nat word.toNat :=
  fun _ => readWord16_eq_ok_iff.mpr rfl

theorem readWord64_inverts : Inverts readWord64 fun word => .nat word.toNat :=
  fun _ => readWord64_eq_ok_iff.mpr rfl

theorem readOption_inverts {read : Reader α} {write : α → Value} (inverts : Inverts read write)
    (notNull : ∀ written, write written ≠ .null) : Inverts (readOption read) (ofOption write) := by
  intro written
  cases written with
  | none => rfl
  | some content =>
      rw [ofOption, readOption]
      · rw [inverts content]
        rfl
      · exact notNull content

theorem readItems_map {read : Reader α} {write : α → Value} (inverts : Inverts read write)
    (items : List α) : readItems read (items.map write) = .ok items := by
  induction items with
  | nil => rfl
  | cons item rest ih =>
      rw [List.map_cons, readItems, inverts item, ih]
      rfl

theorem readList_inverts {read : Reader α} {write : α → Value} (inverts : Inverts read write) :
    Inverts (readList read) fun items => .sequence (items.map write) :=
  readItems_map inverts

theorem readStrings_inverts : Inverts (readList readString) ofStrings :=
  readList_inverts readString_inverts

/-- An entry behind all others is put at the end. -/
theorem insertEntry_of_forall_lt {key : String} (content : α) {entries : List (String × α)}
    (before : ∀ entry ∈ entries, entry.1 < key) :
    Dictionary.insertEntry key content entries = entries ++ [(key, content)] := by
  induction entries with
  | nil => rfl
  | cons first rest ih =>
      rw [List.forall_mem_cons] at before
      rw [Dictionary.insertEntry, if_neg (String.lt_asymm before.1), if_pos before.1, ih before.2]
      rfl

/-- Entries in order of their keys are put one behind the other. -/
theorem foldlM_readEntry {read : Reader α} {write : α → Value} (inverts : Inverts read write)
    (entries : List (String × α)) (dictionary whole : Dictionary α)
    (appended : whole.entries = dictionary.entries ++ entries) :
    (entries.map fun written => entry written.1 (write written.2)).foldlM (readEntry read)
      dictionary = .ok whole := by
  induction entries generalizing dictionary with
  | nil =>
      rw [List.append_nil] at appended
      rw [Dictionary.ext appended]
      rfl
  | cons first rest ih =>
      have before : ∀ earlier ∈ dictionary.entries, earlier.1 < first.1 := by
        have ordered := whole.ordered
        rw [appended, List.pairwise_append] at ordered
        exact fun earlier member => ordered.2.2 earlier member first (List.mem_cons_self ..)
      have inserted : (dictionary.insert first.1 first.2).entries =
          dictionary.entries ++ [first] := by
        rw [Dictionary.entries_insert, insertEntry_of_forall_lt _ before]
      have step : readEntry read dictionary (entry first.1 (write first.2)) =
          .ok (dictionary.insert first.1 first.2) := by
        simp only [readEntry, entry, readString, inverts first.2, bind, Except.bind]
        rfl
      rw [List.map_cons, List.foldlM_cons, step]
      apply ih
      rw [inserted, appended, List.append_assoc, List.singleton_append]

theorem readDictionary_inverts {read : Reader α} {write : α → Value}
    (inverts : Inverts read write) : Inverts (readDictionary read) (ofDictionary write) := by
  intro dictionary
  exact foldlM_readEntry inverts dictionary.entries .empty dictionary rfl

/-! ## Records -/

/-- Entries that set fields in order of declaration make one record of another. -/
inductive Record.Makes (record : Record α) : Nat → Entries → α → α → Prop where
  | nothing {place : Nat} {whole : α} : Makes record place [] whole whole
  | field {β : Type} {place position : Nat} {name : String} {read : Reader β} {put : β → α → α}
      {secondName : Option String} {value : Value} {part : β} {others : Entries}
      {result whole : α}
      (named : record.field? (.string name) =
        .ok (some (position, .of name read put secondName)))
      (onward : place ≤ position) (success : read value = .ok part)
      (rest : Makes record (position + 1) others (put part result) whole) :
      Makes record place (entry name value :: others) result whole

namespace Record

theorem Makes.foldlM {record : Record α} {place : Nat} {entries : Entries} {result whole : α}
    (makes : record.Makes place entries result whole) {positions : List Nat}
    (earlier : ∀ position ∈ positions, position < place) :
    ∃ reached, entries.foldlM record.setEntry ⟨positions, result⟩ = .ok ⟨reached, whole⟩ := by
  induction makes generalizing positions with
  | nothing => exact ⟨positions, rfl⟩
  | @field β place position name read put secondName value part others result whole named onward
      success rest ih =>
      have fresh : position ∉ positions :=
        fun member => Nat.not_lt.mpr onward (earlier position member)
      have change : (Field.of name read put secondName).read value = .ok (put part) := by
        simp only [Field.of, success, Except.map]
      have step : record.setEntry ⟨positions, result⟩ (entry name value) =
          .ok ⟨position :: positions, put part result⟩ :=
        setEntry_eq_ok_iff.mpr (Sets.field named fresh change)
      rw [List.foldlM_cons, step]
      apply ih
      intro other member
      rcases List.mem_cons.mp member with rfl | old
      · exact Nat.lt_succ_self _
      · exact Nat.lt_succ_of_lt (Nat.lt_of_lt_of_le (earlier other old) onward)

/-- Entries that make a record of the empty one are read as it. -/
theorem Makes.read {record : Record α} {entries : Entries} {whole : α}
    (makes : record.Makes 0 entries record.initial whole) :
    record.read (.mapping entries) = .ok whole := by
  have fold : ∃ reached, entries.foldlM record.setEntry ⟨[], record.initial⟩ =
      .ok ⟨reached, whole⟩ := makes.foldlM fun _ member => absurd member List.not_mem_nil
  rcases fold with ⟨reached, success⟩
  rw [Record.read, success]
  rfl

end Record

end Shape

end ManifestLint
