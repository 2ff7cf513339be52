/-!
# Dictionaries with ordered keys

A dictionary lists its entries by strictly increasing key, so two dictionaries
with the same entries are equal.  `insert` replaces the value of a key that is
already there.
-/

namespace ManifestLint

/-- Entries under pairwise different keys, in the order of the keys. -/
structure Dictionary (α : Type u) where
  entries : List (String × α)
  ordered : entries.Pairwise fun left right => left.1 < right.1

namespace Dictionary

/-- The dictionary without entries. -/
def empty : Dictionary α :=
  ⟨[], List.Pairwise.nil⟩

instance : Inhabited (Dictionary α) :=
  ⟨empty⟩

/-- Two dictionaries with the same entries are equal. -/
@[ext]
theorem ext {left right : Dictionary α} (same : left.entries = right.entries) : left = right := by
  cases left
  cases right
  cases same
  rfl

/-- Put an entry into its place among ordered entries. -/
def insertEntry (key : String) (value : α) : List (String × α) → List (String × α)
  | [] => [(key, value)]
  | entry :: rest =>
      if key < entry.1 then (key, value) :: entry :: rest
      else if entry.1 < key then entry :: insertEntry key value rest
      else (key, value) :: rest

/-- Every entry of an insertion is the new one or an old one. -/
theorem mem_insertEntry {key : String} {value : α} {entries : List (String × α)}
    {entry : String × α} (member : entry ∈ insertEntry key value entries) :
    entry = (key, value) ∨ entry ∈ entries := by
  induction entries with
  | nil => simpa [insertEntry] using member
  | cons head rest ih =>
      unfold insertEntry at member
      split at member
      · simpa using member
      · split at member
        · rcases List.mem_cons.mp member with rfl | later
          · exact Or.inr (List.mem_cons_self ..)
          · rcases ih later with rfl | old
            · exact Or.inl rfl
            · exact Or.inr (List.mem_cons_of_mem _ old)
        · rcases List.mem_cons.mp member with rfl | later
          · exact Or.inl rfl
          · exact Or.inr (List.mem_cons_of_mem _ later)

/-- Insertion keeps entries ordered. -/
theorem insertEntry_ordered (key : String) (value : α) {entries : List (String × α)}
    (ordered : entries.Pairwise fun left right => left.1 < right.1) :
    (insertEntry key value entries).Pairwise fun left right => left.1 < right.1 := by
  induction entries with
  | nil => simp [insertEntry]
  | cons head rest ih =>
      have parts := List.pairwise_cons.mp ordered
      unfold insertEntry
      split
      · rename_i before
        refine List.pairwise_cons.mpr ⟨?_, ordered⟩
        intro entry member
        rcases List.mem_cons.mp member with rfl | later
        · exact before
        · exact String.lt_trans before (parts.1 entry later)
      · rename_i notBefore
        split
        · rename_i after
          refine List.pairwise_cons.mpr ⟨?_, ih parts.2⟩
          intro entry member
          rcases mem_insertEntry member with rfl | old
          · exact after
          · exact parts.1 entry old
        · rename_i notAfter
          have equal : head.1 = key := String.le_antisymm notBefore notAfter
          refine List.pairwise_cons.mpr ⟨?_, parts.2⟩
          intro entry member
          simpa [equal] using parts.1 entry member

/-- Put a value under a key. -/
def insert (dictionary : Dictionary α) (key : String) (value : α) : Dictionary α :=
  ⟨insertEntry key value dictionary.entries, insertEntry_ordered key value dictionary.ordered⟩

/-- The entries of an insertion. -/
@[simp]
theorem entries_insert (dictionary : Dictionary α) (key : String) (value : α) :
    (dictionary.insert key value).entries = insertEntry key value dictionary.entries :=
  rfl

/-- The value under a key. -/
def find? (dictionary : Dictionary α) (key : String) : Option α :=
  dictionary.entries.lookup key

end Dictionary

end ManifestLint
