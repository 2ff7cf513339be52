import ManifestLint.Shape.Error
import ManifestLint.Dictionary

/-!
# Reading values of a known shape

A record is described by its fields, each with its name, perhaps a second name,
and a reader that says what a value makes of the record.  A mapping sets the fields that
its keys name, by name or by position, in the order of its entries; a sequence
sets the fields in the order of their declaration.  Fields that are not set keep
the value that they have in the empty record.
-/

namespace ManifestLint.Shape

open ManifestLint.Yaml (Value)

/-- A reader from data values. -/
abbrev Reader (α : Type u) := Value → Except Error α

/-- Refuse a value for its kind. -/
def mismatch (value : Value) (wanted : Wanted) : Except Error α :=
  .error (.invalidType (.ofValue value) wanted)

/-- A string. -/
def readString : Reader String
  | .string value => .ok value
  | value => mismatch value .string

/-- A boolean. -/
def readBool : Reader Bool
  | .bool value => .ok value
  | value => mismatch value .boolean

/-- An integer from zero to the given limit. -/
def readBounded (limit : Nat) (wanted : Wanted) : Reader Nat
  | .number (.integer value) =>
      if 0 ≤ value ∧ value < limit then .ok value.toNat
      else .error (.invalidValue (.integer value) wanted)
  | value => mismatch value wanted

/-- An unsigned integer of sixteen bits. -/
def readWord16 : Reader UInt16 := fun value =>
  (readBounded (Number.powerOfTwo 16) .word16 value).map UInt16.ofNat

/-- An unsigned integer of sixty-four bits. -/
def readWord64 : Reader UInt64 := fun value =>
  (readBounded (Number.powerOfTwo 64) .word64 value).map UInt64.ofNat

/-- Null, or a value of the given shape. -/
def readOption (read : Reader α) : Reader (Option α)
  | .null => .ok none
  | value => (read value).map some

/-- Read each item of a list, from the first on. -/
def readItems (read : Reader α) : List Value → Except Error (List α)
  | [] => .ok []
  | item :: rest => do
      let first ← read item
      let others ← readItems read rest
      return first :: others

/-- A sequence of values of one shape. -/
def readList (read : Reader α) : Reader (List α)
  | .sequence items => readItems read items
  | value => mismatch value .sequence

/-- Read an entry with a string key into a dictionary. -/
def readEntry (read : Reader α) (dictionary : Dictionary α) (entry : Value × Value) :
    Except Error (Dictionary α) := do
  let name ← readString entry.1
  let content ← read entry.2
  return dictionary.insert name content

/-- A mapping from strings to values of one shape. -/
def readDictionary (read : Reader α) : Reader (Dictionary α)
  | .mapping entries => entries.foldlM (readEntry read) .empty
  | value => mismatch value .map

/-- A field of a record: its names, and what its value makes of the record. -/
structure Field (α : Type u) where
  name : String
  secondName : Option String := none
  read : Reader (α → α)

/-- A field whose value is put into the record. -/
def Field.of (name : String) (read : Reader β) (put : β → α → α)
    (secondName : Option String := none) : Field α where
  name := name
  secondName := secondName
  read value := (read value).map put

/-- Whether a field has a name. -/
def Field.hasName (field : Field α) (name : String) : Bool :=
  field.name = name || field.secondName = some name

/-- A record: what it is called, its value before any field is set, and its
fields in order of declaration. -/
structure Record (α : Type u) where
  name : String
  initial : α
  fields : List (Field α)

namespace Record

/-- The position of the field that a key names, if there is such a field.  A
key is a name or the position itself. -/
def position? (record : Record α) : Value → Except Error (Option Nat)
  | .string name => .ok (record.fields.findIdx? (·.hasName name))
  | .number (.integer value) =>
      if value < 0 then mismatch (.number (.integer value)) .fieldName
      else .ok (if value < record.fields.length then some value.toNat else none)
  | key => mismatch key .fieldName

/-- The field that a key names, with its position. -/
def field? (record : Record α) (key : Value) : Except Error (Option (Nat × Field α)) := do
  let position? ← record.position? key
  return position?.bind fun position =>
    (record.fields[position]?).map fun field => (position, field)

/-- A record as far as its fields are set, and the positions of those. -/
structure Progress (α : Type u) where
  positions : List Nat
  result : α

/-- Set the field that an entry names.  No field is set twice. -/
def setEntry (record : Record α) (progress : Progress α) (entry : Value × Value) :
    Except Error (Progress α) := do
  match ← record.field? entry.1 with
  | none => return progress
  | some (position, field) =>
      if position ∈ progress.positions then .error (.duplicateField field.name)
      else
        let change ← field.read entry.2
        return ⟨position :: progress.positions, change progress.result⟩

/-- Set fields from items in order of declaration, as many as there are of
both. -/
def setItems : List (Field α) → List Value → α → Except Error α
  | field :: fields, item :: items, result => do
      let change ← field.read item
      setItems fields items (change result)
  | _, _, result => .ok result

/-- Read a record. -/
def read (record : Record α) : Reader α
  | .mapping entries => do
      let progress ← entries.foldlM record.setEntry ⟨[], record.initial⟩
      return progress.result
  | .sequence items => do
      let result ← setItems record.fields items record.initial
      if record.fields.length < items.length then
        .error (.invalidLength items.length record.fields.length)
      else return result
  | value => mismatch value (.record record.name)

end Record

end ManifestLint.Shape
