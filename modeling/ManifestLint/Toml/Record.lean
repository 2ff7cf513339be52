import ManifestLint.Toml.Fault

/-!
# Reading configuration values of a known shape

A record takes the fields that the entries of a table name, in the order of
their keys, or the items of an array in the order of declaration.  Fields that
are not set keep the value that they have in the empty record, and unknown keys
and surplus items are passed over.
-/

namespace ManifestLint.Toml

open ManifestLint.Number (powerOfTwo)
open ManifestLint.Shape (Found Wanted)

/-- A reader from configuration values. -/
abbrev Reader (α : Type u) := Value → Except Fault α

/-- What a scalar is found to be, unless its number is out of range. -/
def Scalar.found : Scalar → Except Problem Found
  | .string value => .ok (.string value)
  | .integer value =>
      if Number.isWord value then .ok (.integer value)
      else if -(powerOfTwo 127 : Int) ≤ value && value < powerOfTwo 128 then
        .ok (.wideInteger value)
      else .error .integerOverflow
  | .float (some value) => .ok (.float value)
  | .float none => .error .floatOverflow
  | .boolean value => .ok (.bool value)
  | .moment => .ok .map

/-- What a value is found to be. -/
def Value.found : Value → Except Problem Found
  | .scalar _ value => value.found
  | .array _ _ => .ok .sequence
  | .tables _ _ => .ok .sequence
  | .table _ _ _ => .ok .map

/-- Refuse a value for its kind. -/
def mismatch (value : Value) (wanted : Wanted) : Except Fault α :=
  match value.found with
  | .ok found => .error ⟨value.span, .invalidType found wanted⟩
  | .error problem => .error ⟨value.span, problem⟩

mutual

/-- Pass over a value.  Its numbers have to be in range. -/
def skip : Value → Except Fault Unit
  | .scalar span value =>
      match value.found with
      | .ok _ => .ok ()
      | .error problem => .error ⟨span, problem⟩
  | .array _ items => skipItems items
  | .tables _ items => skipTables items
  | .table _ _ entries => skipEntries entries

/-- Pass over some values. -/
def skipItems : List Value → Except Fault Unit
  | [] => .ok ()
  | item :: rest => do
      skip item
      skipItems rest

/-- Pass over some tables. -/
def skipTables : List (Span × List (String × Value)) → Except Fault Unit
  | [] => .ok ()
  | (_, entries) :: rest => do
      skipEntries entries
      skipTables rest

/-- Pass over the values of some entries. -/
def skipEntries : List (String × Value) → Except Fault Unit
  | [] => .ok ()
  | (_, value) :: rest => do
      skip value
      skipEntries rest

end

/-- The items of an array, or of the tables under a repeated header. -/
def Value.items? : Value → Option (List Value)
  | .array _ items => some items
  | .tables _ items => some (items.map fun item => .table item.1 .header item.2)
  | _ => none

/-- A boolean. -/
def readBool : Reader Bool
  | .scalar _ (.boolean value) => .ok value
  | value => mismatch value .boolean

/-- A string. -/
def readText : Reader String
  | .scalar _ (.string value) => .ok value
  | value => mismatch value .string

/-- An array of values of one shape. -/
def readList (read : Reader α) : Reader (List α) := fun value =>
  match value.items? with
  | some items => items.mapM read
  | none => mismatch value .sequence

/-- A field of a record. -/
structure Field (α : Type u) where
  name : String
  read : Value → α → Except Fault α

/-- A record: what it is called, its value before any field is set, and its
fields in order of declaration. -/
structure Record (α : Type u) where
  name : String
  initial : α
  fields : List (Field α)

namespace Record

/-- Set the fields that entries name. -/
def setEntries (record : Record α) : Entries → α → Except Fault α
  | [], result => .ok result
  | (key, value) :: rest, result => do
      match record.fields.find? (·.name = key) with
      | some field =>
          let next ← field.read value result
          record.setEntries rest next
      | none =>
          skip value
          record.setEntries rest result

/-- Set fields from items in order of declaration, as many as there are of
both. -/
def setItems : List (Field α) → List Value → α → Except Fault α
  | field :: fields, item :: items, result => do
      let next ← field.read item result
      setItems fields items next
  | _, _, result => .ok result

/-- Read a record.  A date or a time counts as a table without known keys. -/
def read (record : Record α) : Reader α := fun value =>
  match value with
  | .table _ _ entries => record.setEntries entries record.initial
  | .scalar _ .moment => .ok record.initial
  | value =>
      match value.items? with
      | some items => setItems record.fields items record.initial
      | none => mismatch value (.record record.name)

end Record

end ManifestLint.Toml
