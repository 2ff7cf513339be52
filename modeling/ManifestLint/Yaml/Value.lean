import ManifestLint.Json.Value

/-!
# Data values

The value of a document, before anything is known of its shape.  Mappings keep
the order of their entries, and any value may be a key.  A tag that is local to
its document is kept around the value that it marks.
-/

namespace ManifestLint.Yaml

/-- A data value. -/
inductive Value where
  | null
  | bool (value : Bool)
  | number (value : Number)
  | string (value : String)
  | sequence (items : List Value)
  | mapping (entries : List (Value × Value))
  | tagged (tag : String) (content : Value)
deriving Inhabited, Repr

namespace Value

/-- The natural number `n`. -/
def nat (n : Nat) : Value :=
  .number (.integer n)

mutual

/-- Whether two values count as one key.  The order of a mapping's entries does
not matter. -/
def same : Value → Value → Bool
  | .null, .null => true
  | .bool x, .bool y => x == y
  | .number x, .number y => x.same y
  | .string x, .string y => x == y
  | .sequence xs, .sequence ys => sameItems xs ys
  | .mapping xs, .mapping ys => xs.length == ys.length && sameEntries xs ys
  | .tagged tag x, .tagged other y => tag == other && same x y
  | _, _ => false

/-- Whether two lists of values agree item by item. -/
def sameItems : List Value → List Value → Bool
  | [], [] => true
  | x :: xs, y :: ys => same x y && sameItems xs ys
  | _, _ => false

/-- Whether each of some entries occurs among other entries. -/
def sameEntries : List (Value × Value) → List (Value × Value) → Bool
  | [], _ => true
  | (key, value) :: rest, others =>
      others.any (fun other => same key other.1 && same value other.2) && sameEntries rest others

end

/-- Whether entries already have a key. -/
def hasKey (entries : List (Value × Value)) (key : Value) : Bool :=
  entries.any fun entry => same entry.1 key

/-- The value without the tags around it. -/
def untagged : Value → Value
  | .tagged _ content => untagged content
  | value => value

/-- The value under a string key of a mapping. -/
def lookup? (name : String) : Value → Option Value
  | .mapping entries =>
      (entries.find? fun entry => same entry.1 (.string name)).map (·.2)
  | _ => none

mutual

/-- Whether a local tag stands anywhere in a value, keys included. -/
def hasTag : Value → Bool
  | .tagged _ _ => true
  | .sequence items => anyItemHasTag items
  | .mapping entries => anyEntryHasTag entries
  | _ => false

/-- Whether a local tag stands in one of some items. -/
def anyItemHasTag : List Value → Bool
  | [] => false
  | item :: rest => hasTag item || anyItemHasTag rest

/-- Whether a local tag stands in one of some entries. -/
def anyEntryHasTag : List (Value × Value) → Bool
  | [] => false
  | (key, value) :: rest => hasTag key || hasTag value || anyEntryHasTag rest

end

mutual

/-- A JSON value is a data value without tags, whose keys are strings. -/
def ofJson : Json → Value
  | .null => .null
  | .bool value => .bool value
  | .number value => .number value
  | .string value => .string value
  | .array items => .sequence (ofJsonItems items)
  | .object members => .mapping (ofJsonMembers members)

/-- The items of an array. -/
def ofJsonItems : List Json → List Value
  | [] => []
  | item :: rest => ofJson item :: ofJsonItems rest

/-- The entries of an object; a name that is repeated later has its last
value. -/
def ofJsonMembers : List (String × Json) → List (Value × Value)
  | [] => []
  | (name, value) :: rest =>
      let later := ofJsonMembers rest
      if hasKey later (.string name) then later else (.string name, ofJson value) :: later

end

end Value

end ManifestLint.Yaml
