import ManifestLint.Number.Basic

/-!
# JSON values

Objects keep their members in the order in which they are written.
-/

namespace ManifestLint

/-- A JSON value. -/
inductive Json where
  | null
  | bool (value : Bool)
  | number (value : Number)
  | string (value : String)
  | array (items : List Json)
  | object (members : List (String × Json))
deriving Inhabited

namespace Json

/-- A natural number. -/
def nat (value : Nat) : Json :=
  .number (.integer value)

/-- A value that may be absent, which is written as null. -/
def ofOption (encode : α → Json) : Option α → Json
  | none => .null
  | some value => encode value

/-- The value of an object's member; of several with one name, the last. -/
def member? (name : String) : Json → Option Json
  | .object members => (members.reverse.find? (·.1 = name)).map (·.2)
  | _ => none

end Json

end ManifestLint
