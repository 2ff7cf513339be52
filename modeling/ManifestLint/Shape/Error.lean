import ManifestLint.Yaml.Value
import ManifestLint.Text.Quoted

/-!
# Values of the wrong shape

The reasons why a value is not of the shape that a reader asks for, and their
wording.
-/

namespace ManifestLint.Shape

open ManifestLint.Text

/-- What stands in the document. -/
inductive Found where
  | unit
  | bool (value : Bool)
  | integer (value : Int)
  /-- An integer that no word of sixty-four bits can hold. -/
  | wideInteger (value : Int)
  | float (value : Number.Binary64)
  | string (value : String)
  | sequence
  | map
  | tagged
deriving DecidableEq, Repr

/-- The description of what was found. -/
def Found.text : Found → String
  | .unit => "unit value"
  | .bool value => "boolean `" ++ toString value ++ "`"
  | .integer value => "integer `" ++ toString value ++ "`"
  | .wideInteger value =>
      "integer `" ++ toString value ++ "` as " ++
        (if value < Number.powerOfTwo 127 then "i128" else "u128")
  | .float value => "floating point `" ++ value.positionalText ++ "`"
  | .string value => "string " ++ quoted value
  | .sequence => "sequence"
  | .map => "map"
  | .tagged => "enum"

/-- The found kind of a data value. -/
def Found.ofValue : Yaml.Value → Found
  | .null => .unit
  | .bool value => .bool value
  | .number (.integer value) => .integer value
  | .number (.float value) => .float value
  | .string value => .string value
  | .sequence _ => .sequence
  | .mapping _ => .map
  | .tagged _ _ => .tagged

/-- What a reader asks for. -/
inductive Wanted where
  | string
  | boolean
  | sequence
  | map
  | word64
  | word16
  | record (name : String)
  | fieldName
  | variantName
  | union (name : String)
deriving DecidableEq, Repr

/-- The description of what is asked for. -/
def Wanted.text : Wanted → String
  | .string => "a string"
  | .boolean => "a boolean"
  | .sequence => "a sequence"
  | .map => "a map"
  | .word64 => "u64"
  | .word16 => "u16"
  | .record name => "struct " ++ name
  | .fieldName => "field identifier"
  | .variantName => "variant identifier"
  | .union name => "internally tagged enum " ++ name

/-- Why a value has the wrong shape. -/
inductive Error where
  | invalidType (found : Found) (wanted : Wanted)
  | invalidValue (found : Found) (wanted : Wanted)
  | unknownVariant (name : String) (variants : List String)
  | missingField (name : String)
  | duplicateField (name : String)
  | invalidLength (length fieldCount : Nat)
  | noAlternative (union : String)
  | unsupportedTag
deriving DecidableEq, Repr

/-- A list of names in backquotes. -/
def backquotedList (names : List String) : String :=
  ", ".intercalate (names.map fun name => "`" ++ name ++ "`")

/-- The wording of a shape error. -/
def Error.message : Error → String
  | .invalidType found wanted => "invalid type: " ++ found.text ++ ", expected " ++ wanted.text
  | .invalidValue found wanted => "invalid value: " ++ found.text ++ ", expected " ++ wanted.text
  | .unknownVariant name variants =>
      "unknown variant `" ++ name ++ "`, expected one of " ++ backquotedList variants
  | .missingField name => "missing field `" ++ name ++ "`"
  | .duplicateField name => "duplicate field `" ++ name ++ "`"
  | .invalidLength length fieldCount =>
      "invalid length " ++ toString length ++ ", expected " ++ toString fieldCount ++
        (if fieldCount = 1 then " element" else " elements") ++ " in sequence"
  | .noAlternative union => "data did not match any variant of untagged enum " ++ union
  | .unsupportedTag => "untagged and internally tagged enums do not support enum input"

end ManifestLint.Shape
