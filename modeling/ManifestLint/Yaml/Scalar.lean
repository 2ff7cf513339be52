import ManifestLint.Yaml.Fault
import ManifestLint.Yaml.Token
import ManifestLint.Number.Digits

/-!
# The values of scalars

A plain scalar is null, a boolean, an integer, or a floating point number if it
is spelled like one, and a string otherwise; all other scalars are strings.  A
core tag forces a reading, and a tag that starts with an exclamation mark is
local: it stays with the value.
-/

namespace ManifestLint.Yaml

open ManifestLint.Number (Binary64 numeral? decimal? powerOfTwo)

/-- The spellings of null. -/
def isNullText (text : String) : Bool :=
  ["null", "Null", "NULL", "~"].contains text

/-- The boolean that a text spells. -/
def boolOf? (text : String) : Option Bool :=
  if ["true", "True", "TRUE"].contains text then some true
  else if ["false", "False", "FALSE"].contains text then some false
  else none

/-- Whether digits start with a zero that decimal numbers do not have. -/
def hasLeadingZero (digits : List Char) : Bool :=
  match digits with
  | '0' :: rest => !rest.isEmpty && rest.all Char.isDigit
  | _ => false

/-- The number that an unsigned integer spells: digits after a word for the
base, or decimal digits. -/
def magnitude? : List Char → Option Nat
  | '0' :: 'x' :: digits => numeral? 16 digits
  | '0' :: 'o' :: digits => numeral? 8 digits
  | '0' :: 'b' :: digits => numeral? 2 digits
  | digits => if hasLeadingZero digits then none else numeral? 10 digits

/-- The integer that a text spells, if a word of 128 bits can hold it: an
unsigned one behind no sign or a plus, and a signed one behind a minus. -/
def integerOf? (text : List Char) : Option Int :=
  match text with
  | '-' :: rest => do
      let size ← magnitude? rest
      if size ≤ powerOfTwo 127 then some (-(size : Int)) else none
  | '+' :: rest => unsigned? rest
  | rest => unsigned? rest
where
  /-- The unsigned integer that a text spells. -/
  unsigned? (text : List Char) : Option Int := do
    let size ← magnitude? text
    if size < powerOfTwo 128 then some size else none

/-- Whether a text is an optional sign and digits with a superfluous zero. -/
def isPaddedInteger (text : List Char) : Bool :=
  hasLeadingZero (Number.spanSign text).2

/-- The finite number that a text without a plus spells. -/
def finite? (negative : Bool) (text : List Char) : Option Binary64 := do
  let (coefficient, exponent) ← decimal? text
  let number := Binary64.ofDecimal negative coefficient exponent
  if number.isFinite then some number else none

/-- The floating point number that a text spells. -/
def floatOf? (text : String) : Option Binary64 :=
  if [".inf", ".Inf", ".INF", "+.inf", "+.Inf", "+.INF"].contains text then
    some Binary64.infinity
  else if ["-.inf", "-.Inf", "-.INF"].contains text then some Binary64.negativeInfinity
  else if [".nan", ".NaN", ".NAN"].contains text then some Binary64.nan
  else
    match text.toList with
    | '+' :: rest => finite? false rest
    | '-' :: rest => finite? true rest
    | rest => finite? false rest

/-- The value of an integer.  One that no word of 64 bits can hold is not a
value. -/
def ofInteger (value : Int) : Except ValueProblem Value :=
  if Number.isWord value then .ok (.number (.integer value)) else .error (.wideInteger value)

/-- The value of a plain scalar without a tag. -/
def ofPlain (text : String) : Except ValueProblem Value :=
  if text.isEmpty || isNullText text then .ok .null
  else
    match boolOf? text, integerOf? text.toList with
    | some value, _ => .ok (.bool value)
    | none, some value => ofInteger value
    | none, none =>
        if isPaddedInteger text.toList then .ok (.string text)
        else
          match floatOf? text with
          | some value => .ok (.number (.float value))
          | none => .ok (.string text)

/-- The value of a scalar whose tag does not matter. -/
def ofStyled (style : ScalarStyle) (text : String) : Except ValueProblem Value :=
  if style = .plain then ofPlain text else .ok (.string text)

/-- The value of a scalar whose reading is forced. -/
def ofTyped (type : CoreType) (text : String) : Except ValueProblem Value :=
  let refuse : Except ValueProblem Value := .error (.notOfType text type)
  match type with
  | .bool =>
      match boolOf? text with
      | some value => .ok (.bool value)
      | none => refuse
  | .int =>
      match integerOf? text.toList with
      | some value => ofInteger value
      | none => refuse
  | .float =>
      match floatOf? text with
      | some value => .ok (.number (.float value))
      | none => refuse
  | .null => if isNullText text then .ok .null else refuse

/-! ## Tags -/

/-- What a tag means for the reading of a scalar. -/
inductive TagMeaning where
  | core (type : CoreType)
  | localTag (name : String)
  /-- A local tag whose octets are no text. -/
  | garbled
  | foreign
deriving DecidableEq, Repr

/-- The tags that force a reading. -/
def coreTags : List (String × CoreType) :=
  [("tag:yaml.org,2002:bool", .bool), ("tag:yaml.org,2002:int", .int),
    ("tag:yaml.org,2002:float", .float), ("tag:yaml.org,2002:null", .null)]

/-- The name of a local tag: one more leading exclamation mark does not tell two
of them apart. -/
def localName (name : String) : String :=
  match name.toList with
  | '!' :: c :: rest => String.ofList (c :: rest)
  | _ => name

/-- The meaning of a tag by its octets. -/
def TagMeaning.ofOctets (octets : List UInt8) : TagMeaning :=
  match octets with
  | 33 :: rest =>
      match String.fromUTF8? ⟨(if rest.isEmpty then octets else rest).toArray⟩ with
      | some name => .localTag (localName name)
      | none => .garbled
  | _ =>
      match String.fromUTF8? ⟨octets.toArray⟩ with
      | some name =>
          match coreTags.lookup name with
          | some type => .core type
          | none => .foreign
      | none => .foreign

/-- The value of a scalar. -/
def ofScalar (tag : Option (List UInt8)) (style : ScalarStyle) (text : String) :
    Except ValueProblem Value :=
  match tag.map TagMeaning.ofOctets with
  | none => ofStyled style text
  | some (.core type) => ofTyped type text
  | some (.localTag name) => (ofStyled style text).map (.tagged name)
  | some .garbled => ofStyled style text
  | some .foreign => .ok (.string text)

/-- Put the tag of a collection around its value, if it is a local one. -/
def tagCollection (tag : Option (List UInt8)) (value : Value) : Value :=
  match tag.map TagMeaning.ofOctets with
  | some (.localTag name) => .tagged name value
  | _ => value

end ManifestLint.Yaml
