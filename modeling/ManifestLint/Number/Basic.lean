import ManifestLint.Number.Shortest

/-!
# Numbers of a document

A number in a data document is an integer or a binary64 number.  The two kinds
never meet: `1` and `1.0` are different numbers.
-/

namespace ManifestLint

/-- A number as written in a document. -/
inductive Number where
  | integer (value : Int)
  | float (value : Number.Binary64)
deriving DecidableEq, Repr

namespace Number

/-- Whether two numbers count as one key of a mapping. -/
def same : Number → Number → Bool
  | .integer x, .integer y => x = y
  | .float x, .float y => x.sameNumber y
  | _, _ => false

/-- The text of a number in a data format. -/
def text : Number → String
  | .integer value => toString value
  | .float value => value.compactText

/-- Integers that fit a signed or an unsigned word of sixty-four bits. -/
def isWord (value : Int) : Bool :=
  -(powerOfTwo 63 : Int) ≤ value && value < powerOfTwo 64

end Number

end ManifestLint
