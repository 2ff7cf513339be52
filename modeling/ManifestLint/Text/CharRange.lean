/-!
# Character classes as ranges of code points

A class of characters is a list of closed ranges, in increasing order.
-/

namespace ManifestLint.Text

/-- Closed ranges of code points. -/
abbrev CharRanges := List (Nat × Nat)

/-- Whether a character's code point lies in one of the ranges. -/
def CharRanges.contains (ranges : CharRanges) (c : Char) : Bool :=
  ranges.any fun range => range.1 ≤ c.toNat && c.toNat ≤ range.2

theorem CharRanges.contains_iff (ranges : CharRanges) (c : Char) :
    ranges.contains c = true ↔ ∃ range ∈ ranges, range.1 ≤ c.toNat ∧ c.toNat ≤ range.2 := by
  simp [CharRanges.contains]

end ManifestLint.Text
