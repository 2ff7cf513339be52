import ManifestLint.Yaml.Token

/-!
# Folding lines

Inside a scalar that runs over several lines, a single line break becomes a
space, and of several breaks all but the first are kept.  A gap collects the
blanks and breaks between two visible characters until it is known what it
folds to.
-/

namespace ManifestLint.Yaml

/-- Blanks and breaks between two visible characters, the later ones first.
`leading` holds the first break, or nothing when that break was escaped. -/
inductive Gap where
  | blanks (reversed : List Char)
  | breaks (leading : List Char) (reversed : List Char)
deriving Repr

namespace Gap

/-- The gap without characters. -/
def none : Gap :=
  .blanks []

/-- Whether a line break lies in the gap. -/
def hasBreak : Gap → Bool
  | .blanks _ => false
  | .breaks _ _ => true

/-- Add a blank.  Blanks behind a break are indentation and are dropped. -/
def addBlank (c : Char) : Gap → Gap
  | .blanks reversed => .blanks (c :: reversed)
  | .breaks leading reversed => .breaks leading reversed

/-- Add a line break.  Blanks before the first one are dropped. -/
def addBreak (c : Char) : Gap → Gap
  | .blanks _ => .breaks [normalizeBreak c] []
  | .breaks leading reversed => .breaks leading (normalizeBreak c :: reversed)

/-- What the gap folds to, reversed. -/
def folded : Gap → List Char
  | .blanks reversed => reversed
  | .breaks ['\n'] [] => [' ']
  | .breaks ['\n'] reversed => reversed
  | .breaks leading reversed => reversed ++ leading.reverse

end Gap

end ManifestLint.Yaml
