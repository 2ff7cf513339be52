import ManifestLint.Toml.Value
import ManifestLint.Shape.Error

/-!
# Faults of a configuration text

A message about a configuration text quotes the line at fault and marks the
place with carets.  The line and the column count from one, and the column
counts characters; there is a caret for each octet of the place, as far as the
line goes, and at least one.
-/

namespace ManifestLint.Toml

open ManifestLint.Shape (Found Wanted)

/-- What is wrong with a configuration text. -/
inductive Problem where
  /-- No key, value, or header can be read here, or it repeats an earlier one. -/
  | grammar
  | invalidType (found : Found) (wanted : Wanted)
  | integerOverflow
  | floatOverflow
deriving DecidableEq, Repr

/-- The wording of a problem. -/
def Problem.message : Problem → String
  | .grammar => "invalid or repeated key, value, or header"
  | .invalidType found wanted => (Shape.Error.invalidType found wanted).message
  | .integerOverflow => "integer number overflowed"
  | .floatOverflow => "floating-point number overflowed"

/-- A problem and its place. -/
structure Fault where
  span : Span
  problem : Problem
deriving DecidableEq, Repr

namespace Fault

/-- Some spaces. -/
def spaces (count : Nat) : String :=
  String.ofList (List.replicate count ' ')

/-- The message about a fault of a text, with the line where it stands. -/
def message (text : String) (fault : Fault) : String :=
  let chars := text.toList
  let before := chars.take (chars.length - fault.span.remaining)
  let start := before.reverse.takeWhile (· != '\n')
  let column := start.length
  let line := start.reverse ++ (chars.drop before.length).takeWhile (· != '\n')
  let number := toString (before.count '\n' + 1)
  let carets := max 1 (min fault.span.octets (octetCount line - column))
  let margin := spaces (number.length + 1)
  "TOML parse error at line " ++ number ++ ", column " ++ toString (column + 1) ++ "\n" ++
    margin ++ "|\n" ++
    number ++ " | " ++ String.ofList line ++ "\n" ++
    margin ++ "|" ++ spaces (column + 1) ++ String.ofList (List.replicate carets '^') ++ "\n" ++
    fault.problem.message ++ "\n"

end Fault

end ManifestLint.Toml
