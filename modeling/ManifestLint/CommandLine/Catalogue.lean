import ManifestLint.Rule
import ManifestLint.Text.Styled

/-!
# Texts about rules

The list of all rules, family by family, and all that is known about one rule.
-/

namespace ManifestLint.Rule

open ManifestLint.Text

/-- The width of the column of rules. -/
def idWidth : Nat :=
  28

/-- Whether a rule holds for untrusted repositories only, in a word. -/
def gate (colored : Bool) (rule : Rule) : String :=
  if rule.trustedOnly then paint colored .yellow 0 "UNTRUSTED"
  else paint colored .blue 0 "   ALWAYS"

/-- The line of a rule. -/
def listLine (colored : Bool) (rule : Rule) : String :=
  "    [" ++ rule.gate colored ++ "] " ++ String.ofList (padRight idWidth rule.id.toList) ++ " " ++
    rule.message ++ "\n"

/-- The lines of some rules, given the family of the rule before them.  Every
family has a heading, and there is an empty line between two families. -/
def listLines (colored : Bool) : Option RuleCategory → List Rule → String
  | _, [] => ""
  | before, rule :: rest =>
      let heading :=
        if before = some rule.category then ""
        else
          (if before.isSome then "\n" else "") ++
            "  " ++ paint colored .bold 0 rule.category.name ++ "\n"
      heading ++ rule.listLine colored ++ listLines colored (some rule.category) rest

/-- The list of all rules. -/
def listing (colored : Bool) : String :=
  paint colored .heading 0 "Rules" ++ "\n\n" ++ listLines colored none all ++
    "\n  Total: " ++ toString all.length ++ " rules\n"

/-- What there is to know about a rule. -/
def explanation (colored : Bool) (rule : Rule) : String :=
  let scope := if rule.trustedOnly then "untrusted repositories" else "all repositories"
  paint colored .bold 0 rule.id ++ "\n\n" ++
    "  Category:     " ++ rule.category.name ++ "\n" ++
    "  Applies to:   " ++ scope ++ "\n" ++
    "  Diagnostic:   " ++ rule.message ++ "\n" ++
    "  Remediation:  " ++ rule.remediation ++ "\n"

end ManifestLint.Rule
