import ManifestLint.Lint.Privilege

/-!
# Violations

What the rules reject, with the identifier of the rule and the diagnostic that
users and tools see.
-/

namespace ManifestLint

/-- Why a resource is rejected. -/
inductive Violation where
  | unsupportedOs (os : String)
  | unsupportedArch (arch : String)
  | missingBuildImage
  | reservedVolumeName (name : String)
  | duplicateStepName (name : String)
  | missingName
  | missingImage
  | untrusted (privilege : Privilege)
deriving DecidableEq, Repr

namespace Violation

/-- The identifier of the violated rule. -/
def ruleId : Violation → String
  | .unsupportedOs _ => "platform/unsupported-os"
  | .unsupportedArch _ => "platform/unsupported-arch"
  | .missingBuildImage => "build/missing-image"
  | .reservedVolumeName _ => "volume/reserved-name"
  | .duplicateStepName _ => "step/duplicate-name"
  | .missingName => "container/missing-name"
  | .missingImage => "container/missing-image"
  | .untrusted privilege => privilege.ruleId

/-- Whether the violation would not occur in a trusted repository. -/
def isTrustGated : Violation → Bool
  | .untrusted _ => true
  | _ => false

/-- The diagnostic. -/
def message : Violation → String
  | .unsupportedOs os => "linter: unsupported os: " ++ os
  | .unsupportedArch arch => "linter: unsupported architecture: " ++ arch
  | .missingBuildImage => "linter: invalid or missing build image"
  | .reservedVolumeName name => "linter: invalid volume name: " ++ name
  | .duplicateStepName _ => "linter: duplicate step names"
  | .missingName => "linter: invalid or missing name"
  | .missingImage => "linter: invalid or missing image"
  | .untrusted privilege => "linter: untrusted repositories cannot " ++ privilege.action

end Violation

end ManifestLint
