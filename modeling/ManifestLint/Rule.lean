import ManifestLint.Lint.Violation

/-!
# The registry of rules

One entry for every diagnostic that the linter produces, in the order in which
the rules are checked.  The trust rules follow from the list of privileges.
-/

namespace ManifestLint

/-- Families of rules. -/
inductive RuleCategory where
  | yaml
  | platform
  | build
  | volume
  | step
  | container
  | trust
deriving DecidableEq, Repr

/-- The name of a family. -/
def RuleCategory.name : RuleCategory → String
  | .yaml => "yaml"
  | .platform => "platform"
  | .build => "build"
  | .volume => "volume"
  | .step => "step"
  | .container => "container"
  | .trust => "trust"

/-- What is known about a rule. -/
structure Rule where
  id : String
  category : RuleCategory
  /-- Whether the rule is checked for untrusted repositories only. -/
  trustedOnly : Bool
  /-- The form of the diagnostic. -/
  message : String
  /-- What to do about a violation. -/
  remediation : String
deriving DecidableEq, Repr

/-- The identifier reported for files that cannot be loaded. -/
def parseErrorRule : String :=
  "yaml/parse-error"

/-- How to do without a privilege. -/
def Privilege.remediation : Privilege → String
  | .hostVolume =>
      "Replace the `host` volume with a `temp` volume, or mark the repository as trusted."
  | .memoryVolume =>
      "Drop `medium: memory` from the `temp` volume, or mark the repository as trusted."
  | .hostPort =>
      "Remove the `host` key from the port mapping; " ++
        "services are reachable by name from other steps."
  | .devices => "Remove `devices`, or mark the repository as trusted."
  | .privileged => "Remove `privileged: true`, or mark the repository as trusted."
  | .dns => "Remove `dns`, or mark the repository as trusted."
  | .dnsSearch => "Remove `dns_search`, or mark the repository as trusted."
  | .extraHosts => "Remove `extra_hosts`, or mark the repository as trusted."
  | .networkMode => "Remove `network_mode`, or mark the repository as trusted."

/-- The rule that guards a privilege. -/
def Privilege.rule (privilege : Privilege) : Rule where
  id := privilege.ruleId
  category := .trust
  trustedOnly := true
  message := (Violation.untrusted privilege).message
  remediation := privilege.remediation

namespace Rule

/-- The rules that hold for every repository. -/
def structural : List Rule :=
  [ { id := parseErrorRule
      category := .yaml
      trustedOnly := false
      message := "yaml: <parser error>"
      remediation :=
        "Fix the YAML syntax and make sure every document declares a known `kind` " ++
          "(pipeline, secret, signature)." },
    { id := "platform/unsupported-os"
      category := .platform
      trustedOnly := false
      message := "linter: unsupported os: <os>"
      remediation :=
        "Set platform.os to `linux` or `windows`, or omit it to use the default." },
    { id := "platform/unsupported-arch"
      category := .platform
      trustedOnly := false
      message := "linter: unsupported architecture: <arch>"
      remediation :=
        "Set platform.arch to `amd64`, `arm` or `arm64`, or omit it to use the default." },
    { id := "build/missing-image"
      category := .build
      trustedOnly := false
      message := "linter: invalid or missing build image"
      remediation := "Give the build section an `image` to tag the built image with." },
    { id := "volume/reserved-name"
      category := .volume
      trustedOnly := false
      message := "linter: invalid volume name: <name>"
      remediation :=
        "Rename the volume; `_workspace` and `_docker_socket` are used by the runtime." },
    { id := "step/duplicate-name"
      category := .step
      trustedOnly := false
      message := "linter: duplicate step names"
      remediation :=
        "Give every step and service a unique name; steps and services share one namespace." },
    { id := "container/missing-name"
      category := .container
      trustedOnly := false
      message := "linter: invalid or missing name"
      remediation := "Add a non-empty `name` to every step and service." },
    { id := "container/missing-image"
      category := .container
      trustedOnly := false
      message := "linter: invalid or missing image"
      remediation := "Add a non-empty `image` to every step and service." } ]

/-- All rules, in the order in which they are checked. -/
def all : List Rule :=
  structural ++ Privilege.all.map Privilege.rule

/-- The rule with an identifier. -/
def find? (id : String) : Option Rule :=
  all.find? (·.id = id)

end Rule

end ManifestLint
