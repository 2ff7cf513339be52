import ManifestLint.Manifest
import ManifestLint.Lint.Check
import ManifestLint.Rule
import ManifestLint.Tree

/-!
# Findings

A finding tells what is wrong with a file: a resource that a rule rejects, or a
file that cannot be loaded.  Findings are written as JSON objects and can be
read back.
-/

namespace ManifestLint

/-- Why a file cannot be loaded. -/
inductive LoadError where
  | read (path : String) (error : ReadError)
  | manifest (error : ManifestError)

namespace LoadError

/-- The wording of a loading error. -/
def message : LoadError → String
  | .read path error => "failed to read " ++ path ++ ": " ++ error.message
  | .manifest error => error.message

/-- The position of the document at fault, where it is known. -/
def document? : LoadError → Option Nat
  | .read _ _ => none
  | .manifest error => error.document?

end LoadError

/-- One thing that is wrong with a file. -/
structure Finding where
  ruleId : String
  message : String
  file : Option String
  /-- The name of the resource, if it has one. -/
  resource : Option String
  /-- The kind of the resource; unknown if the file cannot be loaded. -/
  kind : Option String
  /-- The position of the resource in its file. -/
  document : Option Nat
  remediation : Option String
deriving DecidableEq, Repr

namespace Finding

/-- The finding for a resource that is rejected. -/
def ofViolation (violation : Violation) (file : String) (document : Nat)
    (resource : Resource) : Finding where
  ruleId := violation.ruleId
  message := violation.message
  file := some file
  resource := if resource.name.isEmpty then none else some resource.name
  kind := some resource.kind
  document := some document
  remediation := (Rule.find? violation.ruleId).map (·.remediation)

/-- The finding for a file that cannot be loaded. -/
def ofLoadError (error : LoadError) (file : String) : Finding where
  ruleId := parseErrorRule
  message := error.message
  file := some file
  resource := none
  kind := none
  document := error.document?
  remediation := (Rule.find? parseErrorRule).map (·.remediation)

/-- Whether the finding is about a file that cannot be loaded. -/
def isLoadFailure (finding : Finding) : Bool :=
  finding.ruleId = parseErrorRule

/-- The JSON object of a finding. -/
def toJson (finding : Finding) : Json :=
  .object
    [ ("rule_id", .string finding.ruleId),
      ("message", .string finding.message),
      ("file", .ofOption .string finding.file),
      ("resource", .ofOption .string finding.resource),
      ("kind", .ofOption .string finding.kind),
      ("document", .ofOption .nat finding.document),
      ("remediation", .ofOption .string finding.remediation) ]

/-- A string. -/
def stringOf? : Json → Option String
  | .string value => some value
  | _ => none

/-- An unsigned integer of sixty-four bits. -/
def wordOf? : Json → Option Nat
  | .number (.integer value) =>
      if 0 ≤ value ∧ value < Number.powerOfTwo 64 then some value.toNat else none
  | _ => none

/-- Null, or a value that a reader takes. -/
def optionOf? (read : Json → Option α) : Json → Option (Option α)
  | .null => some none
  | value => (read value).map some

/-- The finding with the given fields, in order of declaration. -/
def ofFields (ruleId message file resource kind document remediation : Json) :
    Option Finding := do
  return {
    ruleId := ← stringOf? ruleId
    message := ← stringOf? message
    file := ← optionOf? stringOf? file
    resource := ← optionOf? stringOf? resource
    kind := ← optionOf? stringOf? kind
    document := ← optionOf? wordOf? document
    remediation := ← optionOf? stringOf? remediation }

/-- Read a finding.  Fields besides the rule and the message may be missing, and
unknown ones are ignored; an array holds all fields in order. -/
def ofJson : Json → Option Finding
  | .object members =>
      let field (name : String) : Json := ((Json.object members).member? name).getD .null
      ofFields (field "rule_id") (field "message") (field "file") (field "resource")
        (field "kind") (field "document") (field "remediation")
  | .array [ruleId, message, file, resource, kind, document, remediation] =>
      ofFields ruleId message file resource kind document remediation
  | _ => none

end Finding

end ManifestLint
