import ManifestLint.Yaml.Document
import ManifestLint.Yaml.Merge
import ManifestLint.Resource.Reading

/-!
# Manifests

A manifest is the list of resources that the documents of a text declare.
Documents are looked at one by one, so the first fault decides; documents that
are null are passed over, but they count in the positions of the others.
-/

namespace ManifestLint

/-- The resources of a text in the order of their documents. -/
structure Manifest where
  resources : List Resource

/-- What is wrong with a document that is well formed. -/
inductive DocumentProblem where
  | merge (problem : Yaml.MergeProblem)
  | shape (error : Shape.Error)
deriving DecidableEq, Repr

/-- The wording of what is wrong with a document. -/
def DocumentProblem.message : DocumentProblem → String
  | .merge problem => problem.message
  | .shape error => error.message

/-- Why a text is no manifest. -/
inductive ManifestError where
  | malformed (fault : Yaml.Fault)
  | document (index : Nat) (problem : DocumentProblem)
  | missingKind (index : Nat)

namespace ManifestError

/-- The wording of an error. -/
def message : ManifestError → String
  | .malformed fault => "yaml: " ++ fault.message
  | .document index problem => "yaml: document " ++ toString index ++ ": " ++ problem.message
  | .missingKind index => "yaml: document " ++ toString index ++ ": missing kind"

/-- The position of the document at fault, where it is known. -/
def document? : ManifestError → Option Nat
  | .malformed _ => none
  | .document index _ => some index
  | .missingKind index => some index

end ManifestError

namespace Manifest

/-- The resource that a value declares, if it is not null: the value has a kind,
its merge keys are followed, and it has the shape of that kind. -/
def resourceOf (index : Nat) (value : Yaml.Value) : Except ManifestError (Option Resource) :=
  match value with
  | .null => .ok none
  | value =>
      if (value.untagged.lookup? "kind").isNone then .error (.missingKind index)
      else do
        let merged ← value.merge.mapError fun problem => .document index (.merge problem)
        let resource ← (Resource.read merged).mapError fun error => .document index (.shape error)
        return some resource

/-- The resources of documents from the given position on. -/
def resourcesFrom : Nat → List (Except Yaml.Fault Yaml.Value) →
    Except ManifestError (List Resource)
  | _, [] => .ok []
  | _, .error fault :: _ => .error (.malformed fault)
  | index, .ok value :: rest => do
      let resource ← resourceOf index value
      let resources ← resourcesFrom (index + 1) rest
      return resource.toList ++ resources

/-- Read the manifest that a text holds. -/
def read (text : String) : Except ManifestError Manifest :=
  (resourcesFrom 0 (Yaml.documents text)).map Manifest.mk

/-- The pipelines of a manifest. -/
def pipelines (manifest : Manifest) : List Pipeline :=
  manifest.resources.filterMap fun resource =>
    match resource with
    | .pipeline declared => some declared
    | _ => none

end Manifest

end ManifestLint
