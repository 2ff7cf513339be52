import ManifestLint.Run

/-!
# Positions of documents

Errors of loading count all documents of a text, null ones too.  Findings count
resources only, so a null document in front of a rejected one moves the finding away
from its document.  Without such documents both count alike.
-/

namespace ManifestLint

open ManifestLint.Yaml (Value Fault documents)

namespace Manifest

/-! ## Positions in errors -/

/-- A value declares nothing, or the same resource at all positions, or its error names the
position. -/
theorem resourceOf_cases (value : Value) :
    (value = .null ∧ ∀ index, resourceOf index value = .ok none) ∨
      value ≠ .null ∧ ((∃ resource, ∀ index, resourceOf index value = .ok (some resource)) ∨
        ∃ error : Nat → ManifestError, ∀ index, (error index).document? = some index ∧
          resourceOf index value = .error (error index)) := by
  by_cases null : value = .null
  · exact .inl ⟨null, fun index => null ▸ rfl⟩
  · right
    refine ⟨null, ?_⟩
    by_cases missing : (value.untagged.lookup? "kind").isNone = true
    · right
      refine ⟨.missingKind, fun index => ⟨rfl, ?_⟩⟩
      rw [resourceOf, if_pos missing]
      exact null
    · cases merged : value.merge with
      | error problem =>
          right
          refine ⟨fun index => .document index (.merge problem), fun index => ⟨rfl, ?_⟩⟩
          rw [resourceOf, if_neg missing, merged]
          · rfl
          · exact null
      | ok result =>
          cases read : Resource.read result with
          | error problem =>
              right
              refine ⟨fun index => .document index (.shape problem), fun index => ⟨rfl, ?_⟩⟩
              rw [resourceOf, if_neg missing, merged]
              · change (Resource.read result).mapError _ >>= _ = _
                rw [read]
                rfl
              · exact null
          | ok resource =>
              left
              refine ⟨resource, fun index => ?_⟩
              rw [resourceOf, if_neg missing, merged]
              · change (Resource.read result).mapError _ >>= _ = _
                rw [read]
                rfl
              · exact null

/-- The position of a document matters for its errors only. -/
theorem resourceOf_eq_ok_congr {index : Nat} {value : Value} {resource : Option Resource}
    (success : resourceOf index value = .ok resource) (other : Nat) :
    resourceOf other value = .ok resource := by
  obtain ⟨-, none⟩ | ⟨-, ⟨declared, some⟩ | ⟨error, fails⟩⟩ := resourceOf_cases value
  · rwa [none] at success ⊢
  · rwa [some] at success ⊢
  · rw [(fails index).2] at success
    cases success

/-- Only null declares nothing. -/
theorem resourceOf_eq_ok_none_iff {index : Nat} {value : Value} :
    resourceOf index value = .ok none ↔ value = .null := by
  constructor
  · intro nothing
    obtain ⟨null, -⟩ | ⟨-, ⟨declared, some⟩ | ⟨error, fails⟩⟩ := resourceOf_cases value
    · exact null
    · rw [some] at nothing
      cases nothing
    · rw [(fails index).2] at nothing
      cases nothing
  · rintro rfl
    rfl

/-- The parts of reading documents that begin with a well-formed one. -/
theorem resourcesFrom_cons_eq_ok_iff {index : Nat} {document : Except Fault Value}
    {rest : List (Except Fault Value)} {resources : List Resource} :
    resourcesFrom index (document :: rest) = .ok resources ↔
      ∃ value resource later, document = .ok value ∧ resourceOf index value = .ok resource ∧
        resourcesFrom (index + 1) rest = .ok later ∧ resources = resource.toList ++ later := by
  cases document with
  | error fault => simp [resourcesFrom]
  | ok value =>
      cases first : resourceOf index value with
      | error error => simp [resourcesFrom, first, bind, Except.bind]
      | ok resource =>
          cases later : resourcesFrom (index + 1) rest with
          | error error => simp [resourcesFrom, first, later, bind, Except.bind]
          | ok others => simp [resourcesFrom, first, later, bind, Except.bind, pure,
              Except.pure, eq_comm]

/-- An error of a document names its position. -/
theorem document?_of_resourceOf {index : Nat} {value : Value} {error : ManifestError}
    (failure : resourceOf index value = .error error) : error.document? = some index := by
  obtain ⟨-, none⟩ | ⟨-, ⟨declared, some⟩ | ⟨named, fails⟩⟩ := resourceOf_cases value
  · rw [none] at failure
    cases failure
  · rw [some] at failure
    cases failure
  · obtain ⟨position, same⟩ := fails index
    rw [same] at failure
    cases failure
    exact position

/-- A faulty document among others that are in order fails where it stands. -/
theorem resourcesFrom_set {index place : Nat} {value : Value} {error : ManifestError}
    (failure : resourceOf (index + place) value = .error error)
    {documents : List (Except Fault Value)} {resources : List Resource}
    (accepted : resourcesFrom index documents = .ok resources) (bound : place < documents.length) :
    resourcesFrom index (documents.set place (.ok value)) = .error error := by
  induction documents generalizing index place resources with
  | nil => simp at bound
  | cons document rest ih =>
      obtain ⟨own, resource, later, rfl, first, others, -⟩ :=
        resourcesFrom_cons_eq_ok_iff.mp accepted
      cases place with
      | zero =>
          rw [Nat.add_zero] at failure
          rw [List.set_cons_zero, resourcesFrom, failure]
          rfl
      | succ place =>
          have next : index + (place + 1) = index + 1 + place := by omega
          rw [next] at failure
          have reported := ih failure others (Nat.lt_of_succ_lt_succ bound)
          rw [List.set_cons_succ, resourcesFrom, first, reported]
          rfl

/-- Whether a document declares a resource that is rejected. -/
def Rejects (trusted : Bool) (document : Except Fault Value) : Prop :=
  ∃ value resource violation, document = .ok value ∧ resourceOf 0 value = .ok (some resource) ∧
    resource.check trusted = .error violation

end Manifest

open Manifest (resourceOf resourcesFrom Rejects)

namespace Finding

/-! ## Positions in findings -/

/-- The finding that a document calls for, at the position of the document. -/
def ofDocument (trusted : Bool) (file : String) (position : Nat) :
    Except Fault Value → List Finding
  | .error _ => []
  | .ok value =>
      match resourceOf position value with
      | .ok (some resource) =>
          match resource.check trusted with
          | .ok () => []
          | .error violation => [.ofViolation violation file position resource]
      | _ => []

/-- The findings that documents from the given position on call for. -/
def ofDocuments (trusted : Bool) (file : String) :
    Nat → List (Except Fault Value) → List Finding
  | _, [] => []
  | position, document :: rest =>
      ofDocument trusted file position document ++ ofDocuments trusted file (position + 1) rest

variable (trusted : Bool) (file : String)

/-- A document calls for a finding exactly if its resource is rejected. -/
theorem ofDocument_eq_nil_iff (position : Nat) (document : Except Fault Value) :
    ofDocument trusted file position document = [] ↔ ¬ Rejects trusted document := by
  cases document with
  | error fault => simp [ofDocument, Rejects]
  | ok value =>
      cases declared : resourceOf position value with
      | error error =>
          have never (resource : Option Resource) : resourceOf 0 value ≠ .ok resource := by
            intro success
            have failure := Manifest.resourceOf_eq_ok_congr success position
            rw [declared] at failure
            cases failure
          simp [ofDocument, Rejects, declared, never]
      | ok resource =>
          have first := Manifest.resourceOf_eq_ok_congr declared 0
          cases resource with
          | none => simp [ofDocument, Rejects, declared, first]
          | some resource =>
              cases verdict : resource.check trusted <;>
                simp [ofDocument, Rejects, declared, first, verdict]

/-- The finding about a resource stands first, unless the resource is accepted. -/
theorem ofResources_cons (position : Nat) {value : Value} {resource : Resource}
    (declared : resourceOf position value = .ok (some resource)) (rest : List Resource) :
    ofResources trusted file position (resource :: rest) =
      ofDocument trusted file position (.ok value) ++
        ofResources trusted file (position + 1) rest := by
  cases verdict : resource.check trusted <;> simp [ofResources, ofDocument, declared, verdict]

/-- Once resources are counted behind their documents, each finding is off its
document. -/
theorem ofResources_eq_ofDocuments_iff_of_lt {count position : Nat} (behind : count < position)
    {documents : List (Except Fault Value)} {resources : List Resource}
    (accepted : resourcesFrom position documents = .ok resources) :
    ofResources trusted file count resources = ofDocuments trusted file position documents ↔
      ∀ document ∈ documents, ¬ Rejects trusted document := by
  induction documents generalizing count position resources with
  | nil =>
      cases accepted
      simp [ofResources, ofDocuments]
  | cons document rest ih =>
      obtain ⟨value, declared, later, rfl, first, others, rfl⟩ :=
        Manifest.resourcesFrom_cons_eq_ok_iff.mp accepted
      rw [List.forall_mem_cons, ← ofDocument_eq_nil_iff trusted file position, ofDocuments]
      cases declared with
      | none =>
          obtain rfl := Manifest.resourceOf_eq_ok_none_iff.mp first
          simp [ofDocument, resourceOf, ih (Nat.lt_succ_of_lt behind) others]
      | some resource =>
          cases verdict : resource.check trusted with
          | ok allowed =>
              simp [ofResources, ofDocument, first, verdict, ih (Nat.succ_lt_succ behind) others]
          | error violation =>
              have apart : count ≠ position := Nat.ne_of_lt behind
              simp [ofResources, ofDocument, first, verdict, ofViolation, apart]

/-- While resources and documents are counted alike, findings are at their documents
up to the first null document. -/
theorem ofResources_eq_ofDocuments_iff {position : Nat}
    {documents : List (Except Fault Value)} {resources : List Resource}
    (accepted : resourcesFrom position documents = .ok resources) :
    ofResources trusted file position resources = ofDocuments trusted file position documents ↔
      documents.Pairwise fun earlier later => earlier = .ok .null → ¬ Rejects trusted later := by
  induction documents generalizing position resources with
  | nil =>
      cases accepted
      simp [ofResources, ofDocuments]
  | cons document rest ih =>
      obtain ⟨value, declared, later, rfl, first, others, rfl⟩ :=
        Manifest.resourcesFrom_cons_eq_ok_iff.mp accepted
      rw [List.pairwise_cons, ofDocuments]
      cases declared with
      | none =>
          obtain rfl := Manifest.resourceOf_eq_ok_none_iff.mp first
          have off := ofResources_eq_ofDocuments_iff_of_lt trusted file
            (Nat.lt_succ_self position) others
          simp only [ofDocument, resourceOf, Option.toList_none, List.nil_append, off,
            forall_const]
          constructor
          · intro accepts
            exact ⟨accepts, List.pairwise_of_forall_mem_list fun _ _ later member _ =>
              accepts later member⟩
          · exact And.left
      | some resource =>
          have notNull : value ≠ .null := by
            rintro rfl
            cases first
          rw [Option.toList_some, List.singleton_append,
            ofResources_cons trusted file position first,
            List.append_cancel_left_eq, ih others]
          simp [notNull]

end Finding

/-! ## Main statement -/

/-- A text is read back from the octets that encode it. -/
theorem Tree.text?_toUTF8 (text : String) : text? (some (.file text.toUTF8)) = .ok text := by
  have decoded : String.fromUTF8? text.toUTF8 = some text := by
    simp only [String.fromUTF8?, String.toUTF8_eq_toByteArray, dif_pos text.isValidUTF8]
    rfl
  simp only [text?, decoded]

/-- A pipeline with a step that has no image, and a null document behind it. -/
def nullBehind : String :=
  "kind: pipeline\nsteps:\n- name: build\n---\n"

/-- The same pipeline behind a null document. -/
def nullInFront : String :=
  "---\n---\nkind: pipeline\nsteps:\n- name: build\n"

end ManifestLint
