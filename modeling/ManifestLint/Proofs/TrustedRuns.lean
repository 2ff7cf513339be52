import Mathlib.Data.List.Forall2
import ManifestLint.Proofs.StrippedPipelines
import ManifestLint.Run

/-!
# Runs with and without trust

The same files are linted whether or not repositories are trusted.  With trust, a
finding about a privilege goes away or gives way to what it hid in the same
document; every other finding stays where it is.
-/

namespace ManifestLint

/-! ## Verdicts -/

namespace Resource

/-- A trusted verdict is the untrusted one, unless that is about a privilege. -/
theorem check_true_eq_or_gated (resource : Resource) :
    resource.check true = resource.check false ∨
      ∃ violation, resource.check false = .error violation ∧ violation.isTrustGated = true := by
  cases resource with
  | secret declared => exact Or.inl rfl
  | signature declared => exact Or.inl rfl
  | pipeline declared =>
      simp only [check, Pipeline.check_eq_ofList]
      cases untrusted : Verdict.ofList false declared.violations with
      | ok accepted =>
          rw [Verdict.ofList_false_eq_ok_iff] at untrusted
          simp [untrusted]
      | error violation =>
          cases gated : violation.isTrustGated with
          | true => exact Or.inr ⟨violation, rfl, gated⟩
          | false => exact Or.inl (Verdict.ofList_true_of_false untrusted gated)

/-- No trusted verdict is about a privilege. -/
theorem not_gated_of_check_true {resource : Resource} {violation : Violation}
    (rejected : resource.check true = .error violation) : violation.isTrustGated = false := by
  cases resource with
  | secret declared => cases rejected
  | signature declared => cases rejected
  | pipeline declared =>
      rw [check, Pipeline.check_eq_ofList] at rejected
      exact Verdict.not_gated_of_ofList_true rejected

end Resource

/-! ## Findings -/

namespace Finding

/-- Whether the finding is about a privilege: its rule is one of those on trust. -/
def isPrivilege (finding : Finding) : Bool :=
  "trust/".toList.isPrefixOf finding.ruleId.toList

/-- A finding about a resource names a rule on trust exactly if trust lifts what it is
about. -/
@[simp]
theorem isPrivilege_ofViolation (violation : Violation) (file : String) (document : Nat)
    (resource : Resource) :
    (ofViolation violation file document resource).isPrivilege = violation.isTrustGated := by
  change "trust/".toList.isPrefixOf violation.ruleId.toList = _
  cases violation with
  | untrusted privilege => cases privilege <;> decide
  | _ => simp [Violation.ruleId, Violation.isTrustGated, List.isPrefixOf]

@[simp]
theorem isPrivilege_ofLoadError (error : LoadError) (file : String) :
    (ofLoadError error file).isPrivilege = false := by
  change "trust/".toList.isPrefixOf parseErrorRule.toList = false
  decide

@[simp]
theorem isLoadFailure_ofViolation (violation : Violation) (file : String) (document : Nat)
    (resource : Resource) :
    (ofViolation violation file document resource).isLoadFailure = false := by
  change decide (violation.ruleId = parseErrorRule) = false
  cases violation with
  | untrusted privilege => cases privilege <;> rfl
  | _ => rfl

/-- A file that cannot be loaded is no matter of trust. -/
theorem isLoadFailure_of_isPrivilege {finding : Finding} (privilege : finding.isPrivilege = true) :
    finding.isLoadFailure = false := by
  cases failure : finding.isLoadFailure with
  | false => rfl
  | true =>
      have rule : finding.ruleId = parseErrorRule := by simpa [isLoadFailure] using failure
      rw [isPrivilege, rule] at privilege
      exact absurd privilege (by decide)

/-- What trust does to a list of findings: one about a privilege is lifted, or it
uncovers another finding at its place, and all others stay. -/
inductive Eased : List Finding → List Finding → Prop where
  | nil : Eased [] []
  | stays {finding : Finding} {rest others : List Finding}
      (notPrivilege : finding.isPrivilege = false) (later : Eased rest others) :
      Eased (finding :: rest) (finding :: others)
  | lifted {finding : Finding} {rest others : List Finding}
      (privilege : finding.isPrivilege = true) (later : Eased rest others) :
      Eased (finding :: rest) others
  | uncovers {finding other : Finding} {rest others : List Finding}
      (privilege : finding.isPrivilege = true) (notPrivilege : other.isPrivilege = false)
      (notFailure : other.isLoadFailure = false) (sameFile : finding.file = other.file)
      (sameDocument : finding.document = other.document) (later : Eased rest others) :
      Eased (finding :: rest) (other :: others)

namespace Eased

variable {untrusted trusted : List Finding}

theorem append {untrustedRest trustedRest : List Finding} (first : Eased untrusted trusted)
    (rest : Eased untrustedRest trustedRest) :
    Eased (untrusted ++ untrustedRest) (trusted ++ trustedRest) := by
  induction first with
  | nil => exact rest
  | stays notPrivilege _ ih => exact stays notPrivilege ih
  | lifted privilege _ ih => exact lifted privilege ih
  | uncovers privilege notPrivilege notFailure sameFile sameDocument _ ih =>
      exact uncovers privilege notPrivilege notFailure sameFile sameDocument ih

theorem isPrivilege_eq_false (eased : Eased untrusted trusted) :
    ∀ finding ∈ trusted, finding.isPrivilege = false := by
  induction eased with
  | nil => simp
  | stays notPrivilege _ ih => simpa [notPrivilege] using ih
  | lifted _ _ ih => exact ih
  | uncovers _ notPrivilege _ _ _ _ ih => simpa [notPrivilege] using ih

/-- A finding under trust stands where one without trust does, and is the same unless
that one is about a privilege. -/
theorem exists_untrusted (eased : Eased untrusted trusted) :
    ∀ finding ∈ trusted, ∃ other ∈ untrusted,
      other.file = finding.file ∧ other.document = finding.document ∧
        (other.isPrivilege = false → other = finding) := by
  induction eased with
  | nil => simp
  | @stays finding rest others _ _ ih =>
      rw [List.forall_mem_cons]
      refine ⟨⟨finding, List.mem_cons_self, rfl, rfl, fun _ => rfl⟩, ?_⟩
      intro later member
      obtain ⟨other, otherMember, same⟩ := ih later member
      exact ⟨other, List.mem_cons_of_mem finding otherMember, same⟩
  | @lifted finding rest others _ _ ih =>
      intro later member
      obtain ⟨other, otherMember, same⟩ := ih later member
      exact ⟨other, List.mem_cons_of_mem finding otherMember, same⟩
  | @uncovers finding other rest others privilege _ _ sameFile sameDocument _ ih =>
      rw [List.forall_mem_cons]
      refine ⟨⟨finding, List.mem_cons_self, sameFile, sameDocument, ?_⟩, ?_⟩
      · simp [privilege]
      · intro later member
        obtain ⟨other, otherMember, same⟩ := ih later member
        exact ⟨other, List.mem_cons_of_mem finding otherMember, same⟩

/-- Findings that are not about privileges stay, in their order. -/
theorem filter_sublist (eased : Eased untrusted trusted) :
    (untrusted.filter fun finding => !finding.isPrivilege).Sublist trusted := by
  induction eased with
  | nil => exact List.Sublist.slnil
  | stays notPrivilege _ ih => simpa [notPrivilege] using ih
  | lifted privilege _ ih => simpa [privilege] using ih
  | uncovers privilege _ _ _ _ _ ih => simpa [privilege] using ih.cons _

/-- Files that cannot be loaded are reported alike. -/
theorem filter_isLoadFailure (eased : Eased untrusted trusted) :
    untrusted.filter (·.isLoadFailure) = trusted.filter (·.isLoadFailure) := by
  induction eased with
  | nil => rfl
  | stays _ _ ih => simp [List.filter_cons, ih]
  | lifted privilege _ ih => simp [isLoadFailure_of_isPrivilege privilege, ih]
  | uncovers privilege _ notFailure _ _ _ ih =>
      simp [isLoadFailure_of_isPrivilege privilege, notFailure, ih]

theorem eq_nil (eased : Eased [] trusted) : trusted = [] := by
  cases eased
  rfl

end Eased

/-- Each resource has its position under either setting, so trust eases the findings
of a file resource by resource. -/
theorem eased_ofResources (file : String) (index : Nat) (resources : List Resource) :
    Eased (ofResources false file index resources) (ofResources true file index resources) := by
  induction resources generalizing index with
  | nil => exact Eased.nil
  | cons resource rest ih =>
      have later := ih (index + 1)
      rcases resource.check_true_eq_or_gated with same | ⟨violation, untrusted, gated⟩
      · rw [ofResources, ofResources, same]
        cases trusted : resource.check false with
        | ok accepted => exact later
        | error violation =>
            have notGated := Resource.not_gated_of_check_true (same.trans trusted)
            exact Eased.stays (by simp [notGated]) later
      · simp only [ofResources, untrusted]
        cases trusted : resource.check true with
        | ok accepted => exact Eased.lifted (by simp [gated]) later
        | error other =>
            have notGated := Resource.not_gated_of_check_true trusted
            exact Eased.uncovers (by simp [gated]) (by simp [notGated])
              (isLoadFailure_ofViolation ..) rfl rfl later

end Finding

/-! ## Reports -/

/-- What trust does to the report on a file. -/
structure FileReport.Eased (untrusted trusted : FileReport) : Prop where
  file : untrusted.file = trusted.file
  resourcesLinted : untrusted.resourcesLinted = trusted.resourcesLinted
  parseFailed : untrusted.parseFailed = trusted.parseFailed
  findings : Finding.Eased untrusted.findings trusted.findings

theorem FileReport.eased_ofLoaded (file : String) (earlier later : Nat)
    (loaded : Except LoadError Manifest) :
    Eased (ofLoaded false file earlier loaded) (ofLoaded true file later loaded) := by
  cases loaded with
  | error error => exact ⟨rfl, rfl, rfl, Finding.Eased.stays (by simp) Finding.Eased.nil⟩
  | ok manifest => exact ⟨rfl, rfl, rfl, Finding.eased_ofResources file 0 manifest.resources⟩

theorem Finding.Eased.flatMap {untrusted trusted : List FileReport}
    (files : List.Forall₂ FileReport.Eased untrusted trusted) :
    Eased (untrusted.flatMap (·.findings)) (trusted.flatMap (·.findings)) := by
  induction files with
  | nil => exact Eased.nil
  | cons first _ ih => exact first.findings.append ih

theorem map_eq_of_forall₂ {α β : Type} {related : α → α → Prop} {view : α → β}
    (agrees : ∀ item other, related item other → view item = view other) {items others : List α}
    (pairs : List.Forall₂ related items others) : items.map view = others.map view := by
  induction pairs with
  | nil => rfl
  | cons first _ ih => rw [List.map_cons, List.map_cons, agrees _ _ first, ih]

namespace Report

/-- What trust does to a report: the files are the same ones in the same order, each
with its resources and its loading failure, and findings differ only where they
are about privileges. -/
structure EasedByTrust (untrusted trusted : Report) : Prop where
  files : untrusted.files.map (fun file => (file.file, file.resourcesLinted, file.parseFailed)) =
    trusted.files.map fun file => (file.file, file.resourcesLinted, file.parseFailed)
  loadFailures : untrusted.files.map (·.findings.filter (·.isLoadFailure)) =
    trusted.files.map (·.findings.filter (·.isLoadFailure))
  noPrivilege : ∀ finding ∈ trusted.findings, finding.isPrivilege = false
  uncovered : ∀ finding ∈ trusted.findings, finding.isLoadFailure = false →
    ∃ other ∈ untrusted.findings, other.file = finding.file ∧
      other.document = finding.document ∧ (other.isPrivilege = false → other = finding)
  stay : (untrusted.findings.filter fun finding => !finding.isPrivilege).Sublist trusted.findings
  passed : untrusted.passed = true → trusted.passed = true

theorem easedByTrust_of_files {untrusted trusted : Report}
    (files : List.Forall₂ FileReport.Eased untrusted.files trusted.files) :
    EasedByTrust untrusted trusted := by
  have findings := Finding.Eased.flatMap files
  constructor
  · apply map_eq_of_forall₂ _ files
    intro file other eased
    simp [eased.file, eased.resourcesLinted, eased.parseFailed]
  · apply map_eq_of_forall₂ _ files
    intro file other eased
    exact eased.findings.filter_isLoadFailure
  · exact findings.isPrivilege_eq_false
  · intro finding member _
    exact findings.exists_untrusted finding member
  · exact findings.filter_sublist
  · unfold passed
    simp only [List.isEmpty_iff]
    intro none
    unfold Report.findings at none
    rw [none] at findings
    exact findings.eq_nil

/-- Whatever stands at a path, trust eases the report of a run. -/
theorem lint_easedByTrust (config : Config) (path : String) (earlier later : Clock)
    (tree : Option Tree) :
    EasedByTrust (lint { config with trusted := false } path earlier tree)
      (lint { config with trusted := true } path later tree) := by
  apply easedByTrust_of_files
  simp only [lint, ofLoaded, LoadedFile.all, List.map_map, List.forall₂_map_left_iff,
    List.forall₂_map_right_iff]
  exact List.forall₂_same.mpr fun source _ => FileReport.eased_ofLoaded _ _ _ _

end Report

end ManifestLint
