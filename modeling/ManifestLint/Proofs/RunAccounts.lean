import Mathlib.Algebra.Ring.Nat
import ManifestLint.Proofs.TrustedRuns

/-!
# What a run accounts for

A file fails to load, which is its only finding, or it is loaded and has one finding
for every resource that is rejected, placed by the position of the resource.  The
numbers of a report are taken from its findings and its files in different ways, and
they are the numbers of rejected resources and of files that fail to load.
-/

namespace ManifestLint

/-- Whether a check rejects a resource. -/
def Resource.isRejected (trusted : Bool) (resource : Resource) : Bool :=
  match resource.check trusted with
  | .ok () => false
  | .error _ => true

/-- Only pipelines are rejected. -/
theorem Resource.kind_of_rejected {trusted : Bool} {resource : Resource} {violation : Violation}
    (rejected : resource.check trusted = .error violation) : resource.kind = "pipeline" := by
  cases resource with
  | pipeline declared => rfl
  | secret declared => cases rejected
  | signature declared => cases rejected

/-- The rule of every violation is registered. -/
theorem Violation.isSome_find? (violation : Violation) :
    (Rule.find? violation.ruleId).isSome = true := by
  cases violation with
  | untrusted privilege =>
      have listed : privilege.rule ∈ Rule.all :=
        List.mem_append_right _ (List.mem_map_of_mem privilege.mem_all)
      exact List.find?_isSome.mpr ⟨privilege.rule, listed, decide_eq_true rfl⟩
  | _ => simp [ruleId, Rule.find?, Rule.all, Rule.structural]

/-- The rule of everything that cannot be loaded is registered. -/
theorem Rule.isSome_find?_parseErrorRule : (find? parseErrorRule).isSome = true := by
  decide

/-! ## The findings of one file -/

namespace Finding

/-- What a finding says of a violation by the resource at a position of a file. -/
structure IsAbout (file : String) (index : Nat) (resource : Resource) (violation : Violation)
    (finding : Finding) : Prop where
  ruleId : finding.ruleId = violation.ruleId
  message : finding.message = violation.message
  file : finding.file = some file
  resource : ∀ name, finding.resource = some name ↔ name = resource.name ∧ name ≠ ""
  kind : finding.kind = some "pipeline"
  document : finding.document = some index
  remediation : finding.remediation.isSome = true
  notLoadFailure : finding.ruleId ≠ parseErrorRule

/-- One finding stands at a smaller position than another. -/
def Before (finding other : Finding) : Prop :=
  ∃ index later, finding.document = some index ∧ other.document = some later ∧ index < later

theorem isAbout_ofViolation {trusted : Bool} {resource : Resource} {violation : Violation}
    (rejected : resource.check trusted = .error violation) (file : String) (index : Nat) :
    IsAbout file index resource violation (ofViolation violation file index resource) where
  ruleId := rfl
  message := rfl
  file := rfl
  resource := by
    intro name
    rw [ofViolation]
    by_cases unnamed : resource.name = ""
    · simp [unnamed]
    · simp only [String.isEmpty_iff, unnamed, if_false, Option.some.injEq]
      constructor
      · rintro rfl
        exact ⟨rfl, unnamed⟩
      · exact fun isName => isName.1.symm
  kind := congrArg some (Resource.kind_of_rejected rejected)
  document := rfl
  remediation := by
    rw [ofViolation, Option.isSome_map, violation.isSome_find?]
  notLoadFailure := by
    have notFailure := isLoadFailure_ofViolation violation file index resource
    simpa [isLoadFailure] using notFailure

/-- The finding about a resource at a position, if it is rejected. -/
def ofResource? (trusted : Bool) (file : String) (placed : Resource × Nat) : Option Finding :=
  match placed.1.check trusted with
  | .ok () => none
  | .error violation => some (ofViolation violation file placed.2 placed.1)

theorem ofResources_eq_filterMap (trusted : Bool) (file : String) (index : Nat)
    (resources : List Resource) :
    ofResources trusted file index resources =
      (resources.zipIdx index).filterMap (ofResource? trusted file) := by
  induction resources generalizing index with
  | nil => rfl
  | cons resource rest ih =>
      rw [ofResources, List.zipIdx_cons, List.filterMap_cons, ofResource?, ih]
      cases resource.check trusted <;> rfl

theorem ofResource?_eq_some_iff {trusted : Bool} {file : String} {placed : Resource × Nat}
    {finding : Finding} :
    ofResource? trusted file placed = some finding ↔ ∃ violation,
      placed.1.check trusted = .error violation ∧
        ofViolation violation file placed.2 placed.1 = finding := by
  unfold ofResource?
  cases placed.1.check trusted <;> simp

/-- The findings are those about the resources that are rejected. -/
theorem mem_ofResources_iff {trusted : Bool} {file : String} {resources : List Resource}
    {finding : Finding} :
    finding ∈ ofResources trusted file 0 resources ↔ ∃ index resource violation,
      resources[index]? = some resource ∧ resource.check trusted = .error violation ∧
        ofViolation violation file index resource = finding := by
  simp only [ofResources_eq_filterMap, List.mem_filterMap, Prod.exists,
    List.mk_mem_zipIdx_iff_getElem?, ofResource?_eq_some_iff]
  constructor
  · rintro ⟨resource, index, present, violation, rejected, same⟩
    exact ⟨index, resource, violation, present, rejected, same⟩
  · rintro ⟨index, resource, violation, present, rejected, same⟩
    exact ⟨resource, index, present, violation, rejected, same⟩

/-- Findings stand in the order of the resources, no two at one position. -/
theorem pairwise_ofResources (trusted : Bool) (file : String) (index : Nat)
    (resources : List Resource) : (ofResources trusted file index resources).Pairwise Before := by
  rw [ofResources_eq_filterMap]
  have placed : (resources.zipIdx index).Pairwise fun placed other => placed.2 < other.2 := by
    have positions := List.pairwise_lt_range' (s := index) (n := resources.length)
    rw [← List.zipIdx_map_snd] at positions
    exact List.pairwise_map.mp positions
  refine List.Pairwise.filterMap _ ?_ placed
  intro first second smaller finding found other otherFound
  rcases ofResource?_eq_some_iff.mp found with ⟨violation, _, rfl⟩
  rcases ofResource?_eq_some_iff.mp otherFound with ⟨otherViolation, _, rfl⟩
  exact ⟨first.2, second.2, rfl, rfl, smaller⟩

theorem length_ofResources (trusted : Bool) (file : String) (index : Nat)
    (resources : List Resource) :
    (ofResources trusted file index resources).length =
      (resources.filter (·.isRejected trusted)).length := by
  induction resources generalizing index with
  | nil => rfl
  | cons resource rest ih =>
      rw [ofResources, List.filter_cons, Resource.isRejected]
      cases resource.check trusted with
      | ok accepted => exact ih (index + 1)
      | error violation => exact congrArg Nat.succ (ih (index + 1))

theorem isLoadFailure_of_mem_ofResources {trusted : Bool} {file : String} {index : Nat}
    {resources : List Resource} {finding : Finding}
    (member : finding ∈ ofResources trusted file index resources) :
    finding.isLoadFailure = false := by
  rw [ofResources_eq_filterMap] at member
  rcases List.mem_filterMap.mp member with ⟨placed, _, found⟩
  rcases ofResource?_eq_some_iff.mp found with ⟨violation, _, rfl⟩
  exact isLoadFailure_ofViolation violation file placed.2 placed.1

end Finding

namespace FileReport

/-- What the report on a file says if the file fails to load. -/
structure Failed (path : String) (report : FileReport) : Prop where
  file : report.file = path
  parseFailed : report.parseFailed = true
  resourcesLinted : report.resourcesLinted = 0
  finding : ∃ finding, report.findings = [finding] ∧ finding.ruleId = parseErrorRule ∧
    finding.kind = none ∧ finding.resource = none ∧ finding.file = some path

/-- What the report on a file says of the resources that are loaded from it. -/
structure Judged (trusted : Bool) (path : String) (resources : List Resource)
    (report : FileReport) : Prop where
  file : report.file = path
  parseFailed : report.parseFailed = false
  resourcesLinted : report.resourcesLinted = resources.length
  increasing : report.findings.Pairwise Finding.Before
  below : ∀ finding ∈ report.findings,
    ∃ index, finding.document = some index ∧ index < report.resourcesLinted
  rejected : ∀ index, (∃ finding ∈ report.findings, finding.document = some index) ↔
    ∃ resource violation, resources[index]? = some resource ∧
      resource.check trusted = .error violation
  about : ∀ finding ∈ report.findings, ∃ index resource violation,
    resources[index]? = some resource ∧ resource.check trusted = .error violation ∧
      Finding.IsAbout path index resource violation finding

theorem failed_ofLoaded (trusted : Bool) (path : String) (duration : Nat) (error : LoadError) :
    Failed path (ofLoaded trusted path duration (.error error)) where
  file := rfl
  parseFailed := rfl
  resourcesLinted := rfl
  finding := ⟨.ofLoadError error path, rfl, rfl, rfl, rfl, rfl⟩

theorem judged_ofLoaded (trusted : Bool) (path : String) (duration : Nat) (manifest : Manifest) :
    Judged trusted path manifest.resources (ofLoaded trusted path duration (.ok manifest)) where
  file := rfl
  parseFailed := rfl
  resourcesLinted := rfl
  increasing := Finding.pairwise_ofResources trusted path 0 manifest.resources
  below := by
    intro finding member
    rcases Finding.mem_ofResources_iff.mp member with
      ⟨index, resource, violation, present, _, rfl⟩
    rcases List.getElem?_eq_some_iff.mp present with ⟨bound, _⟩
    exact ⟨index, rfl, bound⟩
  rejected := by
    intro index
    constructor
    · rintro ⟨finding, member, placed⟩
      rcases Finding.mem_ofResources_iff.mp member with
        ⟨position, resource, violation, present, rejected, rfl⟩
      cases placed
      exact ⟨resource, violation, present, rejected⟩
    · rintro ⟨resource, violation, present, rejected⟩
      exact ⟨.ofViolation violation path index resource,
        Finding.mem_ofResources_iff.mpr ⟨index, resource, violation, present, rejected, rfl⟩, rfl⟩
  about := by
    intro finding member
    rcases Finding.mem_ofResources_iff.mp member with
      ⟨index, resource, violation, present, rejected, rfl⟩
    exact ⟨index, resource, violation, present, rejected,
      Finding.isAbout_ofViolation rejected path index⟩

end FileReport

/-! ## The numbers of a run -/

namespace LoadedFile

/-- Whether the file fails to load. -/
def hasFailed (file : LoadedFile) : Bool :=
  match file.outcome with
  | .error _ => true
  | .ok _ => false

/-- The number of resources of a file that are rejected. -/
def rejected (trusted : Bool) (file : LoadedFile) : Nat :=
  match file.outcome with
  | .error _ => 0
  | .ok manifest => (manifest.resources.filter (·.isRejected trusted)).length

end LoadedFile

namespace FileReport

theorem lintErrors_ofLoaded (trusted : Bool) (file : LoadedFile) (duration : Nat) :
    ((ofLoaded trusted file.path duration file.outcome).findings.filter fun finding =>
      !finding.isLoadFailure).length = file.rejected trusted := by
  unfold LoadedFile.rejected
  cases file.outcome with
  | error error => rfl
  | ok manifest =>
      have all : (Finding.ofResources trusted file.path 0 manifest.resources).filter
          (fun finding => !finding.isLoadFailure) =
            Finding.ofResources trusted file.path 0 manifest.resources := by
        apply List.filter_eq_self.mpr
        intro finding member
        rw [Finding.isLoadFailure_of_mem_ofResources member]
        rfl
      rw [ofLoaded, all, Finding.length_ofResources]

theorem parseErrors_ofLoaded (trusted : Bool) (file : LoadedFile) (duration : Nat) :
    ((ofLoaded trusted file.path duration file.outcome).findings.filter (·.isLoadFailure)).length =
      if file.hasFailed then 1 else 0 := by
  unfold LoadedFile.hasFailed
  cases file.outcome with
  | error error => rfl
  | ok manifest =>
      apply List.length_eq_zero_iff.mpr
      apply List.filter_eq_nil_iff.mpr
      intro finding member failure
      rw [Finding.isLoadFailure_of_mem_ofResources member] at failure
      cases failure

end FileReport

namespace Report

/-- What the report of a run over the files that a path stands for accounts for. -/
structure Accounts (config : Config) (path : String) (clock : Clock) (tree : Option Tree)
    (report : Report) : Prop where
  files : report.files = (config.discovery.discover path tree).map fun source =>
    FileReport.lint config.trusted source.path (clock.elapsed source.path)
      (some (.file source.content))
  findings : report.findings = (config.discovery.discover path tree).flatMap fun source =>
    (FileReport.lint config.trusted source.path (clock.elapsed source.path)
      (some (.file source.content))).findings
  lintErrors : report.counts.lintErrors =
    ((LoadedFile.all config path tree).map (·.rejected config.trusted)).sum
  parseErrors : report.counts.parseErrors =
    ((LoadedFile.all config path tree).filter (·.hasFailed)).length
  filesPassed : report.filesPassed +
    (report.files.filter fun file => !file.findings.isEmpty).length = report.filesScanned
  resourcesLinted : report.resourcesLinted = (report.files.map (·.resourcesLinted)).sum
  passed : report.passed = true ↔ report.findings = []
  status : report.status = "passed" ↔ report.findings = []
  allPassed : report.passed = true ↔ report.filesPassed = report.filesScanned

theorem status_eq_passed_iff (report : Report) :
    report.status = "passed" ↔ report.passed = true := by
  unfold status
  cases report.passed <;> decide

theorem passed_iff (report : Report) : report.passed = true ↔ report.findings = [] := by
  rw [passed, List.isEmpty_iff]

theorem filesPassed_eq_iff (report : Report) :
    report.filesPassed = report.filesScanned ↔ report.findings = [] := by
  rw [filesPassed, filesScanned, List.length_filter_eq_length_iff, findings,
    List.flatMap_eq_nil_iff]
  simp [FileReport.passed]

/-- The findings of a run that count, counted file by file. -/
theorem length_filter_findings (config : Config) (target : String) (clock : Clock)
    (files : List LoadedFile) (counts : Finding → Bool) :
    ((ofLoaded config target clock files).findings.filter counts).length =
      (files.map fun file => ((FileReport.ofLoaded config.trusted file.path
        (clock.elapsed file.path) file.outcome).findings.filter counts).length).sum := by
  rw [findings, ofLoaded, List.filter_flatMap, List.length_flatMap, List.map_map]
  rfl

/-- Every finding of a run is about a file that fails to load or about a resource that is
rejected. -/
theorem mem_findings_lint_iff {config : Config} {path : String} {clock : Clock}
    {tree : Option Tree} {finding : Finding} :
    finding ∈ (lint config path clock tree).findings ↔
      ∃ file ∈ LoadedFile.all config path tree,
        (∃ error, file.outcome = .error error ∧ finding = .ofLoadError error file.path) ∨
          ∃ manifest index resource violation, file.outcome = .ok manifest ∧
            manifest.resources[index]? = some resource ∧
            resource.check config.trusted = .error violation ∧
            finding = .ofViolation violation file.path index resource := by
  rw [findings, lint, ofLoaded, List.flatMap_map, List.mem_flatMap]
  refine exists_congr fun file => and_congr_right fun _ => ?_
  cases file.outcome with
  | error error => simp [FileReport.ofLoaded]
  | ok manifest => simp [FileReport.ofLoaded, Finding.mem_ofResources_iff, eq_comm]

theorem accounts_lint (config : Config) (path : String) (clock : Clock) (tree : Option Tree) :
    Accounts config path clock tree (lint config path clock tree) where
  files := by
    rw [lint, ofLoaded, LoadedFile.all, List.map_map]
    rfl
  findings := by
    rw [findings, lint, ofLoaded, LoadedFile.all, List.map_map, List.flatMap_map]
    rfl
  lintErrors := by
    change ((lint config path clock tree).findings.filter fun finding =>
      !finding.isLoadFailure).length = _
    rw [lint, length_filter_findings]
    simp only [FileReport.lintErrors_ofLoaded]
  parseErrors := by
    change ((lint config path clock tree).findings.filter (·.isLoadFailure)).length = _
    rw [lint, length_filter_findings]
    simp only [FileReport.parseErrors_ofLoaded]
    induction LoadedFile.all config path tree with
    | nil => rfl
    | cons file rest ih =>
        rw [List.map_cons, List.sum_cons, ih, List.filter_cons]
        split
        · exact Nat.add_comm ..
        · exact Nat.zero_add _
  filesPassed := (List.length_eq_length_filter_add FileReport.passed).symm
  resourcesLinted := by
    rw [Report.resourcesLinted, List.sum, List.foldr_map]
  passed := passed_iff _
  status := (status_eq_passed_iff _).trans (passed_iff _)
  allPassed := (passed_iff _).trans (filesPassed_eq_iff _).symm

/-- Linting a file accounts for all of its resources or for its failure to load, and
the report of a run accounts for all files that it finds. -/
theorem run_accounts :
    (∀ trusted path duration tree,
      (∃ error, Manifest.load path tree = .error error ∧
        FileReport.Failed path (FileReport.lint trusted path duration tree)) ∨
      ∃ manifest, Manifest.load path tree = .ok manifest ∧
        FileReport.Judged trusted path manifest.resources
          (FileReport.lint trusted path duration tree)) ∧
      ∀ config path clock tree,
        Accounts config path clock tree (lint config path clock tree) := by
  constructor
  · intro trusted path duration tree
    rw [FileReport.lint]
    cases Manifest.load path tree with
    | error error =>
        exact Or.inl ⟨error, rfl, FileReport.failed_ofLoaded trusted path duration error⟩
    | ok manifest =>
        exact Or.inr ⟨manifest, rfl, FileReport.judged_ofLoaded trusted path duration manifest⟩
  · exact accounts_lint

end Report

end ManifestLint
