import ManifestLint.Proofs.FirstViolation

/-!
# Pipelines without their privileges

Stripping takes from a pipeline every setting that only trusted repositories may
use.  What is wrong with a stripped pipeline is what is wrong with the pipeline
itself, less the uses of privileges, and these are what a trusted check passes
over.  So trust lifts the rules on privileges and nothing else.
-/

namespace ManifestLint

/-! ## Taking privileges away -/

/-- The directory on a disk. -/
def TemporaryDirectory.stripped (directory : TemporaryDirectory) : TemporaryDirectory :=
  if directory.medium = "memory" then { directory with medium := "" } else directory

/-- The volume away from the host's paths and its memory. -/
def Volume.stripped (volume : Volume) : Volume :=
  { volume with
    host := none
    temporary := volume.temporary.map TemporaryDirectory.stripped }

/-- The port inside the container only. -/
def Port.stripped : Port → Port
  | .number short => .number short
  | .mapping long => .mapping { long with host := none }

/-- The container without settings that only trusted repositories may use. -/
def Container.stripped (container : Container) : Container :=
  { container with
    privileged := false
    devices := []
    ports := container.ports.map Port.stripped
    dns := []
    dnsSearch := []
    extraHosts := []
    networkMode := "" }

/-- The pipeline with its volumes and containers stripped. -/
def Pipeline.stripped (pipeline : Pipeline) : Pipeline :=
  { pipeline with
    volumes := pipeline.volumes.map Volume.stripped
    services := pipeline.services.map Container.stripped
    steps := pipeline.steps.map Container.stripped }

/-! ## Violations that trust does not lift -/

namespace Violation

/-- The violations that also count in a trusted repository. -/
def ungated (violations : List Violation) : List Violation :=
  violations.filter fun violation => !violation.isTrustGated

@[simp]
theorem ungated_nil : ungated [] = [] :=
  rfl

@[simp]
theorem ungated_append (first rest : List Violation) :
    ungated (first ++ rest) = ungated first ++ ungated rest :=
  List.filter_append first rest

@[simp]
theorem when_false (violation : Violation) : when false violation = [] :=
  rfl

/-- A conditional violation stays if it is not gated. -/
@[simp]
theorem ungated_when (condition : Bool) (violation : Violation) :
    ungated (when condition violation) = when (condition && !violation.isTrustGated) violation := by
  cases condition with
  | false => rfl
  | true => cases gated : violation.isTrustGated <;> simp [when, ungated, gated]

theorem ungated_flatMap {α : Type} (violations : α → List Violation) (items : List α) :
    ungated (items.flatMap violations) = items.flatMap fun item => ungated (violations item) := by
  induction items with
  | nil => rfl
  | cons item rest ih => simp [ih]

/-- Nothing is left out exactly if nothing is gated. -/
theorem ungated_eq_self_iff (violations : List Violation) :
    ungated violations = violations ↔ ∀ violation ∈ violations, violation.isTrustGated = false := by
  simp [ungated]

theorem forall_mem_when (condition : Bool) (violation : Violation) (holds : Violation → Prop) :
    (∀ listed ∈ when condition violation, holds listed) ↔
      (condition = true → holds violation) := by
  cases condition <;> simp [when]

end Violation

open Violation (ungated when)

namespace Verdict

/-- Whether or not a repository is trusted, violations that are not gated count,
and in a trusted one no others do. -/
theorem ofList_ungated (trusted : Bool) (violations : List Violation) :
    ofList trusted (ungated violations) = ofList true violations := by
  induction violations with
  | nil => rfl
  | cons violation rest ih =>
      cases gated : violation.isTrustGated <;>
        simp_all [ungated, Violation.counts]

/-- A trusted repository is not rejected for a privilege. -/
theorem not_gated_of_ofList_true {violations : List Violation} {violation : Violation}
    (rejected : ofList true violations = .error violation) :
    violation.isTrustGated = false := by
  induction violations with
  | nil => simp at rejected
  | cons first rest ih =>
      rw [ofList_cons] at rejected
      cases gated : first.isTrustGated <;> simp_all [Violation.counts]

theorem ofList_false_eq_ok_iff (violations : List Violation) :
    ofList false violations = .ok () ↔ violations = [] := by
  cases violations <;> simp [Violation.counts]

/-- A violation that is not gated is reported whether or not the repository is
trusted, if nothing stands before it. -/
theorem ofList_true_of_false {violations : List Violation} {violation : Violation}
    (rejected : ofList false violations = .error violation)
    (ungated : violation.isTrustGated = false) : ofList true violations = .error violation := by
  cases violations with
  | nil => simp at rejected
  | cons first rest =>
      simp only [ofList_cons, Violation.counts, Bool.not_false, Bool.true_or, if_true,
        Except.error.injEq] at rejected
      simp [rejected, Violation.counts, ungated]

end Verdict

/-! ## What is wrong with stripped parts -/

theorem TemporaryDirectory.stripped_not_inMemory (directory : TemporaryDirectory) :
    directory.stripped.medium ≠ "memory" := by
  unfold stripped
  split
  · simp
  · assumption

theorem TemporaryDirectory.stripped_eq_self_iff (directory : TemporaryDirectory) :
    directory.stripped = directory ↔ directory.medium ≠ "memory" := by
  constructor
  · intro unchanged
    rw [← unchanged]
    exact directory.stripped_not_inMemory
  · intro onDisk
    rw [stripped, if_neg onDisk]

theorem Port.host_stripped (port : Port) : port.stripped.host = none := by
  cases port <;> rfl

theorem Port.stripped_eq_self_iff (port : Port) : port.stripped = port ↔ port.host = none := by
  cases port with
  | number short => simp [stripped, host]
  | mapping long =>
      cases long
      simp [stripped, host, eq_comm]

theorem Platform.ungated_violations (platform : Platform) :
    ungated platform.violations = platform.violations := by
  simp [violations, Violation.isTrustGated]

theorem Build.ungated_violations (build : Build) :
    ungated build.violations = build.violations := by
  simp [violations, Violation.isTrustGated]

theorem Volume.violations_stripped (volume : Volume) :
    volume.stripped.violations = ungated volume.violations := by
  have onDisk : (volume.temporary.map TemporaryDirectory.stripped).any
      (fun directory => directory.medium = "memory") = false := by
    cases volume.temporary <;> simp [TemporaryDirectory.stripped_not_inMemory]
  simp [violations, stripped, onDisk, Violation.isTrustGated]

theorem Container.violations_stripped (container : Container) :
    container.stripped.violations = ungated container.violations := by
  have unbound : (container.ports.map Port.stripped).any (·.host.isSome) = false := by
    simp [Port.host_stripped]
  simp [violations, stripped, unbound, Violation.isTrustGated, -List.any_map]
  rfl

/-! ## Parts that stripping leaves alone -/

theorem map_eq_self_iff {α : Type} (change : α → α) (items : List α) :
    items.map change = items ↔ ∀ item ∈ items, change item = item := by
  simpa using List.map_eq_map_iff (g := id) (f := change) (l := items)

/-- Stripping leaves a volume alone exactly if it uses no privilege. -/
theorem Volume.stripped_eq_self_iff (volume : Volume) :
    volume.stripped = volume ↔
      ∀ violation ∈ volume.violations, violation.isTrustGated = false := by
  rcases volume with ⟨name, host, temporary⟩
  have directory : temporary.map TemporaryDirectory.stripped = temporary ↔
      temporary.any (fun directory => directory.medium = "memory") = false := by
    cases temporary <;> simp [TemporaryDirectory.stripped_eq_self_iff]
  simp only [stripped, violations, mk.injEq, directory, List.forall_mem_append,
    Violation.forall_mem_when, Violation.isTrustGated]
  cases host <;> simp

/-- Stripping leaves a container alone exactly if it uses no privilege. -/
theorem Container.stripped_eq_self_iff (container : Container) :
    container.stripped = container ↔
      ∀ violation ∈ container.violations, violation.isTrustGated = false := by
  rcases container with ⟨name, image, commands, environment, detach, privileged, devices, ports,
    dns, dnsSearch, extraHosts, networkMode, volumes, dependsOn⟩
  have hosts : ports.map Port.stripped = ports ↔ ports.any (·.host.isSome) = false := by
    simp [map_eq_self_iff, Port.stripped_eq_self_iff]
  simp only [stripped, violations, mk.injEq, hosts, List.forall_mem_append,
    Violation.forall_mem_when, Violation.isTrustGated]
  simp [and_assoc, and_left_comm]

namespace Pipeline

/-- What is wrong with a stripped pipeline is what trust does not lift. -/
theorem violations_stripped (pipeline : Pipeline) :
    pipeline.stripped.violations = ungated pipeline.violations := by
  have repeated (name : Option String) :
      ungated (name.map Violation.duplicateStepName).toList =
        (name.map Violation.duplicateStepName).toList := by
    cases name <;> rfl
  have names (containers : List Container) :
      containers.map (fun container => container.stripped.name) = containers.map (·.name) := rfl
  simp only [violations, stripped, Violation.ungated_append, Violation.ungated_flatMap,
    Platform.ungated_violations, Build.ungated_violations, repeated, List.flatMap_append,
    List.flatMap_map, Volume.violations_stripped, Container.violations_stripped,
    List.map_append, List.map_map, Function.comp_def, names]

/-- Stripping leaves a pipeline alone exactly if it uses no privilege. -/
theorem stripped_eq_self_iff (pipeline : Pipeline) :
    pipeline.stripped = pipeline ↔ ungated pipeline.violations = pipeline.violations := by
  have inOrder {α : Type} (violations : α → List Violation) (items : List α) :
      (∀ violation ∈ items.flatMap violations, violation.isTrustGated = false) ↔
        ∀ item ∈ items, ∀ violation ∈ violations item, violation.isTrustGated = false := by
    simp only [List.mem_flatMap]
    grind
  have platform := (Violation.ungated_eq_self_iff _).mp pipeline.platform.ungated_violations
  have builds : ∀ build ∈ pipeline.build.toList, ∀ violation ∈ build.violations,
      violation.isTrustGated = false :=
    fun build _ => (Violation.ungated_eq_self_iff _).mp build.ungated_violations
  have repeated (name : Option String) :
      ∀ violation ∈ (name.map Violation.duplicateStepName).toList,
        violation.isTrustGated = false := by
    cases name <;> simp [Violation.isTrustGated]
  have unchanged : pipeline.stripped = pipeline ↔
      (∀ volume ∈ pipeline.volumes, volume.stripped = volume) ∧
        (∀ container ∈ pipeline.services, container.stripped = container) ∧
        ∀ container ∈ pipeline.steps, container.stripped = container := by
    cases pipeline
    simp [stripped, map_eq_self_iff]
  rw [unchanged, Violation.ungated_eq_self_iff]
  simp only [violations, List.forall_mem_append, List.flatMap_append, inOrder,
    Volume.stripped_eq_self_iff, Container.stripped_eq_self_iff]
  constructor
  · rintro ⟨volumes, services, steps⟩
    exact ⟨⟨⟨⟨platform, builds⟩, volumes⟩, repeated _⟩, services, steps⟩
  · rintro ⟨⟨⟨_, volumes⟩, _⟩, services, steps⟩
    exact ⟨volumes, services, steps⟩

/-! ## Main statement -/

/-- Trust only lifts the rules on privileges.  In a trusted repository a pipeline is
judged like the stripped one, which is judged alike whether or not the repository
is trusted, and never for a privilege.  In an untrusted one it is accepted exactly
if the trusted check accepts it and it has no privileges, and what it is rejected
for stands in a trusted repository unless that is a privilege. -/
theorem trust_lifts_only_privileges (pipeline : Pipeline) :
    (pipeline.check true = pipeline.stripped.check true ∧
      pipeline.stripped.check true = pipeline.stripped.check false) ∧
    (∀ violation, pipeline.check true = .error violation → violation.isTrustGated = false) ∧
    (pipeline.check false = .ok () ↔
      pipeline.check true = .ok () ∧ pipeline.stripped = pipeline) ∧
    (∀ violation, pipeline.check false = .error violation → violation.isTrustGated = false →
      pipeline.check true = .error violation) := by
  simp only [check_eq_ofList, violations_stripped, Verdict.ofList_ungated, true_and]
  refine ⟨?_, ?_, ?_⟩
  · intro violation rejected
    exact Verdict.not_gated_of_ofList_true rejected
  · rw [Verdict.ofList_false_eq_ok_iff, ← Verdict.ofList_ungated false,
      Verdict.ofList_false_eq_ok_iff, stripped_eq_self_iff]
    constructor
    · intro none
      simp [none]
    · rintro ⟨none, unchanged⟩
      rw [← unchanged, none]
  · intro violation rejected ungated
    exact Verdict.ofList_true_of_false rejected ungated

/-- A pipeline with a volume in memory and a step without an image. -/
def memoryVolume : Pipeline where
  volumes := [{ name := "cache", temporary := some { medium := "memory" } }]
  steps := [{ name := "build" }]

/-- The missing image stands behind the privilege and shows once that is lifted. -/
theorem trust_lifts_only_privileges_memoryVolume :
    memoryVolume.check false = .error (.untrusted .memoryVolume) ∧
      memoryVolume.check true = .error .missingImage ∧
      memoryVolume.stripped.check false = .error .missingImage ∧
      Violation.missingImage.isTrustGated = false ∧ memoryVolume.stripped ≠ memoryVolume := by
  have trusted : memoryVolume.check true = .error .missingImage := rfl
  have untrusted : memoryVolume.stripped.check false = .error .missingImage := rfl
  obtain ⟨⟨judgedStripped, alike⟩, notGated, -, -⟩ := trust_lifts_only_privileges memoryVolume
  refine ⟨rfl, trusted, ?_, notGated .missingImage trusted, ?_⟩
  · rw [← alike, ← judgedStripped, trusted]
  · intro unchanged
    rw [unchanged] at untrusted
    cases untrusted

end Pipeline

end ManifestLint
