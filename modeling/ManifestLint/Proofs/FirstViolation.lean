import ManifestLint.Lint.Check

/-!
# The first violation

Everything that is wrong with a pipeline can be listed, whether or not the
repository is trusted: one list for each part, in the order of the rules.  The
checks never build such a list, but what they report is its first entry that
counts.
-/

namespace ManifestLint

/-! ## Lists of violations -/

namespace Violation

/-- A violation if a condition holds. -/
def when (condition : Bool) (violation : Violation) : List Violation :=
  if condition then [violation] else []

/-- Whether a violation counts: in a trusted repository, privileges do not. -/
def counts (trusted : Bool) (violation : Violation) : Bool :=
  !trusted || !violation.isTrustGated

end Violation

open Violation (when)

/-- What is wrong with a platform. -/
def Platform.violations (platform : Platform) : List Violation :=
  when (platform.os ∉ ["", "linux", "windows"]) (.unsupportedOs platform.os) ++
    when (platform.arch ∉ ["", "amd64", "arm", "arm64"]) (.unsupportedArch platform.arch)

/-- What is wrong with a build. -/
def Build.violations (build : Build) : List Violation :=
  when (build.image = "") .missingBuildImage

/-- What is wrong with a volume. -/
def Volume.violations (volume : Volume) : List Violation :=
  when (volume.name ∈ ["_workspace", "_docker_socket"]) (.reservedVolumeName volume.name) ++
    when volume.host.isSome (.untrusted .hostVolume) ++
    when (volume.temporary.any fun directory => directory.medium = "memory")
      (.untrusted .memoryVolume)

/-- What is wrong with a container. -/
def Container.violations (container : Container) : List Violation :=
  when (container.name = "") .missingName ++
    when (container.image = "") .missingImage ++
    when (container.ports.any (·.host.isSome)) (.untrusted .hostPort) ++
    when (container.devices ≠ []) (.untrusted .devices) ++
    when container.privileged (.untrusted .privileged) ++
    when (container.dns ≠ []) (.untrusted .dns) ++
    when (container.dnsSearch ≠ []) (.untrusted .dnsSearch) ++
    when (container.extraHosts ≠ []) (.untrusted .extraHosts) ++
    when (container.networkMode ≠ "") (.untrusted .networkMode)

/-- The first name with an equal one somewhere before it. -/
def firstWithEarlier? (names : List String) : Option String :=
  (names.zipIdx.find? fun entry => entry.1 ∈ names.take entry.2).map (·.1)

/-- Everything that is wrong with a pipeline.  For equal names steps come before
services, and for the rules on single containers services come before steps. -/
def Pipeline.violations (pipeline : Pipeline) : List Violation :=
  pipeline.platform.violations ++
    pipeline.build.toList.flatMap Build.violations ++
    pipeline.volumes.flatMap Volume.violations ++
    ((firstWithEarlier? ((pipeline.steps ++ pipeline.services).map (·.name))).map
      Violation.duplicateStepName).toList ++
    (pipeline.services ++ pipeline.steps).flatMap Container.violations

/-! ## Verdicts on lists of violations -/

namespace Verdict

/-- Reject the first violation that counts. -/
def ofList (trusted : Bool) (violations : List Violation) : Verdict :=
  match violations.find? (·.counts trusted) with
  | some violation => .error violation
  | none => .ok ()

@[simp]
theorem ofList_nil (trusted : Bool) : ofList trusted [] = .ok () :=
  rfl

@[simp]
theorem ofList_cons (trusted : Bool) (violation : Violation) (rest : List Violation) :
    ofList trusted (violation :: rest) =
      if violation.counts trusted then .error violation else ofList trusted rest := by
  cases counts : violation.counts trusted <;> simp [ofList, counts]

/-- The rest of a list matters only if nothing counts before it. -/
theorem ofList_append (trusted : Bool) (first rest : List Violation) :
    ofList trusted (first ++ rest) =
      (do ofList trusted first; ofList trusted rest) := by
  induction first with
  | nil => rfl
  | cons violation others ih =>
      simp only [List.cons_append, ofList_cons, ih]
      split <;> rfl

/-- A list that starts with a conditional violation. -/
@[simp]
theorem ofList_when_append (trusted condition : Bool) (violation : Violation)
    (rest : List Violation) :
    ofList trusted (when condition violation ++ rest) =
      if condition && violation.counts trusted then .error violation
      else ofList trusted rest := by
  cases condition <;> simp [when]

@[simp]
theorem ofList_when (trusted condition : Bool) (violation : Violation) :
    ofList trusted (when condition violation) =
      if condition && violation.counts trusted then .error violation else .ok () := by
  simpa using ofList_when_append trusted condition violation []

end Verdict

/-- A check of a list rejects what is first wrong with one of the items. -/
theorem checkEach_eq_ofList (trusted : Bool) (check : α → Verdict)
    (violations : α → List Violation)
    (checks : ∀ item, check item = .ofList trusted (violations item)) (items : List α) :
    checkEach check items = .ofList trusted (items.flatMap violations) := by
  induction items with
  | nil => rfl
  | cons item rest ih =>
      rw [checkEach, List.flatMap_cons, Verdict.ofList_append, checks, ih]

@[simp]
theorem checkPrivileges_nil (trusted : Bool) (target : α) :
    checkPrivileges [] trusted target = .ok () := by
  simp [checkPrivileges]

/-- The first privilege of a table that is used decides. -/
@[simp]
theorem checkPrivileges_cons (use : PrivilegeUse α) (table : List (PrivilegeUse α))
    (trusted : Bool) (target : α) :
    checkPrivileges (use :: table) trusted target =
      if use.uses target && (Violation.untrusted use.privilege).counts trusted then
        .error (.untrusted use.privilege)
      else checkPrivileges table trusted target := by
  cases trusted with
  | true => simp [checkPrivileges, Violation.counts, Violation.isTrustGated]
  | false =>
      cases used : use.uses target <;>
        simp [checkPrivileges, Violation.counts, Violation.isTrustGated, used]

/-! ## Verdicts of the single checks -/

theorem Platform.check_eq_ofList (trusted : Bool) (platform : Platform) :
    platform.check = .ofList trusted platform.violations := by
  simp [Platform.check, Platform.violations, supportedOs, supportedArch, Violation.counts,
    Violation.isTrustGated]

theorem Build.check_eq_ofList (trusted : Bool) (build : Build) :
    build.check = .ofList trusted build.violations := by
  simp [Build.check, Build.violations, Violation.counts, Violation.isTrustGated]

theorem Volume.check_eq_ofList (trusted : Bool) (volume : Volume) :
    volume.check trusted = .ofList trusted volume.violations := by
  simp [Volume.check, Volume.violations, Volume.privilegeUses, Volume.isHostPath,
    Volume.isInMemory, reservedVolumeNames, Violation.counts, Violation.isTrustGated]

theorem Container.check_eq_ofList (trusted : Bool) (container : Container) :
    container.check trusted = .ofList trusted container.violations := by
  simp [Container.check, Container.violations, Container.privilegeUses, Violation.counts,
    Violation.isTrustGated]

/-- Scanning names with those seen before them finds the first name with an
earlier equal one: at each place the seen names are those in front of it. -/
theorem firstRepeated_eq_find? (before rest seen : List String)
    (sameNames : ∀ name, name ∈ seen ↔ name ∈ before) :
    firstRepeated seen rest =
      ((rest.zipIdx before.length).find? fun entry =>
        entry.1 ∈ (before ++ rest).take entry.2).map (·.1) := by
  induction rest generalizing before seen with
  | nil => rfl
  | cons name rest ih =>
      have inFront : (before ++ name :: rest).take before.length = before := by simp
      by_cases repeated : name ∈ before
      · simp [firstRepeated, (sameNames name).mpr repeated, inFront, repeated]
      · have notSeen : name ∉ seen := fun member => repeated ((sameNames name).mp member)
        have sameNext : ∀ other, other ∈ name :: seen ↔ other ∈ before ++ [name] := by
          intro other
          simp [sameNames other, or_comm]
        have next := ih (before ++ [name]) (name :: seen) sameNext
        simp only [List.append_assoc, List.singleton_append, List.length_append,
          List.length_singleton] at next
        simp [firstRepeated, notSeen, inFront, repeated, next]

theorem firstRepeated_nil_eq (names : List String) :
    firstRepeated [] names = firstWithEarlier? names := by
  simpa [firstWithEarlier?] using firstRepeated_eq_find? [] names [] (fun _ => Iff.rfl)

namespace Pipeline

theorem checkUniqueNames_eq_ofList (trusted : Bool) (pipeline : Pipeline) :
    pipeline.checkUniqueNames =
      .ofList trusted
        ((firstWithEarlier? ((pipeline.steps ++ pipeline.services).map (·.name))).map
          Violation.duplicateStepName).toList := by
  rw [checkUniqueNames, firstRepeated_nil_eq]
  cases firstWithEarlier? ((pipeline.steps ++ pipeline.services).map (·.name)) with
  | none => rfl
  | some name => simp [Violation.counts, Violation.isTrustGated]

/-- The parts of a pipeline are checked in the order in which what is wrong with
them is listed. -/
theorem check_eq_ofList (trusted : Bool) (pipeline : Pipeline) :
    pipeline.check trusted = .ofList trusted pipeline.violations := by
  have build := checkEach_eq_ofList trusted Build.check _
    (Build.check_eq_ofList trusted) pipeline.build.toList
  have volumes := checkEach_eq_ofList trusted (Volume.check trusted) _
    (Volume.check_eq_ofList trusted) pipeline.volumes
  have containers := checkEach_eq_ofList trusted (Container.check trusted) _
    (Container.check_eq_ofList trusted) pipeline.containers
  simp only [violations, Verdict.ofList_append, bind_assoc]
  rw [check, checkPlatform, checkParts, Platform.check_eq_ofList trusted, build, volumes,
    checkUniqueNames_eq_ofList trusted, containers, Pipeline.containers]

/-! ## Main statement -/

/-- A pipeline is rejected with the first of its violations that counts, and
accepted if there is none. -/
theorem check_eq_first_violation (trusted : Bool) (pipeline : Pipeline) :
    pipeline.check trusted =
      match pipeline.violations.find? fun violation => !violation.isTrustGated || !trusted with
      | some violation => .error violation
      | none => .ok () := by
  rw [check_eq_ofList, Verdict.ofList]
  simp only [Violation.counts, Bool.or_comm]

end Pipeline

end ManifestLint
