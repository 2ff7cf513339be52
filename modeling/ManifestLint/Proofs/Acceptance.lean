import Mathlib.Data.List.Nodup
import ManifestLint.Lint.Check

/-!
# Accepted resources

The checks stop at the first violation, look at names and at containers in
different orders, and read the privileges off tables.  What they accept does not
depend on any of that: a resource is accepted exactly when it meets a list of
conditions, each about all volumes or all containers at once.
-/

namespace ManifestLint

/-! ## The conditions -/

/-- A volume that stays away from the host: neither a path of the host nor its
memory. -/
structure Volume.Unprivileged (volume : Volume) : Prop where
  noHostPath : volume.host = none
  notInMemory : ∀ directory, volume.temporary = some directory → directory.medium ≠ "memory"

/-- A container without any setting that only trusted repositories may use. -/
structure Container.Unprivileged (container : Container) : Prop where
  noHostPort : ∀ port ∈ container.ports, port.host = none
  noDevices : container.devices = []
  notPrivileged : container.privileged = false
  noDns : container.dns = []
  noDnsSearch : container.dnsSearch = []
  noExtraHosts : container.extraHosts = []
  noNetworkMode : container.networkMode = ""

/-- The conditions under which a pipeline is accepted. -/
structure Pipeline.Allowed (trusted : Bool) (pipeline : Pipeline) : Prop where
  os : pipeline.platform.os ∈ ["", "linux", "windows"]
  arch : pipeline.platform.arch ∈ ["", "amd64", "arm", "arm64"]
  buildImage : ∀ build, pipeline.build = some build → build.image ≠ ""
  volumeNames : ∀ volume ∈ pipeline.volumes, volume.name ∉ ["_workspace", "_docker_socket"]
  distinctNames : ((pipeline.steps ++ pipeline.services).map (·.name)).Nodup
  named : ∀ container ∈ pipeline.steps ++ pipeline.services, container.name ≠ ""
  imaged : ∀ container ∈ pipeline.steps ++ pipeline.services, container.image ≠ ""
  volumesUnprivileged : trusted = false → ∀ volume ∈ pipeline.volumes, volume.Unprivileged
  containersUnprivileged :
    trusted = false → ∀ container ∈ pipeline.steps ++ pipeline.services, container.Unprivileged

/-- The conditions under which a resource is accepted; only pipelines have
any. -/
def Resource.Allowed (trusted : Bool) : Resource → Prop
  | .pipeline declared => declared.Allowed trusted
  | .secret _ => True
  | .signature _ => True

/-! ## Verdicts of composed checks -/

/-- Two checks in a row accept what both accept. -/
theorem Verdict.bind_eq_ok_iff (first : Verdict) (next : Unit → Verdict) :
    (first >>= next) = .ok () ↔ first = .ok () ∧ next () = .ok () := by
  cases first with
  | error violation => simp [bind, Except.bind]
  | ok accepted => simp [bind, Except.bind]

/-- A check of a list accepts it if it accepts each item. -/
@[simp]
theorem checkEach_eq_ok_iff (check : α → Verdict) (items : List α) :
    checkEach check items = .ok () ↔ ∀ item ∈ items, check item = .ok () := by
  induction items with
  | nil => simp [checkEach]
  | cons item rest ih => simp [checkEach, Verdict.bind_eq_ok_iff, ih]

/-- The privileges of a table are only looked at in untrusted repositories, and
there none of them may be used. -/
theorem checkPrivileges_eq_ok_iff (table : List (PrivilegeUse α)) (trusted : Bool) (target : α) :
    checkPrivileges table trusted target = .ok () ↔
      (trusted = false → ∀ use ∈ table, use.uses target = false) := by
  unfold checkPrivileges
  cases trusted with
  | true => simp
  | false =>
      cases found : table.find? (·.uses target) with
      | none => simpa using found
      | some use =>
          have used : use.uses target = true := by simpa using List.find?_some found
          have listed : use ∈ table := List.mem_of_find?_eq_some found
          simp only [Bool.false_eq_true, if_false, reduceCtorEq, forall_const, false_iff]
          intro unused
          rw [unused use listed] at used
          contradiction

/-- No name is repeated if the names differ from each other and from those seen
before them. -/
theorem firstRepeated_eq_none_iff (seen names : List String) :
    firstRepeated seen names = none ↔ names.Nodup ∧ ∀ name ∈ names, name ∉ seen := by
  induction names generalizing seen with
  | nil => simp [firstRepeated]
  | cons name rest ih =>
      by_cases repeated : name ∈ seen
      · simp [firstRepeated, repeated]
      · simp only [firstRepeated, repeated, if_false, ih, List.nodup_cons, List.mem_cons,
          forall_eq_or_imp, not_false_eq_true, true_and, not_or]
        constructor
        · rintro ⟨distinct, fresh⟩
          exact ⟨⟨fun later => (fresh name later).1 rfl, distinct⟩,
            fun other later => (fresh other later).2⟩
        · rintro ⟨⟨notLater, distinct⟩, fresh⟩
          refine ⟨distinct, fun other later => ⟨?_, fresh other later⟩⟩
          rintro rfl
          exact notLater later

/-! ## Verdicts of the single checks -/

theorem Platform.check_eq_ok_iff (platform : Platform) :
    platform.check = .ok () ↔
      platform.os ∈ ["", "linux", "windows"] ∧ platform.arch ∈ ["", "amd64", "arm", "arm64"] := by
  have osKnown : platform.os ∈ ["", "linux", "windows"] ↔
      (!platform.os.isEmpty && !supportedOs.contains platform.os) = false := by
    simp [supportedOs, or_iff_not_imp_left]
  have archKnown : platform.arch ∈ ["", "amd64", "arm", "arm64"] ↔
      (!platform.arch.isEmpty && !supportedArch.contains platform.arch) = false := by
    simp [supportedArch, or_iff_not_imp_left]
  rw [osKnown, archKnown]
  unfold Platform.check
  split
  · simp_all
  · split <;> simp_all

theorem Build.check_eq_ok_iff (build : Build) : build.check = .ok () ↔ build.image ≠ "" := by
  unfold Build.check
  split <;> simp_all

theorem Volume.unprivileged_iff (volume : Volume) :
    volume.Unprivileged ↔ ∀ use ∈ Volume.privilegeUses, use.uses volume = false := by
  have inMemory : volume.isInMemory = false ↔
      ∀ directory, volume.temporary = some directory → directory.medium ≠ "memory" := by
    cases temporary : volume.temporary <;> simp [Volume.isInMemory, temporary]
  constructor
  · rintro ⟨noHostPath, notInMemory⟩
    simpa [Volume.privilegeUses, Volume.isHostPath, noHostPath] using inMemory.mpr notInMemory
  · intro unused
    simp only [Volume.privilegeUses, List.mem_cons, List.not_mem_nil, or_false,
      forall_eq_or_imp, forall_eq] at unused
    exact ⟨by simpa [Volume.isHostPath] using unused.1, inMemory.mp unused.2⟩

theorem Volume.check_eq_ok_iff (trusted : Bool) (volume : Volume) :
    volume.check trusted = .ok () ↔
      volume.name ∉ ["_workspace", "_docker_socket"] ∧
        (trusted = false → volume.Unprivileged) := by
  rw [Volume.unprivileged_iff, ← checkPrivileges_eq_ok_iff]
  unfold Volume.check
  split <;> simp_all [reservedVolumeNames]

theorem Container.unprivileged_iff (container : Container) :
    container.Unprivileged ↔
      ∀ use ∈ Container.privilegeUses, use.uses container = false := by
  constructor
  · rintro ⟨noHostPort, noDevices, notPrivileged, noDns, noDnsSearch, noExtraHosts, noNetworkMode⟩
    simp_all [Container.privilegeUses]
  · intro unused
    simp [Container.privilegeUses] at unused
    obtain ⟨ports, devices, privileged, dns, dnsSearch, extraHosts, networkMode⟩ := unused
    exact ⟨ports, devices, privileged, dns, dnsSearch, extraHosts, networkMode⟩

theorem Container.check_eq_ok_iff (trusted : Bool) (container : Container) :
    container.check trusted = .ok () ↔
      container.name ≠ "" ∧ container.image ≠ "" ∧
        (trusted = false → container.Unprivileged) := by
  rw [Container.unprivileged_iff, ← checkPrivileges_eq_ok_iff]
  unfold Container.check
  split
  · simp_all
  · split <;> simp_all

namespace Pipeline

theorem checkUniqueNames_eq_ok_iff (pipeline : Pipeline) :
    pipeline.checkUniqueNames = .ok () ↔
      ((pipeline.steps ++ pipeline.services).map (·.name)).Nodup := by
  have none_iff := firstRepeated_eq_none_iff [] ((pipeline.steps ++ pipeline.services).map (·.name))
  simp only [List.not_mem_nil, not_false_eq_true, implies_true, and_true] at none_iff
  rw [← none_iff]
  unfold checkUniqueNames
  split <;> simp_all

/-- Steps and services are the containers, in whatever order they are looked
at. -/
theorem mem_containers_iff (pipeline : Pipeline) (container : Container) :
    container ∈ pipeline.containers ↔ container ∈ pipeline.steps ++ pipeline.services := by
  simp [containers, or_comm]

/-- A pipeline is accepted if each of its parts is. -/
theorem check_eq_ok_iff (trusted : Bool) (pipeline : Pipeline) :
    pipeline.check trusted = .ok () ↔
      pipeline.platform.check = .ok () ∧
        (∀ build ∈ pipeline.build.toList, build.check = .ok ()) ∧
        (∀ volume ∈ pipeline.volumes, volume.check trusted = .ok ()) ∧
        pipeline.checkUniqueNames = .ok () ∧
        ∀ container ∈ pipeline.containers, container.check trusted = .ok () := by
  simp only [check, checkPlatform, checkParts, Verdict.bind_eq_ok_iff, checkEach_eq_ok_iff]

end Pipeline

/-! ## Main statement -/

namespace Resource

/-- A resource is accepted exactly if it is allowed. -/
theorem check_eq_ok_iff_allowed (trusted : Bool) (resource : Resource) :
    resource.check trusted = .ok () ↔ resource.Allowed trusted := by
  cases resource with
  | secret declared => simp [check, Allowed]
  | signature declared => simp [check, Allowed]
  | pipeline declared =>
      simp only [check, Allowed, Pipeline.check_eq_ok_iff, Platform.check_eq_ok_iff,
        Build.check_eq_ok_iff, Volume.check_eq_ok_iff, Container.check_eq_ok_iff,
        Pipeline.checkUniqueNames_eq_ok_iff, Pipeline.mem_containers_iff, Option.mem_toList]
      constructor
      · rintro ⟨⟨os, arch⟩, build, volumes, distinct, containers⟩
        exact
          { os, arch
            buildImage := build
            volumeNames := fun volume member => (volumes volume member).1
            distinctNames := distinct
            named := fun container member => (containers container member).1
            imaged := fun container member => (containers container member).2.1
            volumesUnprivileged := fun untrusted volume member =>
              (volumes volume member).2 untrusted
            containersUnprivileged := fun untrusted container member =>
              (containers container member).2.2 untrusted }
      · intro allowed
        refine ⟨⟨allowed.os, allowed.arch⟩, allowed.buildImage, ?_, allowed.distinctNames, ?_⟩
        · intro volume member
          exact ⟨allowed.volumeNames volume member,
            fun untrusted => allowed.volumesUnprivileged untrusted volume member⟩
        · intro container member
          exact ⟨allowed.named container member, allowed.imaged container member,
            fun untrusted => allowed.containersUnprivileged untrusted container member⟩

end Resource

end ManifestLint
