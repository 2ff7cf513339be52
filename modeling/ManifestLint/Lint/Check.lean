import ManifestLint.Lint.Violation

/-!
# Checking resources

Each check returns the first violation that it meets.  A pipeline is checked
from its platform over its build, its volumes, and the uniqueness of its
container names to the containers themselves.  Privileges are looked at for
untrusted repositories only.
-/

namespace ManifestLint

/-- The outcome of a check. -/
abbrev Verdict := Except Violation Unit

/-- Check the items of a list and stop at the first violation. -/
def checkEach (check : α → Verdict) : List α → Verdict
  | [] => .ok ()
  | item :: rest => do
      check item
      checkEach check rest

/-- Reject the first privilege of a table that an untrusted repository uses. -/
def checkPrivileges (table : List (PrivilegeUse α)) (trusted : Bool) (target : α) : Verdict :=
  if trusted then .ok ()
  else
    match table.find? (·.uses target) with
    | some use => .error (.untrusted use.privilege)
    | none => .ok ()

/-- Operating systems that a pipeline may name. -/
def supportedOs : List String :=
  ["linux", "windows"]

/-- Architectures that a pipeline may name. -/
def supportedArch : List String :=
  ["amd64", "arm", "arm64"]

/-- Check the operating system and then the architecture; an empty name stands
for the default. -/
def Platform.check (platform : Platform) : Verdict :=
  if !platform.os.isEmpty && !supportedOs.contains platform.os then
    .error (.unsupportedOs platform.os)
  else if !platform.arch.isEmpty && !supportedArch.contains platform.arch then
    .error (.unsupportedArch platform.arch)
  else .ok ()

/-- A build names the image that it builds. -/
def Build.check (build : Build) : Verdict :=
  if build.image.isEmpty then .error .missingBuildImage else .ok ()

/-- Volume names that belong to the runtime. -/
def reservedVolumeNames : List String :=
  ["_workspace", "_docker_socket"]

/-- Check a volume's name and then its privileges. -/
def Volume.check (trusted : Bool) (volume : Volume) : Verdict :=
  if reservedVolumeNames.contains volume.name then .error (.reservedVolumeName volume.name)
  else checkPrivileges Volume.privilegeUses trusted volume

/-- Check a container's name, its image, and then its privileges. -/
def Container.check (trusted : Bool) (container : Container) : Verdict :=
  if container.name.isEmpty then .error .missingName
  else if container.image.isEmpty then .error .missingImage
  else checkPrivileges Container.privilegeUses trusted container

/-- The first name that equals one before it. -/
def firstRepeated (seen : List String) : List String → Option String
  | [] => none
  | name :: rest => if name ∈ seen then some name else firstRepeated (name :: seen) rest

namespace Pipeline

/-- No two containers share a name; steps are looked at before services. -/
def checkUniqueNames (pipeline : Pipeline) : Verdict :=
  match firstRepeated [] ((pipeline.steps ++ pipeline.services).map (·.name)) with
  | some name => .error (.duplicateStepName name)
  | none => .ok ()

/-- Check the platform. -/
def checkPlatform (pipeline : Pipeline) : Verdict :=
  pipeline.platform.check

/-- Check everything besides the platform. -/
def checkParts (trusted : Bool) (pipeline : Pipeline) : Verdict := do
  checkEach Build.check pipeline.build.toList
  checkEach (Volume.check trusted) pipeline.volumes
  pipeline.checkUniqueNames
  checkEach (Container.check trusted) pipeline.containers

/-- Check a pipeline. -/
def check (trusted : Bool) (pipeline : Pipeline) : Verdict := do
  pipeline.checkPlatform
  pipeline.checkParts trusted

end Pipeline

/-- Check a resource.  Secrets and signatures are always accepted. -/
def Resource.check (trusted : Bool) : Resource → Verdict
  | .pipeline declared => declared.check trusted
  | .secret _ => .ok ()
  | .signature _ => .ok ()

end ManifestLint
