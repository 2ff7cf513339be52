import ManifestLint.Yaml.Value
import ManifestLint.Dictionary

/-!
# Resources of a manifest

A manifest declares pipelines, secrets, and signatures.  Every field has a zero
value, which stands for a field that is not written.
-/

namespace ManifestLint

/-- The operating system and architecture that a pipeline runs on. -/
structure Platform where
  os : String := ""
  arch : String := ""
  variant : String := ""
  version : String := ""
deriving DecidableEq

/-- How a pipeline builds an image. -/
structure Build where
  image : String := ""
  context : String := ""
  dockerfile : String := ""
  args : Dictionary String := .empty
  labels : Dictionary String := .empty
  cacheFrom : List String := []

/-- A directory of the host that a volume mounts. -/
structure HostPath where
  path : String := ""
deriving DecidableEq

/-- A temporary directory behind a volume. -/
structure TemporaryDirectory where
  medium : String := ""
  sizeLimit : Option UInt64 := none
deriving DecidableEq

/-- A volume of a pipeline. -/
structure Volume where
  name : String := ""
  host : Option HostPath := none
  temporary : Option TemporaryDirectory := none
deriving DecidableEq

namespace Volume

/-- Whether the volume mounts a path of the host. -/
def isHostPath (volume : Volume) : Bool :=
  volume.host.isSome

/-- Whether the volume is a temporary directory held in memory. -/
def isInMemory (volume : Volume) : Bool :=
  volume.temporary.any fun directory => directory.medium = "memory"

end Volume

/-- A device of the host that a container uses. -/
structure Device where
  name : String := ""
  path : String := ""
deriving DecidableEq

/-- A volume as a container mounts it. -/
structure Mount where
  name : String := ""
  path : String := ""
deriving DecidableEq

/-- A container port with its binding. -/
structure PortMapping where
  port : UInt16
  host : Option UInt16 := none
  protocol : Option String := none
deriving DecidableEq

/-- A port of a container, in its short or its long form. -/
inductive Port where
  | number (port : UInt16)
  | mapping (mapping : PortMapping)
deriving DecidableEq

namespace Port

/-- The port inside the container. -/
def port : Port → UInt16
  | .number short => short
  | .mapping long => long.port

/-- The port of the host that it is bound to. -/
def host : Port → Option UInt16
  | .number _ => none
  | .mapping long => long.host

end Port

/-- A step or a service of a pipeline. -/
structure Container where
  name : String := ""
  image : String := ""
  commands : List String := []
  environment : Dictionary Yaml.Value := .empty
  detach : Bool := false
  privileged : Bool := false
  devices : List Device := []
  ports : List Port := []
  dns : List String := []
  dnsSearch : List String := []
  extraHosts : List String := []
  networkMode : String := ""
  volumes : List Mount := []
  dependsOn : List String := []

/-- A pipeline: its platform, its volumes, and the containers that it runs. -/
structure Pipeline where
  name : String := ""
  type : String := ""
  platform : Platform := {}
  build : Option Build := none
  volumes : List Volume := []
  services : List Container := []
  steps : List Container := []
  dependsOn : List String := []

/-- The services, followed by the steps. -/
def Pipeline.containers (pipeline : Pipeline) : List Container :=
  pipeline.services ++ pipeline.steps

/-- A secret. -/
structure Secret where
  name : String := ""
  data : String := ""
deriving DecidableEq

/-- A signature of the manifest. -/
structure Signature where
  hmac : String := ""
deriving DecidableEq

/-- One document of a manifest. -/
inductive Resource where
  | pipeline (pipeline : Pipeline)
  | secret (secret : Secret)
  | signature (signature : Signature)

namespace Resource

/-- The word that a document declares its kind with. -/
def kind : Resource → String
  | .pipeline _ => "pipeline"
  | .secret _ => "secret"
  | .signature _ => "signature"

/-- The declared name, which is empty for resources without one. -/
def name : Resource → String
  | .pipeline declared => declared.name
  | .secret declared => declared.name
  | .signature _ => ""

end Resource

end ManifestLint
