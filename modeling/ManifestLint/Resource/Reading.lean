import ManifestLint.Resource.Basic
import ManifestLint.Shape.Record

/-!
# Reading resources

The record descriptions of the resources, and the rule by which a document is
read as one of them: its kind decides, and the other entries are the fields of
that kind.  A document with a local tag anywhere besides its kind is refused
before any field is looked at.
-/

namespace ManifestLint

open ManifestLint.Yaml (Value)
open ManifestLint.Shape

/-- The fields of a platform. -/
def Platform.record : Record Platform where
  name := "Platform"
  initial := {}
  fields :=
    [ .of "os" readString fun os platform => { platform with os },
      .of "arch" readString fun arch platform => { platform with arch },
      .of "variant" readString fun variant platform => { platform with variant },
      .of "version" readString fun version platform => { platform with version } ]

/-- The fields of an image build. -/
def Build.record : Record Build where
  name := "Build"
  initial := {}
  fields :=
    [ .of "image" readString fun image build => { build with image },
      .of "context" readString fun context build => { build with context },
      .of "dockerfile" readString fun dockerfile build => { build with dockerfile },
      .of "args" (readDictionary readString) fun args build => { build with args },
      .of "labels" (readDictionary readString) fun labels build => { build with labels },
      .of "cache_from" (readList readString) fun cacheFrom build => { build with cacheFrom } ]

/-- The fields of a host path. -/
def HostPath.record : Record HostPath where
  name := "VolumeHostPath"
  initial := {}
  fields :=
    [ .of "path" readString fun path host => { host with path } ]

/-- The fields of a temporary directory. -/
def TemporaryDirectory.record : Record TemporaryDirectory where
  name := "VolumeEmptyDir"
  initial := {}
  fields :=
    [ .of "medium" readString fun medium directory => { directory with medium },
      .of "size_limit" (readOption readWord64)
        fun sizeLimit directory => { directory with sizeLimit } ]

/-- The fields of a volume. -/
def Volume.record : Record Volume where
  name := "Volume"
  initial := {}
  fields :=
    [ .of "name" readString fun name volume => { volume with name },
      .of "host" (readOption HostPath.record.read) fun host volume => { volume with host },
      .of "temp" (readOption TemporaryDirectory.record.read)
        fun temporary volume => { volume with temporary } ]

/-- The fields of a device. -/
def Device.record : Record Device where
  name := "VolumeDevice"
  initial := {}
  fields :=
    [ .of "name" readString fun name device => { device with name },
      .of "path" readString (fun path device => { device with path }) (some "device_path") ]

/-- The fields of a mount. -/
def Mount.record : Record Mount where
  name := "VolumeMount"
  initial := {}
  fields :=
    [ .of "name" readString fun name mount => { mount with name },
      .of "path" readString (fun path mount => { mount with path }) (some "mount_path") ]

/-- A port mapping whose port may still be missing. -/
structure PortMapping.Draft where
  port : Option UInt16 := none
  host : Option UInt16 := none
  protocol : Option String := none

/-- The fields of a port mapping. -/
def PortMapping.record : Record PortMapping.Draft where
  name := "PortMapping"
  initial := {}
  fields :=
    [ .of "port" readWord16 fun port draft => { draft with port := some port },
      .of "host" (readOption readWord16) fun host draft => { draft with host },
      .of "protocol" (readOption readString) fun protocol draft => { draft with protocol } ]

/-- Read a port mapping, which has a port. -/
def PortMapping.read : Reader PortMapping := fun value => do
  let draft ← PortMapping.record.read value
  match draft.port with
  | some port => return { port, host := draft.host, protocol := draft.protocol }
  | none => .error (.missingField "port")

/-- Read a port: a number if it is one, a mapping otherwise.  What is wrong with
a value that is neither is not told. -/
def Port.read : Reader Port := fun value =>
  match readWord16 value, PortMapping.read value with
  | .ok short, _ => .ok (.number short)
  | .error _, .ok long => .ok (.mapping long)
  | .error _, .error _ => .error (.noAlternative "Port")

/-- Read any value as it is. -/
def readValue : Reader Value := .ok

/-- The fields of a container. -/
def Container.record : Record Container where
  name := "Container"
  initial := {}
  fields :=
    [ .of "name" readString fun name container => { container with name },
      .of "image" readString fun image container => { container with image },
      .of "commands" (readList readString) fun commands container => { container with commands },
      .of "environment" (readDictionary readValue)
        fun environment container => { container with environment },
      .of "detach" readBool fun detach container => { container with detach },
      .of "privileged" readBool fun privileged container => { container with privileged },
      .of "devices" (readList Device.record.read)
        fun devices container => { container with devices },
      .of "ports" (readList Port.read) fun ports container => { container with ports },
      .of "dns" (readList readString) fun dns container => { container with dns },
      .of "dns_search" (readList readString)
        fun dnsSearch container => { container with dnsSearch },
      .of "extra_hosts" (readList readString)
        fun extraHosts container => { container with extraHosts },
      .of "network_mode" readString fun networkMode container => { container with networkMode },
      .of "volumes" (readList Mount.record.read)
        fun volumes container => { container with volumes },
      .of "depends_on" (readList readString)
        fun dependsOn container => { container with dependsOn } ]

/-- The fields of a pipeline. -/
def Pipeline.record : Record Pipeline where
  name := "Pipeline"
  initial := {}
  fields :=
    [ .of "name" readString fun name pipeline => { pipeline with name },
      .of "type" readString fun type pipeline => { pipeline with type },
      .of "platform" Platform.record.read fun platform pipeline => { pipeline with platform },
      .of "build" (readOption Build.record.read) fun build pipeline => { pipeline with build },
      .of "volumes" (readList Volume.record.read) fun volumes pipeline => { pipeline with volumes },
      .of "services" (readList Container.record.read)
        fun services pipeline => { pipeline with services },
      .of "steps" (readList Container.record.read) fun steps pipeline => { pipeline with steps },
      .of "depends_on" (readList readString) fun dependsOn pipeline => { pipeline with dependsOn } ]

/-- The fields of a secret. -/
def Secret.record : Record Secret where
  name := "Secret"
  initial := {}
  fields :=
    [ .of "name" readString fun name secret => { secret with name },
      .of "data" readString fun data secret => { secret with data } ]

/-- The fields of a signature. -/
def Signature.record : Record Signature where
  name := "Signature"
  initial := {}
  fields :=
    [ .of "hmac" readString fun hmac signature => { signature with hmac } ]

namespace Resource

/-- The kinds of resources. -/
inductive Kind where
  | pipeline
  | secret
  | signature
deriving DecidableEq, Repr

/-- The words for the kinds. -/
def Kind.words : List (String × Kind) :=
  [("pipeline", .pipeline), ("secret", .secret), ("signature", .signature)]

/-- Read a kind, looking through local tags. -/
def Kind.read : Reader Kind := fun value =>
  match value.untagged with
  | .string word =>
      match Kind.words.lookup word with
      | some kind => .ok kind
      | none => .error (.unknownVariant word (Kind.words.map (·.1)))
  | other => mismatch other .variantName

/-- Find the kind among the entries of a document and refuse local tags in all
others; the first fault decides.  The result holds the other entries in their
order. -/
def splitKind : List (Value × Value) → Option Kind →
    Except Error (Option Kind × List (Value × Value))
  | [], kind => .ok (kind, [])
  | (key, value) :: rest, kind =>
      match key with
      | .string "kind" =>
          match kind with
          | some _ => .error (.duplicateField "kind")
          | none => do
              let found ← Kind.read value
              splitKind rest (some found)
      | key =>
          if key.hasTag || value.hasTag then .error .unsupportedTag
          else do
            let (found, others) ← splitKind rest kind
            return (found, (key, value) :: others)

/-- Read the fields of a resource of the given kind. -/
def readFields (kind : Kind) (fields : Value) : Except Error Resource :=
  match kind with
  | .pipeline => (Pipeline.record.read fields).map .pipeline
  | .secret => (Secret.record.read fields).map .secret
  | .signature => (Signature.record.read fields).map .signature

/-- Read a resource.  A sequence holds the kind first and then the fields. -/
def read : Reader Resource
  | .mapping entries => do
      match ← splitKind entries none with
      | (some kind, fields) => readFields kind (.mapping fields)
      | (none, _) => .error (.missingField "kind")
  | .sequence [] => .error (.missingField "kind")
  | .sequence (first :: rest) => do
      let kind ← Kind.read first
      if Value.anyItemHasTag rest then .error .unsupportedTag
      else readFields kind (.sequence rest)
  | value => mismatch value (.union "Resource")

end Resource

end ManifestLint
