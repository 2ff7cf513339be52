import ManifestLint.Resource.Basic

/-!
# Writing resources

The data value of a resource: its kind, and then every field under its name, in
order of declaration.  An absent host path or temporary directory has no entry,
and everything else that is absent is null.
-/

namespace ManifestLint

open ManifestLint.Yaml (Value)

/-- An entry under a string key. -/
def Yaml.Value.entry (name : String) (value : Value) : Value × Value :=
  (.string name, value)

/-- A sequence of strings. -/
def Yaml.Value.ofStrings (items : List String) : Value :=
  .sequence (items.map .string)

/-- A value that may be absent, which is null. -/
def Yaml.Value.ofOption (write : α → Value) : Option α → Value
  | none => .null
  | some value => write value

/-- A dictionary. -/
def Yaml.Value.ofDictionary (write : α → Value) (dictionary : Dictionary α) : Value :=
  .mapping (dictionary.entries.map fun entry => Value.entry entry.1 (write entry.2))

open Yaml.Value (entry ofStrings ofOption ofDictionary)

/-- The value of a platform. -/
def Platform.toValue (platform : Platform) : Value :=
  .mapping
    [ entry "os" (.string platform.os),
      entry "arch" (.string platform.arch),
      entry "variant" (.string platform.variant),
      entry "version" (.string platform.version) ]

/-- The value of an image build. -/
def Build.toValue (build : Build) : Value :=
  .mapping
    [ entry "image" (.string build.image),
      entry "context" (.string build.context),
      entry "dockerfile" (.string build.dockerfile),
      entry "args" (ofDictionary .string build.args),
      entry "labels" (ofDictionary .string build.labels),
      entry "cache_from" (ofStrings build.cacheFrom) ]

/-- The value of a host path. -/
def HostPath.toValue (host : HostPath) : Value :=
  .mapping [entry "path" (.string host.path)]

/-- The value of a temporary directory. -/
def TemporaryDirectory.toValue (directory : TemporaryDirectory) : Value :=
  .mapping
    [ entry "medium" (.string directory.medium),
      entry "size_limit" (ofOption (fun limit => .nat limit.toNat) directory.sizeLimit) ]

/-- The value of a volume. -/
def Volume.toValue (volume : Volume) : Value :=
  .mapping
    ([entry "name" (.string volume.name)] ++
      (volume.host.map fun host => entry "host" host.toValue).toList ++
      (volume.temporary.map fun directory => entry "temp" directory.toValue).toList)

/-- The value of a device. -/
def Device.toValue (device : Device) : Value :=
  .mapping [entry "name" (.string device.name), entry "path" (.string device.path)]

/-- The value of a mount. -/
def Mount.toValue (mount : Mount) : Value :=
  .mapping [entry "name" (.string mount.name), entry "path" (.string mount.path)]

/-- The value of a port. -/
def Port.toValue : Port → Value
  | .number short => .nat short.toNat
  | .mapping long =>
      .mapping
        [ entry "port" (.nat long.port.toNat),
          entry "host" (ofOption (fun host => .nat host.toNat) long.host),
          entry "protocol" (ofOption .string long.protocol) ]

/-- The value of a container. -/
def Container.toValue (container : Container) : Value :=
  .mapping
    [ entry "name" (.string container.name),
      entry "image" (.string container.image),
      entry "commands" (ofStrings container.commands),
      entry "environment" (ofDictionary id container.environment),
      entry "detach" (.bool container.detach),
      entry "privileged" (.bool container.privileged),
      entry "devices" (.sequence (container.devices.map Device.toValue)),
      entry "ports" (.sequence (container.ports.map Port.toValue)),
      entry "dns" (ofStrings container.dns),
      entry "dns_search" (ofStrings container.dnsSearch),
      entry "extra_hosts" (ofStrings container.extraHosts),
      entry "network_mode" (.string container.networkMode),
      entry "volumes" (.sequence (container.volumes.map Mount.toValue)),
      entry "depends_on" (ofStrings container.dependsOn) ]

/-- The entries of a pipeline's fields. -/
def Pipeline.toEntries (pipeline : Pipeline) : List (Value × Value) :=
  [ entry "name" (.string pipeline.name),
    entry "type" (.string pipeline.type),
    entry "platform" pipeline.platform.toValue,
    entry "build" (ofOption Build.toValue pipeline.build),
    entry "volumes" (.sequence (pipeline.volumes.map Volume.toValue)),
    entry "services" (.sequence (pipeline.services.map Container.toValue)),
    entry "steps" (.sequence (pipeline.steps.map Container.toValue)),
    entry "depends_on" (ofStrings pipeline.dependsOn) ]

/-- The entries of a secret's fields. -/
def Secret.toEntries (secret : Secret) : List (Value × Value) :=
  [entry "name" (.string secret.name), entry "data" (.string secret.data)]

/-- The entries of a signature's fields. -/
def Signature.toEntries (signature : Signature) : List (Value × Value) :=
  [entry "hmac" (.string signature.hmac)]

/-- The entries of a resource's fields. -/
def Resource.toEntries : Resource → List (Value × Value)
  | .pipeline declared => declared.toEntries
  | .secret declared => declared.toEntries
  | .signature declared => declared.toEntries

/-- The value of a resource. -/
def Resource.toValue (resource : Resource) : Value :=
  .mapping (entry "kind" (.string resource.kind) :: resource.toEntries)

end ManifestLint
