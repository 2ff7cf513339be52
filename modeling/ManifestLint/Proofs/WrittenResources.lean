import ManifestLint.Proofs.InverseReaders
import ManifestLint.Proofs.PlainValues
import ManifestLint.Proofs.EffectiveDocuments

/-!
# Resources are read back

The value that is written for a resource is a document from which the same
resource is read, as long as no merge key and no local tag is among what the
resource keeps.
-/

namespace ManifestLint

open ManifestLint.Yaml (Value)
open ManifestLint.Shape
open ManifestLint.Yaml.Value (entry ofStrings ofOption ofDictionary)

/-! ## Records of resources -/

theorem Platform.read_inverts : Inverts Platform.record.read Platform.toValue :=
  fun _ => rfl

theorem Build.read_inverts : Inverts Build.record.read Build.toValue := by
  intro build
  apply Record.Makes.read
  exact .field rfl (by decide) rfl <| .field rfl (by decide) rfl <| .field rfl (by decide) rfl <|
    .field rfl (by decide) (readDictionary_inverts readString_inverts _) <|
    .field rfl (by decide) (readDictionary_inverts readString_inverts _) <|
    .field rfl (by decide) (readStrings_inverts _) .nothing

theorem HostPath.read_inverts : Inverts HostPath.record.read HostPath.toValue :=
  fun _ => rfl

theorem TemporaryDirectory.read_inverts :
    Inverts TemporaryDirectory.record.read TemporaryDirectory.toValue := by
  intro directory
  apply Record.Makes.read
  exact .field rfl (by decide) rfl <| .field rfl (by decide)
    (readOption_inverts readWord64_inverts (fun _ => nofun) _) .nothing

/-- An absent host path or temporary directory has no entry, and its field keeps its
zero value. -/
theorem Volume.read_inverts : Inverts Volume.record.read Volume.toValue := by
  rintro ⟨name, host, temporary⟩
  apply Record.Makes.read
  cases host with
  | none =>
      cases temporary with
      | none => exact .field rfl (by decide) rfl .nothing
      | some directory =>
          exact .field rfl (by decide) rfl <| .field rfl (by decide)
            (readOption_inverts TemporaryDirectory.read_inverts (fun _ => nofun)
              (some directory)) .nothing
  | some path =>
      have given := readOption_inverts HostPath.read_inverts (fun _ => nofun) (some path)
      cases temporary with
      | none => exact .field rfl (by decide) rfl <| .field rfl (by decide) given .nothing
      | some directory =>
          exact .field rfl (by decide) rfl <| .field rfl (by decide) given <| .field rfl (by decide)
            (readOption_inverts TemporaryDirectory.read_inverts (fun _ => nofun)
              (some directory)) .nothing

theorem Device.read_inverts : Inverts Device.record.read Device.toValue :=
  fun _ => rfl

theorem Mount.read_inverts : Inverts Mount.record.read Mount.toValue :=
  fun _ => rfl

theorem PortMapping.read_toValue (mapping : PortMapping) :
    PortMapping.read (Port.mapping mapping).toValue = .ok mapping := by
  have draft : PortMapping.record.read (Port.mapping mapping).toValue =
      .ok ⟨some mapping.port, mapping.host, mapping.protocol⟩ := by
    apply Record.Makes.read
    exact .field rfl (by decide) (readWord16_inverts _) <|
      .field rfl (by decide) (readOption_inverts readWord16_inverts (fun _ => nofun) _) <|
      .field rfl (by decide) (readOption_inverts readString_inverts (fun _ => nofun) _) .nothing
  rw [PortMapping.read, draft]
  rfl

theorem Port.read_of_number {value : Value} {short : UInt16}
    (number : readWord16 value = .ok short) : Port.read value = .ok (.number short) := by
  simp only [Port.read, number]

/-- A short port is a number, and a long one is none. -/
theorem Port.read_inverts : Inverts Port.read Port.toValue := by
  intro port
  cases port with
  | number short => exact Port.read_of_number (readWord16_inverts short)
  | mapping long =>
      have noNumber : ∃ error, readWord16 (Port.mapping long).toValue = .error error :=
        ⟨.invalidType .map .word16, rfl⟩
      rcases noNumber with ⟨error, failure⟩
      rw [Port.read, PortMapping.read_toValue, failure]

theorem Container.read_inverts : Inverts Container.record.read Container.toValue := by
  intro container
  apply Record.Makes.read
  exact .field rfl (by decide) rfl <| .field rfl (by decide) rfl <|
    .field rfl (by decide) (readStrings_inverts _) <|
    .field rfl (by decide) (readDictionary_inverts (fun _ => rfl) _) <|
    .field rfl (by decide) rfl <| .field rfl (by decide) rfl <|
    .field rfl (by decide) (readList_inverts Device.read_inverts _) <|
    .field rfl (by decide) (readList_inverts Port.read_inverts _) <|
    .field rfl (by decide) (readStrings_inverts _) <|
    .field rfl (by decide) (readStrings_inverts _) <|
    .field rfl (by decide) (readStrings_inverts _) <|
    .field rfl (by decide) rfl <|
    .field rfl (by decide) (readList_inverts Mount.read_inverts _) <|
    .field rfl (by decide) (readStrings_inverts _) .nothing

theorem Pipeline.read_toEntries (pipeline : Pipeline) :
    Pipeline.record.read (.mapping pipeline.toEntries) = .ok pipeline := by
  apply Record.Makes.read
  exact .field rfl (by decide) rfl <| .field rfl (by decide) rfl <|
    .field rfl (by decide) (Platform.read_inverts _) <|
    .field rfl (by decide)
      (readOption_inverts Build.read_inverts (fun _ => nofun) _) <|
    .field rfl (by decide) (readList_inverts Volume.read_inverts _) <|
    .field rfl (by decide) (readList_inverts Container.read_inverts _) <|
    .field rfl (by decide) (readList_inverts Container.read_inverts _) <|
    .field rfl (by decide) (readStrings_inverts _) .nothing

/-! ## What is kept -/

namespace Yaml.Value

theorem plain_entry_iff {name : String} {content : Value} :
    ((entry name content).1 ≠ .string "<<" ∧ (entry name content).1.hasTag = false ∧
      Plain (entry name content).2) ↔ name ≠ "<<" ∧ content.Plain := by
  simp [entry, hasTag]

theorem plain_ofStrings (items : List String) : (ofStrings items).Plain := by
  rw [ofStrings, plain_sequence_iff, List.forall_mem_map]
  exact fun item _ => plain_string item

theorem plain_ofOption {α : Type} {write : α → Value} {written : Option α}
    (plain : ∀ content, written = some content → (write content).Plain) :
    (ofOption write written).Plain := by
  cases written with
  | none => exact plain_null
  | some content => exact plain content rfl

theorem plain_ofDictionary_iff {α : Type} {write : α → Value} {dictionary : Dictionary α} :
    (ofDictionary write dictionary).Plain ↔
      ∀ written ∈ dictionary.entries, written.1 ≠ "<<" ∧ (write written.2).Plain := by
  simp only [ofDictionary, plain_mapping_iff, List.forall_mem_map, plain_entry_iff]

end Yaml.Value

open ManifestLint.Yaml.Value (plain_null plain_string plain_bool plain_number plain_sequence_iff
  plain_mapping_iff plain_entry_iff plain_ofStrings plain_ofOption plain_ofDictionary_iff)

/-- A dictionary does not have the merge key. -/
def Dictionary.Mergeless {α : Type} (dictionary : Dictionary α) : Prop :=
  ∀ written ∈ dictionary.entries, written.1 ≠ "<<"

/-- No merge key is among the names of arguments and labels. -/
structure Build.Plain (build : Build) : Prop where
  args : build.args.Mergeless
  labels : build.labels.Mergeless

/-- No local tag and no merge key is in the environment. -/
structure Container.Plain (container : Container) : Prop where
  names : container.environment.Mergeless
  values : ∀ setting ∈ container.environment.entries, setting.2.Plain

/-- What a pipeline keeps is plain. -/
structure Pipeline.Plain (pipeline : Pipeline) : Prop where
  build : ∀ build, pipeline.build = some build → build.Plain
  containers : ∀ container ∈ pipeline.containers, container.Plain

/-- What a resource keeps is plain. -/
def Resource.Plain : Resource → Prop
  | .pipeline declared => declared.Plain
  | .secret _ => True
  | .signature _ => True

theorem Platform.plain_toValue (platform : Platform) : platform.toValue.Plain := by
  simp [toValue, plain_mapping_iff, plain_entry_iff, plain_string]

theorem Build.plain_toValue {build : Build} (plain : build.Plain) : build.toValue.Plain := by
  have dictionary {dictionary : Dictionary String} (mergeless : dictionary.Mergeless) :
      (ofDictionary .string dictionary).Plain :=
    plain_ofDictionary_iff.mpr fun written member => ⟨mergeless written member, plain_string _⟩
  simp [toValue, plain_mapping_iff, plain_entry_iff, plain_string, plain_ofStrings,
    dictionary plain.args, dictionary plain.labels]

theorem HostPath.plain_toValue (host : HostPath) : host.toValue.Plain := by
  simp [toValue, plain_mapping_iff, plain_entry_iff, plain_string]

theorem TemporaryDirectory.plain_toValue (directory : TemporaryDirectory) :
    directory.toValue.Plain := by
  have sizeLimit : (ofOption (fun limit => .nat limit.toNat) directory.sizeLimit).Plain :=
    plain_ofOption fun _ _ => plain_number _
  simp [toValue, plain_mapping_iff, plain_entry_iff, plain_string, sizeLimit]

theorem Volume.plain_toValue (volume : Volume) : volume.toValue.Plain := by
  rcases volume with ⟨name, host, temporary⟩
  cases host <;> cases temporary <;>
    simp [toValue, plain_mapping_iff, plain_entry_iff, plain_string, HostPath.plain_toValue,
      TemporaryDirectory.plain_toValue]

theorem Device.plain_toValue (device : Device) : device.toValue.Plain := by
  simp [toValue, plain_mapping_iff, plain_entry_iff, plain_string]

theorem Mount.plain_toValue (mount : Mount) : mount.toValue.Plain := by
  simp [toValue, plain_mapping_iff, plain_entry_iff, plain_string]

theorem Port.plain_toValue (port : Port) : port.toValue.Plain := by
  cases port with
  | number short => exact plain_number _
  | mapping long =>
      have port : (Value.nat long.port.toNat).Plain := plain_number _
      have host : (ofOption (fun host => .nat host.toNat) long.host).Plain :=
        plain_ofOption fun _ _ => plain_number _
      have protocol : (ofOption .string long.protocol).Plain :=
        plain_ofOption fun _ _ => plain_string _
      simp [toValue, plain_mapping_iff, plain_entry_iff, port, host, protocol]

theorem Container.plain_toValue {container : Container} (plain : container.Plain) :
    container.toValue.Plain := by
  have environment : (ofDictionary id container.environment).Plain :=
    plain_ofDictionary_iff.mpr fun setting member =>
      ⟨plain.names setting member, plain.values setting member⟩
  simp [toValue, plain_mapping_iff, plain_entry_iff, plain_sequence_iff, plain_string, plain_bool,
    plain_ofStrings, environment, Device.plain_toValue, Port.plain_toValue, Mount.plain_toValue]

theorem Pipeline.plain_toEntries {pipeline : Pipeline} (plain : pipeline.Plain) :
    (Value.mapping pipeline.toEntries).Plain := by
  have build : (ofOption Build.toValue pipeline.build).Plain :=
    plain_ofOption fun build found => Build.plain_toValue (plain.build build found)
  have services : ∀ container ∈ pipeline.services, container.toValue.Plain :=
    fun container member =>
      Container.plain_toValue (plain.containers container (List.mem_append_left _ member))
  have steps : ∀ container ∈ pipeline.steps, container.toValue.Plain :=
    fun container member =>
      Container.plain_toValue (plain.containers container (List.mem_append_right _ member))
  simpa [toEntries, plain_mapping_iff, plain_entry_iff, plain_sequence_iff, plain_string,
    plain_ofStrings, Platform.plain_toValue, build, Volume.plain_toValue] using ⟨services, steps⟩

namespace Resource

theorem Plain.toEntries {resource : Resource} (plain : resource.Plain) :
    (Value.mapping resource.toEntries).Plain := by
  cases resource with
  | pipeline declared => exact declared.plain_toEntries plain
  | secret declared =>
      simp [Resource.toEntries, Secret.toEntries, plain_mapping_iff, plain_entry_iff, plain_string]
  | signature declared =>
      simp [Resource.toEntries, Signature.toEntries, plain_mapping_iff, plain_entry_iff,
        plain_string]

theorem Plain.toValue {resource : Resource} (plain : resource.Plain) : resource.toValue.Plain := by
  have rest := plain.toEntries
  rw [plain_mapping_iff] at rest
  rw [Resource.toValue, plain_mapping_iff, List.forall_mem_cons, plain_entry_iff]
  exact ⟨⟨by decide, plain_string _⟩, rest⟩

/-! ## Reading what is written -/

theorem readFields_toEntries (resource : Resource) :
    ∃ kind, Kind.read (.string resource.kind) = .ok kind ∧
      readFields kind (.mapping resource.toEntries) = .ok resource := by
  cases resource with
  | pipeline declared =>
      refine ⟨.pipeline, rfl, ?_⟩
      rw [readFields, Resource.toEntries, declared.read_toEntries]
      rfl
  | secret declared => exact ⟨.secret, rfl, rfl⟩
  | signature declared => exact ⟨.signature, rfl, rfl⟩

/-- No field of a resource is called like its kind. -/
theorem unkinded_toEntries (resource : Resource) :
    kindValues resource.toEntries = [] ∧ unkinded resource.toEntries = resource.toEntries := by
  cases resource <;> exact ⟨rfl, rfl⟩

theorem read_toValue {resource : Resource} (plain : resource.Plain) :
    read resource.toValue = .ok resource := by
  rcases resource.readFields_toEntries with ⟨kind, kindRead, fieldsRead⟩
  rcases resource.unkinded_toEntries with ⟨noKind, unkinded⟩
  apply read_mapping_eq_ok_iff.mpr
  refine ⟨kind, resource.toEntries, splitKind_eq_ok_iff.mpr ?_, fieldsRead⟩
  rw [entry, kindValues_cons_kind, unkinded_cons_kind, noKind, unkinded]
  exact ⟨⟨_, rfl, kindRead⟩, rfl, plain.toEntries.tagless⟩

end Resource

/-- The document that is written for a resource is read as that resource. -/
theorem Manifest.resourceOf_toValue (index : Nat) {resource : Resource} (plain : resource.Plain) :
    resourceOf index resource.toValue = .ok (some resource) := by
  have hasKind : resource.toValue.HasKind := rfl
  rw [resourceOf_of_hasKind index hasKind plain.toValue.merge_eq, outcomeOf,
    Resource.read_toValue plain]
  rfl

/-- A pipeline with ports in both forms, a limited temporary directory, and a setting
under a key that is no string. -/
def Resource.deployment : Resource :=
  .pipeline {
    volumes := [{ name := "cache", temporary := some { sizeLimit := some 4096 } }]
    steps := [{
      environment := Dictionary.empty.insert "LEVELS"
        (.mapping [(.number (.integer (-1)), .sequence [.null, .bool true])])
      ports := [.number 80, .mapping { port := 443, protocol := some "tcp" }] }] }

theorem Manifest.resourceOf_toValue_deployment :
    Resource.deployment.Plain ∧
      resourceOf 2 Resource.deployment.toValue = .ok (some Resource.deployment) := by
  have plain : Resource.deployment.Plain := by
    refine ⟨nofun, ?_⟩
    intro container member
    rw [List.mem_singleton.mp member]
    constructor
    · simp [Dictionary.Mergeless, Dictionary.empty, Dictionary.insertEntry]
    · simp [Dictionary.empty, Dictionary.insertEntry, plain_mapping_iff,
        plain_sequence_iff, plain_null, plain_bool, Value.hasTag]
  exact ⟨plain, resourceOf_toValue 2 plain⟩

end ManifestLint
