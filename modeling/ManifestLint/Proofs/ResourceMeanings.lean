import ManifestLint.Proofs.RecordMeanings
import ManifestLint.Proofs.PlainValues
import ManifestLint.Proofs.EffectiveDocuments

/-!
# What documents stand for

The fields of every record of a resource, with their names and zero values, and what
a document with a kind stands for.  Reading a document is faithful to that: each field
has exactly what is written for it or its zero value, and a document is refused
exactly if something in it does not have its shape.
-/

namespace ManifestLint

open ManifestLint.Yaml (Value Entries)
open ManifestLint.Shape

/-! ## Fields of the records -/

/-- The fields of a platform. -/
def Platform.slots : List (Slot Platform) :=
  [ .of "os" .string Platform.os "",
    .of "arch" .string Platform.arch "",
    .of "variant" .string Platform.variant "",
    .of "version" .string Platform.version "" ]

/-- The fields of an image build. -/
def Build.slots : List (Slot Build) :=
  [ .of "image" .string Build.image "",
    .of "context" .string Build.context "",
    .of "dockerfile" .string Build.dockerfile "",
    .of "args" (.dictionary .string) Build.args .empty,
    .of "labels" (.dictionary .string) Build.labels .empty,
    .of "cache_from" (.list .string) Build.cacheFrom [] ]

/-- The fields of a host path. -/
def HostPath.slots : List (Slot HostPath) :=
  [.of "path" .string HostPath.path ""]

/-- The fields of a temporary directory. -/
def TemporaryDirectory.slots : List (Slot TemporaryDirectory) :=
  [ .of "medium" .string TemporaryDirectory.medium "",
    .of "size_limit" (.option .word64) TemporaryDirectory.sizeLimit none ]

/-- The fields of a volume. -/
def Volume.slots : List (Slot Volume) :=
  [ .of "name" .string Volume.name "",
    .of "host" (.option (.record HostPath.slots)) Volume.host none,
    .of "temp" (.option (.record TemporaryDirectory.slots)) Volume.temporary none ]

/-- The fields of a device. -/
def Device.slots : List (Slot Device) :=
  [ .of "name" .string Device.name "",
    .of "path" .string Device.path "" (some "device_path") ]

/-- The fields of a mount. -/
def Mount.slots : List (Slot Mount) :=
  [ .of "name" .string Mount.name "",
    .of "path" .string Mount.path "" (some "mount_path") ]

/-- The fields of a port mapping, which has a port. -/
def PortMapping.slots : List (Slot PortMapping) :=
  [ .needed "port" .word16 PortMapping.port,
    .of "host" (.option .word16) PortMapping.host none,
    .of "protocol" (.option .string) PortMapping.protocol none ]

/-- A port is a number or a mapping. -/
def Port.meaning : Meaning Port where
  Denotes value
    | .number short => Meaning.word16.Denotes value short
    | .mapping long => (Meaning.record PortMapping.slots).Denotes value long
  Misfits value :=
    Meaning.word16.Misfits value ∧ (Meaning.record PortMapping.slots).Misfits value

/-- The fields of a container. -/
def Container.slots : List (Slot Container) :=
  [ .of "name" .string Container.name "",
    .of "image" .string Container.image "",
    .of "commands" (.list .string) Container.commands [],
    .of "environment" (.dictionary .any) Container.environment .empty,
    .of "detach" .boolean Container.detach false,
    .of "privileged" .boolean Container.privileged false,
    .of "devices" (.list (.record Device.slots)) Container.devices [],
    .of "ports" (.list Port.meaning) Container.ports [],
    .of "dns" (.list .string) Container.dns [],
    .of "dns_search" (.list .string) Container.dnsSearch [],
    .of "extra_hosts" (.list .string) Container.extraHosts [],
    .of "network_mode" .string Container.networkMode "",
    .of "volumes" (.list (.record Mount.slots)) Container.volumes [],
    .of "depends_on" (.list .string) Container.dependsOn [] ]

/-- The fields of a pipeline. -/
def Pipeline.slots : List (Slot Pipeline) :=
  [ .of "name" .string Pipeline.name "",
    .of "type" .string Pipeline.type "",
    .of "platform" (.record Platform.slots) Pipeline.platform {},
    .of "build" (.option (.record Build.slots)) Pipeline.build none,
    .of "volumes" (.list (.record Volume.slots)) Pipeline.volumes [],
    .of "services" (.list (.record Container.slots)) Pipeline.services [],
    .of "steps" (.list (.record Container.slots)) Pipeline.steps [],
    .of "depends_on" (.list .string) Pipeline.dependsOn [] ]

/-- The fields of a secret. -/
def Secret.slots : List (Slot Secret) :=
  [ .of "name" .string Secret.name "",
    .of "data" .string Secret.data "" ]

/-- The fields of a signature. -/
def Signature.slots : List (Slot Signature) :=
  [.of "hmac" .string Signature.hmac ""]

/-! ## Values stand for one record -/

open ManifestLint.Shape.Meaning (isUnique_string isUnique_boolean isUnique_word16 isUnique_word64
  isUnique_any)

theorem Platform.isUnique : (Meaning.record Platform.slots).IsUnique := by
  apply Meaning.isUnique_record
  · simp only [Platform.slots, List.forall_mem_cons]
    exact ⟨Slot.isUnique_of isUnique_string _ _ _ _,
      Slot.isUnique_of isUnique_string _ _ _ _,
      Slot.isUnique_of isUnique_string _ _ _ _,
      Slot.isUnique_of isUnique_string _ _ _ _,
      List.forall_mem_nil _⟩
  · rintro ⟨⟩ ⟨⟩ same
    simpa [Platform.slots, Slot.of] using same

theorem Build.isUnique : (Meaning.record Build.slots).IsUnique := by
  apply Meaning.isUnique_record
  · simp only [Build.slots, List.forall_mem_cons]
    exact ⟨Slot.isUnique_of isUnique_string _ _ _ _,
      Slot.isUnique_of isUnique_string _ _ _ _,
      Slot.isUnique_of isUnique_string _ _ _ _,
      Slot.isUnique_of isUnique_string.dictionary _ _ _ _,
      Slot.isUnique_of isUnique_string.dictionary _ _ _ _,
      Slot.isUnique_of isUnique_string.list _ _ _ _,
      List.forall_mem_nil _⟩
  · rintro ⟨⟩ ⟨⟩ same
    simpa [Build.slots, Slot.of] using same

theorem HostPath.isUnique : (Meaning.record HostPath.slots).IsUnique := by
  apply Meaning.isUnique_record
  · simp only [HostPath.slots, List.forall_mem_cons]
    exact ⟨Slot.isUnique_of isUnique_string _ _ _ _,
      List.forall_mem_nil _⟩
  · rintro ⟨⟩ ⟨⟩ same
    simpa [HostPath.slots, Slot.of] using same

theorem TemporaryDirectory.isUnique : (Meaning.record TemporaryDirectory.slots).IsUnique := by
  apply Meaning.isUnique_record
  · simp only [TemporaryDirectory.slots, List.forall_mem_cons]
    exact ⟨Slot.isUnique_of isUnique_string _ _ _ _,
      Slot.isUnique_of isUnique_word64.option _ _ _ _,
      List.forall_mem_nil _⟩
  · rintro ⟨⟩ ⟨⟩ same
    simpa [TemporaryDirectory.slots, Slot.of] using same

theorem Volume.isUnique : (Meaning.record Volume.slots).IsUnique := by
  apply Meaning.isUnique_record
  · simp only [Volume.slots, List.forall_mem_cons]
    exact ⟨Slot.isUnique_of isUnique_string _ _ _ _,
      Slot.isUnique_of HostPath.isUnique.option _ _ _ _,
      Slot.isUnique_of TemporaryDirectory.isUnique.option _ _ _ _,
      List.forall_mem_nil _⟩
  · rintro ⟨⟩ ⟨⟩ same
    simpa [Volume.slots, Slot.of] using same

theorem Device.isUnique : (Meaning.record Device.slots).IsUnique := by
  apply Meaning.isUnique_record
  · simp only [Device.slots, List.forall_mem_cons]
    exact ⟨Slot.isUnique_of isUnique_string _ _ _ _,
      Slot.isUnique_of isUnique_string _ _ _ _,
      List.forall_mem_nil _⟩
  · rintro ⟨⟩ ⟨⟩ same
    simpa [Device.slots, Slot.of] using same

theorem Mount.isUnique : (Meaning.record Mount.slots).IsUnique := by
  apply Meaning.isUnique_record
  · simp only [Mount.slots, List.forall_mem_cons]
    exact ⟨Slot.isUnique_of isUnique_string _ _ _ _,
      Slot.isUnique_of isUnique_string _ _ _ _,
      List.forall_mem_nil _⟩
  · rintro ⟨⟩ ⟨⟩ same
    simpa [Mount.slots, Slot.of] using same

theorem PortMapping.isUnique : (Meaning.record PortMapping.slots).IsUnique := by
  apply Meaning.isUnique_record
  · simp only [PortMapping.slots, List.forall_mem_cons]
    exact ⟨Slot.isUnique_needed isUnique_word16 _ _,
      Slot.isUnique_of isUnique_word16.option _ _ _ _,
      Slot.isUnique_of isUnique_string.option _ _ _ _, List.forall_mem_nil _⟩
  · rintro ⟨⟩ ⟨⟩ same
    simpa [PortMapping.slots, Slot.of, Slot.needed] using same

/-- A number is no port mapping, which has a port. -/
theorem Port.isUnique : Port.meaning.IsUnique := by
  have apart {value : Value} {short : UInt16} {long : PortMapping}
      (number : Meaning.word16.Denotes value short)
      (mapping : (Meaning.record PortMapping.slots).Denotes value long) : False := by
    cases number
    exact mapping 0 _ rfl
  intro value port other denotes otherDenotes
  cases port with
  | number short =>
      cases other with
      | number otherShort => rw [isUnique_word16 denotes otherDenotes]
      | mapping otherLong => exact (apart denotes otherDenotes).elim
  | mapping long =>
      cases other with
      | number otherShort => exact (apart otherDenotes denotes).elim
      | mapping otherLong => rw [PortMapping.isUnique denotes otherDenotes]

theorem Container.isUnique : (Meaning.record Container.slots).IsUnique := by
  apply Meaning.isUnique_record
  · simp only [Container.slots, List.forall_mem_cons]
    exact ⟨Slot.isUnique_of isUnique_string _ _ _ _,
      Slot.isUnique_of isUnique_string _ _ _ _,
      Slot.isUnique_of isUnique_string.list _ _ _ _,
      Slot.isUnique_of isUnique_any.dictionary _ _ _ _,
      Slot.isUnique_of isUnique_boolean _ _ _ _,
      Slot.isUnique_of isUnique_boolean _ _ _ _,
      Slot.isUnique_of Device.isUnique.list _ _ _ _,
      Slot.isUnique_of Port.isUnique.list _ _ _ _,
      Slot.isUnique_of isUnique_string.list _ _ _ _,
      Slot.isUnique_of isUnique_string.list _ _ _ _,
      Slot.isUnique_of isUnique_string.list _ _ _ _,
      Slot.isUnique_of isUnique_string _ _ _ _,
      Slot.isUnique_of Mount.isUnique.list _ _ _ _,
      Slot.isUnique_of isUnique_string.list _ _ _ _,
      List.forall_mem_nil _⟩
  · rintro ⟨⟩ ⟨⟩ same
    simpa [Container.slots, Slot.of] using same

theorem Pipeline.isUnique : (Meaning.record Pipeline.slots).IsUnique := by
  apply Meaning.isUnique_record
  · simp only [Pipeline.slots, List.forall_mem_cons]
    exact ⟨Slot.isUnique_of isUnique_string _ _ _ _,
      Slot.isUnique_of isUnique_string _ _ _ _,
      Slot.isUnique_of Platform.isUnique _ _ _ _,
      Slot.isUnique_of Build.isUnique.option _ _ _ _,
      Slot.isUnique_of Volume.isUnique.list _ _ _ _,
      Slot.isUnique_of Container.isUnique.list _ _ _ _,
      Slot.isUnique_of Container.isUnique.list _ _ _ _,
      Slot.isUnique_of isUnique_string.list _ _ _ _,
      List.forall_mem_nil _⟩
  · rintro ⟨⟩ ⟨⟩ same
    simpa [Pipeline.slots, Slot.of] using same

theorem Secret.isUnique : (Meaning.record Secret.slots).IsUnique := by
  apply Meaning.isUnique_record
  · simp only [Secret.slots, List.forall_mem_cons]
    exact ⟨Slot.isUnique_of isUnique_string _ _ _ _,
      Slot.isUnique_of isUnique_string _ _ _ _,
      List.forall_mem_nil _⟩
  · rintro ⟨⟩ ⟨⟩ same
    simpa [Secret.slots, Slot.of] using same

theorem Signature.isUnique : (Meaning.record Signature.slots).IsUnique := by
  apply Meaning.isUnique_record
  · simp only [Signature.slots, List.forall_mem_cons]
    exact ⟨Slot.isUnique_of isUnique_string _ _ _ _,
      List.forall_mem_nil _⟩
  · rintro ⟨⟩ ⟨⟩ same
    simpa [Signature.slots, Slot.of] using same

/-! ## Faithful readers -/

theorem readValue_faithful : Faithful readValue .any := by
  apply faithful_literal
  intro value result
  exact Except.ok.injEq value result ▸ Iff.rfl

theorem Platform.described : Platform.record.Describes Platform.slots where
  reads := .cons (Field.reads_of readString_faithful _ fun _ _ => rfl) <|
    .cons (Field.reads_of readString_faithful _ fun _ _ => rfl) <|
    .cons (Field.reads_of readString_faithful _ fun _ _ => rfl) <|
    .cons (Field.reads_of readString_faithful _ fun _ _ => rfl) .nil
  distinct := by decide
  apart := by
    simp only [Platform.record, Platform.slots, List.zip_cons_cons, List.zip_nil_left,
      List.pairwise_cons, List.forall_mem_cons, List.not_mem_nil, false_implies, implies_true,
      List.Pairwise.nil, and_true]
    and_intros <;> exact Field.keeps_of fun _ _ => rfl
  initial := by
    simp only [Platform.slots, List.forall_mem_cons]
    exact ⟨rfl, rfl, rfl, rfl, List.forall_mem_nil _⟩

theorem Build.described : Build.record.Describes Build.slots where
  reads := .cons (Field.reads_of readString_faithful _ fun _ _ => rfl) <|
    .cons (Field.reads_of readString_faithful _ fun _ _ => rfl) <|
    .cons (Field.reads_of readString_faithful _ fun _ _ => rfl) <|
    .cons (Field.reads_of (readDictionary_faithful readString_faithful) _ fun _ _ => rfl) <|
    .cons (Field.reads_of (readDictionary_faithful readString_faithful) _ fun _ _ => rfl) <|
    .cons (Field.reads_of (readList_faithful readString_faithful) _ fun _ _ => rfl) .nil
  distinct := by decide
  apart := by
    simp only [Build.record, Build.slots, List.zip_cons_cons, List.zip_nil_left,
      List.pairwise_cons, List.forall_mem_cons, List.not_mem_nil, false_implies, implies_true,
      List.Pairwise.nil, and_true]
    and_intros <;> exact Field.keeps_of fun _ _ => rfl
  initial := by
    simp only [Build.slots, List.forall_mem_cons]
    exact ⟨rfl, rfl, rfl, rfl, rfl, rfl, List.forall_mem_nil _⟩

theorem HostPath.described : HostPath.record.Describes HostPath.slots where
  reads := .cons (Field.reads_of readString_faithful _ fun _ _ => rfl) .nil
  distinct := by decide
  apart := List.pairwise_singleton _ _
  initial := by
    simp only [HostPath.slots, List.forall_mem_cons]
    exact ⟨rfl, List.forall_mem_nil _⟩

theorem TemporaryDirectory.described :
    TemporaryDirectory.record.Describes TemporaryDirectory.slots where
  reads := .cons (Field.reads_of readString_faithful _ fun _ _ => rfl) <|
    .cons (Field.reads_of (readOption_faithful readWord64_faithful) _ fun _ _ => rfl) .nil
  distinct := by decide
  apart := List.pairwise_pair.mpr
    ⟨Field.keeps_of fun _ _ => rfl, Field.keeps_of fun _ _ => rfl⟩
  initial := by
    simp only [TemporaryDirectory.slots, List.forall_mem_cons]
    exact ⟨rfl, rfl, List.forall_mem_nil _⟩

theorem Volume.described : Volume.record.Describes Volume.slots where
  reads := .cons (Field.reads_of readString_faithful _ fun _ _ => rfl) <|
    .cons (Field.reads_of (readOption_faithful HostPath.described.read_faithful) _
      fun _ _ => rfl) <|
    .cons (Field.reads_of (readOption_faithful TemporaryDirectory.described.read_faithful) _
      fun _ _ => rfl) .nil
  distinct := by decide
  apart := by
    simp only [Volume.record, Volume.slots, List.zip_cons_cons, List.zip_nil_left,
      List.pairwise_cons, List.forall_mem_cons, List.not_mem_nil, false_implies, implies_true,
      List.Pairwise.nil, and_true]
    and_intros <;> exact Field.keeps_of fun _ _ => rfl
  initial := by
    simp only [Volume.slots, List.forall_mem_cons]
    exact ⟨rfl, rfl, rfl, List.forall_mem_nil _⟩

theorem Device.described : Device.record.Describes Device.slots where
  reads := .cons (Field.reads_of readString_faithful _ fun _ _ => rfl) <|
    .cons (Field.reads_of readString_faithful _ fun _ _ => rfl) .nil
  distinct := by decide
  apart := List.pairwise_pair.mpr
    ⟨Field.keeps_of fun _ _ => rfl, Field.keeps_of fun _ _ => rfl⟩
  initial := by
    simp only [Device.slots, List.forall_mem_cons]
    exact ⟨rfl, rfl, List.forall_mem_nil _⟩

theorem Mount.described : Mount.record.Describes Mount.slots where
  reads := .cons (Field.reads_of readString_faithful _ fun _ _ => rfl) <|
    .cons (Field.reads_of readString_faithful _ fun _ _ => rfl) .nil
  distinct := by decide
  apart := List.pairwise_pair.mpr
    ⟨Field.keeps_of fun _ _ => rfl, Field.keeps_of fun _ _ => rfl⟩
  initial := by
    simp only [Mount.slots, List.forall_mem_cons]
    exact ⟨rfl, rfl, List.forall_mem_nil _⟩

/-- The fields of a port mapping whose port may still be missing. -/
def PortMapping.Draft.slots : List (Slot PortMapping.Draft) :=
  [ .of "port" (.map some .word16) Draft.port none,
    .of "host" (.option .word16) Draft.host none,
    .of "protocol" (.option .string) Draft.protocol none ]

theorem PortMapping.described : PortMapping.record.Describes PortMapping.Draft.slots where
  reads :=
    .cons ⟨rfl, rfl, rfl, fun content => by
      apply Ends.map (readWord16_faithful content)
      rintro port ⟨denotes, fits⟩
      exact ⟨fun _ => ⟨port, rfl, denotes⟩, fits⟩⟩ <|
    .cons (Field.reads_of (readOption_faithful readWord16_faithful) _ fun _ _ => rfl) <|
    .cons (Field.reads_of (readOption_faithful readString_faithful) _ fun _ _ => rfl) .nil
  distinct := by decide
  apart := by
    simp only [PortMapping.record, PortMapping.Draft.slots, List.zip_cons_cons,
      List.zip_nil_left, List.pairwise_cons, List.forall_mem_cons, List.not_mem_nil,
      false_implies, implies_true, List.Pairwise.nil, and_true]
    and_intros <;> exact Field.keeps_of fun _ _ => rfl
  initial := by
    simp only [PortMapping.Draft.slots, List.forall_mem_cons]
    exact ⟨rfl, rfl, rfl, List.forall_mem_nil _⟩

/-- What is written for the port of a port mapping. -/
def PortMapping.portContents : Value → List Value :=
  (Slot.needed "port" .word16 PortMapping.port).contents 0

/-- A value is no port mapping if it is none with a port that may be missing, or the
port is missing. -/
theorem PortMapping.misfits_iff {value : Value} :
    (Meaning.record PortMapping.slots).Misfits value ↔
      (Meaning.record PortMapping.Draft.slots).Misfits value ∨ portContents value = [] := by
  have port : (Slot.needed "port" .word16 PortMapping.port).IsSpoilt (portContents value) ↔
      (Slot.of "port" (.map some .word16) Draft.port none).IsSpoilt (portContents value) ∨
        portContents value = [] := by
    match portContents value with
    | [] => simp [Slot.IsSpoilt, Slot.needed]
    | [content] => simp [Slot.IsSpoilt, Slot.needed, Slot.of, Meaning.map]
    | _ :: _ :: _ => simp [Slot.IsSpoilt]
  constructor
  · rintro (noRecord | ⟨_ | _ | _ | place, slot, declared, spoilt⟩)
    · exact .inl (.inl noRecord)
    · cases declared
      exact (port.mp spoilt).imp (fun spoilt => .inr ⟨0, _, rfl, spoilt⟩) id
    · cases declared
      exact .inl (.inr ⟨1, _, rfl, spoilt⟩)
    · cases declared
      exact .inl (.inr ⟨2, _, rfl, spoilt⟩)
    · cases declared
  · rintro ((noRecord | ⟨_ | _ | _ | place, slot, declared, spoilt⟩) | missing)
    · exact .inl noRecord
    · cases declared
      exact .inr ⟨0, _, rfl, port.mpr (.inl spoilt)⟩
    · cases declared
      exact .inr ⟨1, _, rfl, spoilt⟩
    · cases declared
      exact .inr ⟨2, _, rfl, spoilt⟩
    · cases declared
    · exact .inr ⟨0, _, rfl, port.mpr (.inr missing)⟩

/-- The port of a draft is the port that is written. -/
theorem PortMapping.Draft.isSet_port_iff {draft : Draft} {contents : List Value} :
    (Slot.of "port" (.map some .word16) Draft.port none).IsSet draft contents ↔
      (draft.port = none ∧ contents = []) ∨ ∃ port, draft.port = some port ∧
        (Slot.needed "port" .word16 PortMapping.port).IsSet
          ⟨port, draft.host, draft.protocol⟩ contents := by
  match contents with
  | [] => simp [Slot.IsSet, Slot.of, Slot.needed]
  | [content] => simp [Slot.IsSet, Slot.of, Slot.needed, Meaning.map]
  | _ :: _ :: _ => simp [Slot.IsSet]

theorem PortMapping.read_faithful : Faithful PortMapping.read (.record PortMapping.slots) := by
  intro value
  have agrees := PortMapping.described.read_faithful value
  rw [PortMapping.read]
  cases read : PortMapping.record.read value with
  | error error =>
      rw [read] at agrees
      exact misfits_iff.mpr (.inl agrees)
  | ok draft =>
      rw [read] at agrees
      rcases agrees with ⟨denotes, fits⟩
      rcases Draft.isSet_port_iff.mp (denotes 0 _ rfl) with
        ⟨missing, unwritten⟩ | ⟨port, found, set⟩
      · simp only [bind, Except.bind, missing]
        exact misfits_iff.mpr (.inr unwritten)
      · simp only [bind, Except.bind, found]
        constructor
        · rintro (_ | _ | _ | place) slot declared
          · cases declared
            exact set
          · cases declared
            exact denotes 1 _ rfl
          · cases declared
            exact denotes 2 _ rfl
          · cases declared
        · intro misfit
          rcases misfits_iff.mp misfit with draftMisfit | unwritten
          · exact fits draftMisfit
          · change Slot.IsSet _ _ (portContents value) at set
            rw [unwritten] at set
            exact set

/-- A port that is no number is a mapping, and one that is neither is refused. -/
theorem Port.read_faithful : Faithful Port.read Port.meaning := by
  intro value
  have short := readWord16_faithful value
  have long := PortMapping.read_faithful value
  rw [Port.read]
  cases shortRead : readWord16 value with
  | ok number =>
      rw [shortRead] at short
      exact ⟨short.1, fun misfit => short.2 misfit.1⟩
  | error error =>
      rw [shortRead] at short
      cases longRead : PortMapping.read value with
      | ok mapping =>
          rw [longRead] at long
          exact ⟨long.1, fun misfit => long.2 misfit.2⟩
      | error otherError =>
          rw [longRead] at long
          exact ⟨short, long⟩

theorem Container.described : Container.record.Describes Container.slots where
  reads := .cons (Field.reads_of readString_faithful _ fun _ _ => rfl) <|
    .cons (Field.reads_of readString_faithful _ fun _ _ => rfl) <|
    .cons (Field.reads_of (readList_faithful readString_faithful) _ fun _ _ => rfl) <|
    .cons (Field.reads_of (readDictionary_faithful readValue_faithful) _ fun _ _ => rfl) <|
    .cons (Field.reads_of readBool_faithful _ fun _ _ => rfl) <|
    .cons (Field.reads_of readBool_faithful _ fun _ _ => rfl) <|
    .cons (Field.reads_of (readList_faithful Device.described.read_faithful) _ fun _ _ => rfl) <|
    .cons (Field.reads_of (readList_faithful Port.read_faithful) _ fun _ _ => rfl) <|
    .cons (Field.reads_of (readList_faithful readString_faithful) _ fun _ _ => rfl) <|
    .cons (Field.reads_of (readList_faithful readString_faithful) _ fun _ _ => rfl) <|
    .cons (Field.reads_of (readList_faithful readString_faithful) _ fun _ _ => rfl) <|
    .cons (Field.reads_of readString_faithful _ fun _ _ => rfl) <|
    .cons (Field.reads_of (readList_faithful Mount.described.read_faithful) _ fun _ _ => rfl) <|
    .cons (Field.reads_of (readList_faithful readString_faithful) _ fun _ _ => rfl) .nil
  distinct := by decide
  apart := by
    simp only [Container.record, Container.slots, List.zip_cons_cons, List.zip_nil_left,
      List.pairwise_cons, List.forall_mem_cons, List.not_mem_nil, false_implies, implies_true,
      List.Pairwise.nil, and_true]
    and_intros <;> exact Field.keeps_of fun _ _ => rfl
  initial := by
    simp only [Container.slots, List.forall_mem_cons]
    exact ⟨rfl, rfl, rfl, rfl, rfl, rfl, rfl, rfl, rfl, rfl, rfl, rfl, rfl, rfl,
      List.forall_mem_nil _⟩

theorem Pipeline.described : Pipeline.record.Describes Pipeline.slots where
  reads := .cons (Field.reads_of readString_faithful _ fun _ _ => rfl) <|
    .cons (Field.reads_of readString_faithful _ fun _ _ => rfl) <|
    .cons (Field.reads_of Platform.described.read_faithful _ fun _ _ => rfl) <|
    .cons (Field.reads_of (readOption_faithful Build.described.read_faithful) _ fun _ _ => rfl) <|
    .cons (Field.reads_of (readList_faithful Volume.described.read_faithful) _ fun _ _ => rfl) <|
    .cons (Field.reads_of (readList_faithful Container.described.read_faithful) _ fun _ _ => rfl) <|
    .cons (Field.reads_of (readList_faithful Container.described.read_faithful) _ fun _ _ => rfl) <|
    .cons (Field.reads_of (readList_faithful readString_faithful) _ fun _ _ => rfl) .nil
  distinct := by decide
  apart := by
    simp only [Pipeline.record, Pipeline.slots, List.zip_cons_cons, List.zip_nil_left,
      List.pairwise_cons, List.forall_mem_cons, List.not_mem_nil, false_implies, implies_true,
      List.Pairwise.nil, and_true]
    and_intros <;> exact Field.keeps_of fun _ _ => rfl
  initial := by
    simp only [Pipeline.slots, List.forall_mem_cons]
    exact ⟨rfl, rfl, rfl, rfl, rfl, rfl, rfl, rfl, List.forall_mem_nil _⟩

theorem Secret.described : Secret.record.Describes Secret.slots where
  reads := .cons (Field.reads_of readString_faithful _ fun _ _ => rfl) <|
    .cons (Field.reads_of readString_faithful _ fun _ _ => rfl) .nil
  distinct := by decide
  apart := List.pairwise_pair.mpr
    ⟨Field.keeps_of fun _ _ => rfl, Field.keeps_of fun _ _ => rfl⟩
  initial := by
    simp only [Secret.slots, List.forall_mem_cons]
    exact ⟨rfl, rfl, List.forall_mem_nil _⟩

theorem Signature.described : Signature.record.Describes Signature.slots where
  reads := .cons (Field.reads_of readString_faithful _ fun _ _ => rfl) .nil
  distinct := by decide
  apart := List.pairwise_singleton _ _
  initial := by
    simp only [Signature.slots, List.forall_mem_cons]
    exact ⟨rfl, List.forall_mem_nil _⟩

/-! ## Documents with a kind -/

namespace Resource

/-- The fields of a resource of some kind. -/
def Kind.meaning : Kind → Meaning Resource
  | .pipeline => .map .pipeline (.record Pipeline.slots)
  | .secret => .map .secret (.record Secret.slots)
  | .signature => .map .signature (.record Signature.slots)

/-- A document declares a kind if exactly one entry is for its kind and has the word
for it. -/
def Declares (entries : Entries) (kind : Kind) : Prop :=
  ∃ word, kindValues entries = [.string word] ∧ (word, kind) ∈ Kind.words

/-- A document stands for a resource of the kind that it declares, and the other entries
are for the fields. -/
def meaning : Meaning Resource where
  Denotes
    | .mapping entries, resource => ∃ kind, Declares entries kind ∧
        kind.meaning.Denotes (.mapping (unkinded entries)) resource
    | _, _ => False
  Misfits
    | .mapping entries => (∀ kind, ¬ Declares entries kind) ∨ ∃ kind, Declares entries kind ∧
        kind.meaning.Misfits (.mapping (unkinded entries))
    | _ => True

theorem readFields_faithful (kind : Kind) : Faithful (readFields kind) kind.meaning := by
  have mapped {α : Type} {read : Reader α} {inner : Meaning α} (wrap : α → Resource)
      (faithful : Faithful read inner) :
      Faithful (fun fields => (read fields).map wrap) (inner.map wrap) := by
    intro value
    apply Ends.map (faithful value)
    rintro content ⟨denotes, fits⟩
    exact ⟨⟨content, rfl, denotes⟩, fits⟩
  cases kind with
  | pipeline => exact mapped .pipeline Pipeline.described.read_faithful
  | secret => exact mapped .secret Secret.described.read_faithful
  | signature => exact mapped .signature Signature.described.read_faithful

theorem Kind.lookup_words_eq_some_iff {word : String} {kind : Kind} :
    Kind.words.lookup word = some kind ↔ (word, kind) ∈ Kind.words := by
  simp only [Kind.words, Dictionary.lookup_cons_eq_ite, List.lookup_nil, List.mem_cons,
    List.not_mem_nil, Prod.mk.injEq, or_false]
  grind

theorem Kind.read_eq_ok_iff {value : Value} (tagless : value.hasTag = false) {kind : Kind} :
    Kind.read value = .ok kind ↔ ∃ word, value = .string word ∧ (word, kind) ∈ Kind.words := by
  cases value with
  | string word =>
      simp only [Kind.read, Value.untagged, Value.string.injEq, exists_eq_left',
        ← Kind.lookup_words_eq_some_iff]
      cases Kind.words.lookup word <;> simp
  | tagged _ _ => cases tagless
  | null | bool _ | number _ | sequence _ | mapping _ =>
      simp [Kind.read, Value.untagged, mismatch]

theorem Declares.unique {entries : Entries} {kind other : Kind} (declares : Declares entries kind)
    (otherDeclares : Declares entries other) : kind = other := by
  rcases declares with ⟨word, single, known⟩
  rcases otherDeclares with ⟨otherWord, otherSingle, otherKnown⟩
  rw [single, List.singleton_inj, Value.string.injEq] at otherSingle
  subst otherSingle
  rw [← Kind.lookup_words_eq_some_iff] at known otherKnown
  exact Option.some.inj (known.symm.trans otherKnown)

theorem isUnique_meaning : meaning.IsUnique := by
  have fields (kind : Kind) : kind.meaning.IsUnique := by
    cases kind with
    | pipeline => exact Pipeline.isUnique.map _
    | secret => exact Secret.isUnique.map _
    | signature => exact Signature.isUnique.map _
  intro value resource other denotes otherDenotes
  cases value with
  | mapping entries =>
      rcases denotes with ⟨kind, declares, denotes⟩
      rcases otherDenotes with ⟨otherKind, otherDeclares, otherDenotes⟩
      cases declares.unique otherDeclares
      exact fields kind denotes otherDenotes
  | null | bool _ | number _ | string _ | sequence _ | tagged _ _ => cases denotes

/-- In a plain document, exactly a declared kind is found. -/
theorem splitKind_eq_ok_iff_declares {entries others : Entries} {kind : Kind}
    (plain : (Value.mapping entries).Plain) :
    splitKind entries none = .ok (some kind, others) ↔
      Declares entries kind ∧ others = unkinded entries := by
  have tagless : (Value.mapping (unkinded entries)).hasTag = false :=
    (plain.sublist List.filter_sublist).tagless
  have kindTagless : ∀ value, kindValues entries = [value] → value.hasTag = false := by
    intro value single
    have member : value ∈ kindValues entries := by simp [single]
    rcases List.mem_map.mp member with ⟨entry, kept, rfl⟩
    exact (Value.plain_mapping_iff.mp plain entry (List.mem_filter.mp kept).1).2.2.tagless
  rw [splitKind_eq_ok_iff]
  constructor
  · rintro ⟨⟨value, single, read⟩, same, _⟩
    rcases (Kind.read_eq_ok_iff (kindTagless value single)).mp read with ⟨word, rfl, known⟩
    exact ⟨⟨word, single, known⟩, same⟩
  · rintro ⟨⟨word, single, known⟩, same⟩
    exact ⟨⟨_, single, (Kind.read_eq_ok_iff rfl).mpr ⟨word, rfl, known⟩⟩, same, tagless⟩

/-- A plain document is read as what it stands for. -/
theorem read_agrees {entries : Entries} (plain : (Value.mapping entries).Plain) :
    meaning.Agrees (.mapping entries) (read (.mapping entries)) := by
  have success_iff : ∀ resource, read (.mapping entries) = .ok resource ↔
      ∃ kind, Declares entries kind ∧
        readFields kind (.mapping (unkinded entries)) = .ok resource := by
    intro resource
    simp only [read_mapping_eq_ok_iff, splitKind_eq_ok_iff_declares plain]
    constructor
    · rintro ⟨kind, _, ⟨declares, rfl⟩, fields⟩
      exact ⟨kind, declares, fields⟩
    · rintro ⟨kind, declares, fields⟩
      exact ⟨kind, _, ⟨declares, rfl⟩, fields⟩
  cases outcome : read (.mapping entries) with
  | ok resource =>
      rcases (success_iff resource).mp outcome with ⟨kind, declares, fields⟩
      have agrees := readFields_faithful kind (.mapping (unkinded entries))
      rw [fields] at agrees
      constructor
      · exact ⟨kind, declares, agrees.1⟩
      · rintro (noKind | ⟨other, otherDeclares, misfit⟩)
        · exact noKind kind declares
        · rw [otherDeclares.unique declares] at misfit
          exact agrees.2 misfit
  | error error =>
      by_cases declared : ∃ kind, Declares entries kind
      · rcases declared with ⟨kind, declares⟩
        have agrees := readFields_faithful kind (.mapping (unkinded entries))
        cases fields : readFields kind (.mapping (unkinded entries)) with
        | ok resource =>
            rw [(success_iff resource).mpr ⟨kind, declares, fields⟩] at outcome
            cases outcome
        | error _ =>
            rw [fields] at agrees
            exact .inr ⟨kind, declares, agrees⟩
      · exact .inl (not_exists.mp declared)

end Resource

/-- Nothing in a plain document with a kind is dropped or taken for something else: the
resource that is read is the one that has exactly what is written in the document, and
there is none exactly if something in the document does not have its shape. -/
theorem Manifest.resourceOf_faithful (index : Nat) {entries : Entries}
    (plain : (Value.mapping entries).Plain) (hasKind : (Value.mapping entries).HasKind) :
    (∀ resource, resourceOf index (.mapping entries) = .ok (some resource) ↔
      Resource.meaning.Denotes (.mapping entries) resource ∧
        ¬ Resource.meaning.Misfits (.mapping entries)) ∧
    ((∃ error, resourceOf index (.mapping entries) = .error (.document index (.shape error))) ↔
      Resource.meaning.Misfits (.mapping entries)) ∧
    (¬ Resource.meaning.Misfits (.mapping entries) →
      ∃ resource, resourceOf index (.mapping entries) = .ok (some resource)) := by
  have agrees := Resource.read_agrees plain
  rw [resourceOf_of_hasKind index hasKind plain.merge_eq, outcomeOf]
  cases read : Resource.read (.mapping entries) with
  | ok resource =>
      rw [read] at agrees
      refine ⟨?_, ?_, fun _ => ⟨resource, rfl⟩⟩
      · intro other
        constructor
        · intro success
          cases success
          exact agrees
        · rintro ⟨denotes, _⟩
          rw [Resource.isUnique_meaning denotes agrees.1]
          rfl
      · constructor
        · rintro ⟨error, failure⟩
          cases failure
        · exact fun misfit => absurd misfit agrees.2
  | error error =>
      rw [read] at agrees
      refine ⟨?_, ⟨fun _ => agrees, fun _ => ⟨error, rfl⟩⟩, fun fits => absurd agrees fits⟩
      intro resource
      constructor
      · intro success
        cases success
      · exact fun fits => absurd agrees fits.2

/-- A pipeline whose name is under its position, with a step that mounts one volume
under second names and another one by position, and is privileged as it is given. -/
def mountingStep (privileged : Value) : Entries :=
  [(.string "kind", .string "pipeline"), (.nat 0, .string "build"),
    (.string "steps", .sequence [.mapping
      [(.string "privileged", privileged),
        (.string "volumes", .sequence
          [.mapping [(.string "mount_path", .string "/src"), (.nat 0, .string "source")],
            .sequence [.string "cache", .string "/cache"]])]])]

theorem Manifest.resourceOf_faithful_mountingStep :
    (∃ resource, resourceOf 0 (.mapping (mountingStep (.bool true))) = .ok (some resource) ∧
      Resource.meaning.Denotes (.mapping (mountingStep (.bool true))) resource) ∧
    Resource.meaning.Misfits (.mapping (mountingStep (.string "true"))) ∧
    ∃ error, resourceOf 0 (.mapping (mountingStep (.string "true"))) =
      .error (.document 0 (.shape error)) := by
  have plain {privileged : Value} (inside : privileged.Plain) :
      (Value.mapping (mountingStep privileged)).Plain := by
    simp [mountingStep, Value.plain_mapping_iff, Value.plain_sequence_iff, Value.plain_string,
      Value.hasTag, Value.nat, inside]
  have quoted : Meaning.boolean.Misfits (.string "true") := by
    intro result same
    cases same
  have misfit : Resource.meaning.Misfits (.mapping (mountingStep (.string "true"))) := by
    have step : (Meaning.record Container.slots).Misfits (.mapping
        [(.string "privileged", .string "true"),
          (.string "volumes", .sequence
            [.mapping [(.string "mount_path", .string "/src"), (.nat 0, .string "source")],
              .sequence [.string "cache", .string "/cache"]])]) :=
      .inr ⟨5, _, rfl, quoted⟩
    exact .inr ⟨.pipeline, ⟨"pipeline", rfl, by decide⟩,
      .inr ⟨6, _, rfl, _, List.mem_singleton_self _, step⟩⟩
  have accepted := resourceOf_faithful 0 (plain (Value.plain_bool true)) rfl
  have refused := resourceOf_faithful 0 (plain (Value.plain_string "true")) rfl
  exact ⟨⟨_, rfl, ((accepted.1 _).mp rfl).1⟩, misfit, refused.2.1.mpr misfit⟩

end ManifestLint
