import ManifestLint.Resource.Basic

/-!
# Privileges

A privilege is a capability of the host that only trusted repositories may use.
Volumes and containers each have a table that tells which of their settings use
which privilege.
-/

namespace ManifestLint

/-- A capability of the host. -/
inductive Privilege where
  | hostVolume
  | memoryVolume
  | hostPort
  | devices
  | privileged
  | dns
  | dnsSearch
  | extraHosts
  | networkMode
deriving DecidableEq, Repr

namespace Privilege

/-- All privileges, those of volumes first, in the order in which they are
checked. -/
def all : List Privilege :=
  [.hostVolume, .memoryVolume, .hostPort, .devices, .privileged, .dns, .dnsSearch, .extraHosts,
    .networkMode]

/-- Every privilege is listed. -/
theorem mem_all (privilege : Privilege) : privilege ∈ all := by
  cases privilege <;> decide

/-- The identifier of the rule that guards the privilege. -/
def ruleId : Privilege → String
  | .hostVolume => "trust/host-volume"
  | .memoryVolume => "trust/memory-volume"
  | .hostPort => "trust/host-port"
  | .devices => "trust/devices"
  | .privileged => "trust/privileged"
  | .dns => "trust/dns"
  | .dnsSearch => "trust/dns-search"
  | .extraHosts => "trust/extra-hosts"
  | .networkMode => "trust/network-mode"

/-- What an untrusted repository cannot do. -/
def action : Privilege → String
  | .hostVolume => "mount host volumes"
  | .memoryVolume => "mount in-memory volumes"
  | .hostPort => "map to a host port"
  | .devices => "mount devices"
  | .privileged => "enable privileged mode"
  | .dns => "configure dns"
  | .dnsSearch => "configure dns_search"
  | .extraHosts => "configure extra_hosts"
  | .networkMode => "configure network_mode"

end Privilege

/-- A privilege together with the settings that use it. -/
structure PrivilegeUse (α : Type u) where
  privilege : Privilege
  uses : α → Bool

/-- The privileges that volumes use. -/
def Volume.privilegeUses : List (PrivilegeUse Volume) :=
  [⟨.hostVolume, Volume.isHostPath⟩, ⟨.memoryVolume, Volume.isInMemory⟩]

/-- The privileges that containers use. -/
def Container.privilegeUses : List (PrivilegeUse Container) :=
  [ ⟨.hostPort, fun container => container.ports.any (·.host.isSome)⟩,
    ⟨.devices, fun container => !container.devices.isEmpty⟩,
    ⟨.privileged, fun container => container.privileged⟩,
    ⟨.dns, fun container => !container.dns.isEmpty⟩,
    ⟨.dnsSearch, fun container => !container.dnsSearch.isEmpty⟩,
    ⟨.extraHosts, fun container => !container.extraHosts.isEmpty⟩,
    ⟨.networkMode, fun container => !container.networkMode.isEmpty⟩ ]

end ManifestLint
