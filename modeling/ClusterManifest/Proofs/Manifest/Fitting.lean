import ClusterManifest.Proofs.Manifest.Selection
import ClusterManifest.Proofs.Manifest.WellFormed

/-! What fits the schema of a manifest, record by record. -/

namespace ClusterManifest

open Schema Checked

namespace ClusterNetwork

def Fits : Value → Prop :=
  Mapping (fun entries => Required ["cidr"] (Passes network) entries ∧
    Required ["hostSubnetLength", "host_subnet_length"] (Passes count) entries)

theorem passes_ofValue : Passes ofValue = Fits := by
  funext v
  unfold Passes ofValue Fits
  simp [accepted_record, ofEntries, accepted_required]

end ClusterNetwork

namespace MachinePool

def Fits : Value → Prop :=
  Mapping (fun entries => Required ["name"] (Passes text) entries ∧
    Optional ["replicas"] (NullOr (Passes count)) entries)

theorem passes_ofValue : Passes ofValue = Fits := by
  funext v
  unfold Passes ofValue Fits
  simp [accepted_record, ofEntries, accepted_required, accepted_optional, passes_orNull]

theorem accepted_standard : standard.Accepted := by
  rw [standard, Manifest.pools_standard]
  exact accepted_valid _

end MachinePool

namespace Networking

def Fits : Value → Prop :=
  Mapping (fun entries => Optional ["machineCIDR", "machine_cidr"] (Passes network) entries ∧
    Optional ["type"] (Passes text) entries ∧
    Optional ["serviceCIDR", "service_cidr"] (Passes network) entries ∧
    Optional ["clusterNetworks", "cluster_networks"] (Each ClusterNetwork.Fits) entries)

theorem accepted_standardPods : standardClusterNetworks.Accepted := by
  rw [Manifest.pods_standard]
  exact accepted_valid _

theorem passes_ofValue : Passes ofValue = Fits := by
  have machines : Passes network Defaults.standard.machineCidr :=
    ⟨⟨.v4, 0x0A000000, 16, ""⟩, valid_of_value (by decide +kernel)⟩
  have services : Passes network Defaults.standard.serviceCidr :=
    ⟨⟨.v4, 0xAC1E0000, 16, ""⟩, valid_of_value (by decide +kernel)⟩
  have type : Passes text Defaults.standard.networkType := ⟨_, rfl⟩
  funext v
  unfold Passes ofValue Fits
  simp [accepted_record, ofEntries_eq, accepted_optionalChecked machines,
    accepted_optionalChecked services, accepted_optionalChecked type,
    accepted_orElse accepted_standardPods, passes_list, ClusterNetwork.passes_ofValue, and_assoc]

theorem accepted_standard : standard.Accepted := by
  rw [standard, Manifest.ofDefaults_standard]
  exact accepted_valid _

end Networking

namespace Platform

def LibvirtNetwork.Fits : Value → Prop :=
  Mapping (fun entries => Optional ["name"] (Passes text) entries ∧
    Optional ["if", "if_name"] (Passes text) entries ∧
    Optional ["ipRange", "ip_range"] (Passes text) entries)

theorem LibvirtNetwork.passes_ofValue :
    Passes LibvirtNetwork.ofValue = LibvirtNetwork.Fits := by
  funext v
  unfold Passes LibvirtNetwork.ofValue LibvirtNetwork.Fits
  simp [accepted_record, LibvirtNetwork.ofEntries, accepted_optional, and_assoc]

/-- What the fields of a variant must be. The kind is not among them. -/
def Variant.Fits : Kind → List (Scalar × Value) → Prop
  | .aws, entries =>
    Required ["region"] (Passes text) entries ∧ Optional ["userTags", "user_tags"] Texts entries
  | .libvirt, entries =>
    Optional ["URI", "uri"] (Passes text) entries ∧
      Optional ["network"] LibvirtNetwork.Fits entries
  | .openstack, entries =>
    Required ["region"] (Passes text) entries ∧ Optional ["cloud"] (Passes text) entries ∧
      Optional ["externalNetwork", "external_network"] (Passes text) entries ∧
      Optional ["baseImage", "base_image"] (Passes text) entries
  | .none, _ => True

variable {entries : List (Scalar × Value)} {kind : Kind}

theorem kindField_put : kindField kind
    (Value.put entries (.text "kind") (.scalar (.text kind.name))) = .valid kind := by
  have found : find? (Value.put entries (.text "kind") (.scalar (.text kind.name))) ["kind"] =
      some ("kind", .scalar (.text kind.name)) := by
    simp only [find?, Value.lookup_put_self]
  simp only [kindField, Schema.optional, found, if_true, under_valid]

theorem accepted_ofEntries :
    (Variant.ofEntries kind
      (Value.put entries (.text "kind") (.scalar (.text kind.name)))).Accepted ↔
      Variant.Fits kind entries := by
  cases kind with
  | aws =>
    simp [Variant.ofEntries, Aws.ofEntries, kindField_put, required_put, optional_put,
      accepted_required, accepted_optional, passes_textMapping, Variant.Fits]
  | libvirt =>
    simp [Variant.ofEntries, Libvirt.ofEntries, kindField_put, optional_put, accepted_optional,
      LibvirtNetwork.passes_ofValue, Variant.Fits]
  | openstack =>
    simp [Variant.ofEntries, OpenStack.ofEntries, kindField_put, required_put, optional_put,
      accepted_required, accepted_optional, Variant.Fits, and_assoc]
  | none => simp [Variant.ofEntries, kindField_put, Variant.Fits]

theorem passes_ofPayload : Passes (Variant.ofPayload kind) = Mapping (Variant.Fits kind) := by
  funext v
  unfold Passes Variant.ofPayload Mapping
  cases v <;> simp [accepted_ofEntries]

/-- A mapping that singles out a variant has the fields of that variant. -/
def Fits : Value → Prop :=
  Mapping (fun entries => ∀ (kind : Kind) payload,
    counting entries = [(.text kind.name, payload)] → Mapping (Variant.Fits kind) payload)

theorem kind_of_name {other : Kind} (same : kind.name = other.name) : kind = other := by
  revert same
  cases kind <;> cases other <;> decide

/-- A mapping is accepted as a platform when it fits, unless a key of it cannot be written. -/
theorem accepted_iff : (ofEntries entries).Accepted ↔ Fits (.map entries) ∧ Nameable entries := by
  by_cases nameable : Nameable entries
  · rcases ofEntries_cases nameable with ⟨problem, unsingled, read⟩ | ⟨kind, payload, single, read⟩
    · have fits : Fits (.map entries) := ⟨entries, rfl, fun kind payload single =>
        absurd single (unsingled.not_single kind payload)⟩
      simp [read, fits, nameable]
    · have payloadFits : (Variant.ofPayload kind payload).Accepted ↔
          Mapping (Variant.Fits kind) payload := iff_of_eq (congrFun passes_ofPayload payload)
      rw [read, accepted_map, payloadFits]
      constructor
      · intro fits
        refine ⟨⟨entries, rfl, fun other content same => ?_⟩, nameable⟩
        rw [single] at same
        simp only [List.cons.injEq, Prod.mk.injEq, Scalar.text.injEq, and_true] at same
        rw [← kind_of_name same.1, ← same.2]
        exact fits
      · rintro ⟨⟨_, same, fits⟩, -⟩
        cases same
        exact fits kind payload single
  · simp [not_accepted_unnameable nameable, nameable]

theorem passes_ofValue {v : Value} : Passes ofValue v ↔
    Fits v ∧ ∀ entries, v = .map entries → Nameable entries := by
  unfold Passes ofValue
  rw [accepted_record]
  constructor
  · rintro ⟨entries, rfl, accepted⟩
    obtain ⟨fits, nameable⟩ := accepted_iff.mp accepted
    refine ⟨fits, fun other same => ?_⟩
    cases same
    exact nameable
  · rintro ⟨⟨entries, rfl, fits⟩, nameable⟩
    exact ⟨entries, rfl, accepted_iff.mpr ⟨⟨entries, rfl, fits⟩, nameable entries rfl⟩⟩

end Platform

namespace Metadata

def Fits : Value → Prop := Mapping (Optional ["name"] (Passes text))

theorem passes_ofValue : Passes ofValue = Fits := by
  funext v
  unfold Passes ofValue Fits
  simp [accepted_record, ofEntries, accepted_optional]

end Metadata

namespace Manifest

/-- What the fields of a manifest must be. None of them has to be there. -/
structure Fits (entries : List (Scalar × Value)) : Prop where
  apiVersion : Optional ["apiVersion", "api_version"] (Passes text) entries
  metadata : Optional ["metadata"] Metadata.Fits entries
  baseDomain : Optional ["baseDomain", "base_domain"] (Passes text) entries
  sshKey : Optional ["sshKey", "ssh_key"] (Passes text) entries
  networking : Optional ["networking"] Networking.Fits entries
  machines : Optional ["machines"] (Each MachinePool.Fits) entries
  platform : Optional ["platform"] (NullOr Platform.Fits) entries
  pullSecret : Optional ["pullSecret", "pull_secret"] (Passes text) entries

/-- The keys of the platform can be written, if it is a mapping. -/
def Nameable (entries : List (Scalar × Value)) : Prop :=
  ∀ platform, Named entries ["platform"] (.map platform) → Platform.Nameable platform

variable {entries : List (Scalar × Value)}

theorem optional_platform :
    Optional ["platform"] (NullOr (Passes Platform.ofValue)) entries ↔
      Optional ["platform"] (NullOr Platform.Fits) entries ∧ Nameable entries := by
  constructor
  · intro passes
    refine ⟨fun v named => ?_, fun platform named => ?_⟩
    · exact (passes v named).imp_right (fun passed => (Platform.passes_ofValue.mp passed).1)
    · rcases passes _ named with null | passed
      · cases null
      · exact (Platform.passes_ofValue.mp passed).2 platform rfl
  · rintro ⟨fits, nameable⟩ v named
    refine (fits v named).imp_right (fun fits => Platform.passes_ofValue.mpr ⟨fits, ?_⟩)
    rintro platform rfl
    exact nameable platform named

/-- A mapping is accepted as a manifest when it fits, unless a key of its platform cannot be
written. -/
theorem accepted_iff : (ofEntries entries).Accepted ↔ Fits entries ∧ Nameable entries := by
  simp only [ofEntries, accepted_part, accepted_valid, true_and, accepted_optional,
    accepted_orElse Networking.accepted_standard, accepted_orElse MachinePool.accepted_standard,
    passes_list, passes_orNull, Metadata.passes_ofValue, Networking.passes_ofValue,
    MachinePool.passes_ofValue, optional_platform]
  constructor
  · rintro ⟨⟨⟨⟨⟨⟨⟨apiVersion, metadata⟩, baseDomain⟩, sshKey⟩, networking⟩, machines⟩,
      platform, nameable⟩, pullSecret⟩
    exact ⟨⟨apiVersion, metadata, baseDomain, sshKey, networking, machines, platform, pullSecret⟩,
      nameable⟩
  · rintro ⟨fits, nameable⟩
    exact ⟨⟨⟨⟨⟨⟨⟨fits.apiVersion, fits.metadata⟩, fits.baseDomain⟩, fits.sshKey⟩,
      fits.networking⟩, fits.machines⟩, fits.platform, nameable⟩, fits.pullSecret⟩

end Manifest

end ClusterManifest
