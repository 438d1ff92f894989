import ClusterManifest.Inputs
import ClusterManifest.Manifest.File
import ClusterManifest.Proofs.Result
import ClusterManifest.Proofs.Schema.Field

/-! What every manifest has that was read or composed: networks without host bits, and tags with
distinct names. -/

namespace ClusterManifest

open Schema Checked

namespace Networking

/-- All networks of a layout are well formed. -/
structure WellFormed (layout : Networking) : Prop where
  machines : layout.machineCidr.WellFormed
  services : layout.serviceCidr.WellFormed
  pods : ∀ network ∈ layout.clusterNetworks, network.cidr.WellFormed

end Networking

namespace ClusterNetwork

theorem wellFormed_ofEntries {entries : List (Scalar × Value)} {network : ClusterNetwork}
    (accepted : ofEntries entries = .valid network) : network.cidr.WellFormed := by
  obtain ⟨build, length, first, -, rfl⟩ := part_eq_valid.mp accepted
  obtain ⟨mk, cidr, made, range, rfl⟩ := part_eq_valid.mp first
  cases made
  obtain ⟨v, read⟩ := required_valid range
  exact network_valid read

theorem wellFormed_ofValue {v : Value} {network : ClusterNetwork}
    (accepted : ofValue v = .valid network) : network.cidr.WellFormed := by
  obtain ⟨entries, -, read⟩ := bind_eq_valid.mp accepted
  exact wellFormed_ofEntries read

theorem wellFormed_ofDefaults {defaults : Defaults} {network : ClusterNetwork}
    (made : ofDefaults defaults = .ok network) : network.cidr.WellFormed := by
  unfold ofDefaults Checked.orReject at made
  split at made
  · next accepted =>
    cases made
    exact wellFormed_ofEntries accepted
  · cases made

end ClusterNetwork

namespace Networking

theorem wellFormed_ofDefaults {defaults : Defaults} {layout : Networking}
    (made : ofDefaults defaults = .ok layout) : layout.WellFormed := by
  obtain ⟨pods, given, rest⟩ := bind_ok.mp made
  have pod := ClusterNetwork.wellFormed_ofDefaults given
  dsimp only at rest
  unfold Checked.orReject at rest
  split at rest
  · next accepted =>
    cases rest
    obtain ⟨build, services, first, service, rfl⟩ := part_eq_valid.mp accepted
    obtain ⟨start, type, second, -, rfl⟩ := part_eq_valid.mp first
    obtain ⟨mk, machines, start, machine, rfl⟩ := part_eq_valid.mp second
    cases start
    refine ⟨network_valid (under_eq_valid.mp machine), network_valid (under_eq_valid.mp service),
      ?_⟩
    intro network among
    rw [List.mem_singleton] at among
    subst among
    exact pod
  · cases rest

theorem wellFormed_standardClusterNetworks {networks : List ClusterNetwork}
    (accepted : standardClusterNetworks = .valid networks) :
    ∀ network ∈ networks, network.cidr.WellFormed := by
  unfold standardClusterNetworks at accepted
  split at accepted
  · next made =>
    cases accepted
    intro network among
    rw [List.mem_singleton] at among
    subst among
    exact ClusterNetwork.wellFormed_ofDefaults made
  · cases accepted

theorem ofEntries_eq (entries : List (Scalar × Value)) : ofEntries entries =
    ((((Checked.valid Networking.mk).part
      (optionalChecked ["machineCIDR", "machine_cidr"] network Defaults.standard.machineCidr
        entries)).part
      (optionalChecked ["type"] text Defaults.standard.networkType entries)).part
      (optionalChecked ["serviceCIDR", "service_cidr"] network Defaults.standard.serviceCidr
        entries)).part
      (Manifest.orElse ["clusterNetworks", "cluster_networks"] (list ClusterNetwork.ofValue)
        standardClusterNetworks entries) := rfl

theorem wellFormed_ofEntries {entries : List (Scalar × Value)} {layout : Networking}
    (accepted : ofEntries entries = .valid layout) : layout.WellFormed := by
  obtain ⟨build, networks, first, pods, rfl⟩ := part_eq_valid.mp accepted
  obtain ⟨next, services, second, service, rfl⟩ := part_eq_valid.mp first
  obtain ⟨start, type, third, -, rfl⟩ := part_eq_valid.mp second
  obtain ⟨mk, machines, start, machine, rfl⟩ := part_eq_valid.mp third
  cases start
  obtain ⟨v, services⟩ := optionalChecked_valid service
  obtain ⟨w, machines⟩ := optionalChecked_valid machine
  refine ⟨network_valid machines, network_valid services, ?_⟩
  split at pods
  · intro network among
    obtain ⟨v, read⟩ := list_valid (under_eq_valid.mp pods) network among
    exact ClusterNetwork.wellFormed_ofValue read
  · exact wellFormed_standardClusterNetworks pods

theorem wellFormed_ofValue {v : Value} {layout : Networking}
    (accepted : ofValue v = .valid layout) : layout.WellFormed := by
  obtain ⟨entries, -, read⟩ := bind_eq_valid.mp accepted
  exact wellFormed_ofEntries read

theorem wellFormed_standard {layout : Networking} (accepted : standard = .valid layout) :
    layout.WellFormed := by
  unfold standard at accepted
  split at accepted
  · next made =>
    cases accepted
    exact wellFormed_ofDefaults made
  · cases accepted

end Networking

namespace Platform

/-- The tags of a platform, if it has any, have distinct names. -/
def WellFormed : Platform → Prop
  | .chosen (.aws fields) => (fields.userTags.map Prod.fst).Nodup
  | _ => True

theorem wellFormed_aws {entries : List (Scalar × Value)} {fields : Aws}
    (accepted : Aws.ofEntries entries = .valid fields) :
    (fields.userTags.map Prod.fst).Nodup := by
  obtain ⟨build, tags, first, tagged, rfl⟩ := part_eq_valid.mp accepted
  obtain ⟨next, region, second, -, rfl⟩ := part_eq_valid.mp first
  obtain ⟨mk, kind, start, -, rfl⟩ := part_eq_valid.mp second
  cases start
  rcases optional_valid tagged with rfl | ⟨v, read⟩
  · exact List.nodup_nil
  · exact textMapping_nodup read

theorem wellFormed_variant {kind : Kind} {entries : List (Scalar × Value)} {variant : Variant}
    (accepted : Variant.ofEntries kind entries = .valid variant) :
    (Platform.chosen variant).WellFormed := by
  cases kind with
  | aws =>
    obtain ⟨fields, read, rfl⟩ := map_eq_valid.mp accepted
    exact wellFormed_aws read
  | libvirt | openstack | none =>
    obtain ⟨fields, -, rfl⟩ := map_eq_valid.mp accepted
    trivial

theorem wellFormed_variantOfValue {kind : Kind} {v : Value} {variant : Variant}
    (accepted : Variant.ofValue kind v = .valid variant) :
    (Platform.chosen variant).WellFormed := by
  obtain ⟨entries, -, read⟩ := bind_eq_valid.mp accepted
  exact wellFormed_variant read

theorem wellFormed_payload {kind : Kind} {payload : Value} {variant : Variant}
    (accepted : Variant.ofPayload kind payload = .valid variant) :
    (Platform.chosen variant).WellFormed := by
  unfold Variant.ofPayload at accepted
  have checked := under_eq_valid.mp accepted
  split at checked
  · exact wellFormed_variant (under_eq_valid.mp checked)
  · cases checked

theorem wellFormed_ofEntries {entries : List (Scalar × Value)} {platform : Platform}
    (accepted : ofEntries entries = .valid platform) : platform.WellFormed := by
  unfold ofEntries at accepted
  dsimp only at accepted
  split at accepted
  · cases accepted
  · split at accepted
    · cases accepted
      trivial
    · cases accepted
      trivial
    · split at accepted
      · obtain ⟨variant, read, rfl⟩ := map_eq_valid.mp accepted
        exact wellFormed_payload read
      · cases accepted
        trivial
    · cases accepted
      trivial

theorem wellFormed_ofValue {v : Value} {platform : Platform}
    (accepted : ofValue v = .valid platform) : platform.WellFormed := by
  obtain ⟨entries, -, read⟩ := bind_eq_valid.mp accepted
  exact wellFormed_ofEntries read

end Platform

namespace Manifest

/-- A manifest as it can come from a document or from checked inputs. -/
structure WellFormed (m : Manifest) : Prop where
  networking : m.networking.WellFormed
  platform : ∀ platform, m.platform = some platform → platform.WellFormed

theorem orElse_valid {α : Type} {names : List String} {check : Value → Checked α}
    {fallback : Checked α} {entries : List (Scalar × Value)} {x : α}
    (accepted : orElse names check fallback entries = .valid x) :
    fallback = .valid x ∨ ∃ v, check v = .valid x := by
  unfold orElse at accepted
  split at accepted
  · exact .inr ⟨_, under_eq_valid.mp accepted⟩
  · exact .inl accepted

/-- The fields of a manifest as they are read from a mapping. -/
structure Reads (entries : List (Scalar × Value)) (m : Manifest) : Prop where
  apiVersion : optional ["apiVersion", "api_version"] text "" entries = .valid m.apiVersion
  metadata : optional ["metadata"] Metadata.ofValue ⟨""⟩ entries = .valid m.metadata
  baseDomain : optional ["baseDomain", "base_domain"] text "" entries = .valid m.baseDomain
  sshKey : optional ["sshKey", "ssh_key"] text "" entries = .valid m.sshKey
  networking : orElse ["networking"] Networking.ofValue Networking.standard entries =
    .valid m.networking
  machines : orElse ["machines"] (list MachinePool.ofValue) MachinePool.standard entries =
    .valid m.machines
  platform : optional ["platform"] (orNull Platform.ofValue) none entries = .valid m.platform
  pullSecret : optional ["pullSecret", "pull_secret"] text "" entries = .valid m.pullSecret

theorem reads_of_valid {entries : List (Scalar × Value)} {m : Manifest}
    (accepted : ofEntries entries = .valid m) : Reads entries m := by
  obtain ⟨b7, pullSecret, first, secret, rfl⟩ := part_eq_valid.mp accepted
  obtain ⟨b6, platform, second, chosen, rfl⟩ := part_eq_valid.mp first
  obtain ⟨b5, machines, third, pools, rfl⟩ := part_eq_valid.mp second
  obtain ⟨b4, networking, fourth, layout, rfl⟩ := part_eq_valid.mp third
  obtain ⟨b3, sshKey, fifth, key, rfl⟩ := part_eq_valid.mp fourth
  obtain ⟨b2, baseDomain, sixth, domain, rfl⟩ := part_eq_valid.mp fifth
  obtain ⟨b1, metadata, seventh, named, rfl⟩ := part_eq_valid.mp sixth
  obtain ⟨b0, apiVersion, start, version, rfl⟩ := part_eq_valid.mp seventh
  cases start
  exact ⟨version, named, domain, key, layout, pools, chosen, secret⟩

theorem wellFormed_ofEntries {entries : List (Scalar × Value)} {m : Manifest}
    (accepted : ofEntries entries = .valid m) : m.WellFormed := by
  have reads := reads_of_valid accepted
  constructor
  · rcases orElse_valid reads.networking with standard | ⟨v, read⟩
    · exact Networking.wellFormed_standard standard
    · exact Networking.wellFormed_ofValue read
  · intro given chosen
    rcases optional_valid reads.platform with none | ⟨v, read⟩
    · cases chosen.symm.trans none
    · unfold orNull at read
      split at read
      · cases chosen.symm.trans (Checked.valid.inj read).symm
      · obtain ⟨p, read, same⟩ := map_eq_valid.mp read
        cases chosen.symm.trans same.symm
        exact Platform.wellFormed_ofValue read

theorem wellFormed_read {data : Text.Bytes} {m : Manifest} (loaded : read data = .ok m) :
    m.WellFormed := by
  unfold read at loaded
  split at loaded
  · cases loaded
  · unfold ofDocumentValue at loaded
    split at loaded
    · cases loaded
    · split at loaded
      · next accepted =>
        cases loaded
        exact wellFormed_ofEntries accepted
      · cases loaded
    · cases loaded

/-- A composed manifest lacks nothing, and has the layout and pools of the defaults and the platform
that was given. -/
theorem compose_ok {inputs : Inputs} {defaults : Defaults} {m : Manifest}
    (composed : compose inputs defaults = .ok m) :
    m.violation? = none ∧ Networking.ofDefaults defaults = .ok m.networking ∧
      MachinePool.ofDefaults defaults = .ok m.machines ∧
      ∃ platform, inputs.platform = .given platform ∧ m.platform = some platform := by
  obtain ⟨sshKey, -, step1⟩ := bind_ok.mp composed
  obtain ⟨baseDomain, -, step2⟩ := bind_ok.mp step1
  obtain ⟨clusterName, -, step3⟩ := bind_ok.mp step2
  obtain ⟨pullSecret, -, step4⟩ := bind_ok.mp step3
  obtain ⟨platform, given, step5⟩ := bind_ok.mp step4
  obtain ⟨networking, layout, step6⟩ := bind_ok.mp step5
  obtain ⟨machines, pools, rest⟩ := bind_ok.mp step6
  dsimp only at rest
  split at rest
  · cases rest
  · next complete =>
    cases rest
    exact ⟨complete, mapError_ok.mp layout, mapError_ok.mp pools, platform,
      Input.require_eq_ok.mp given, rfl⟩

def standardLayout : Networking :=
  ⟨⟨.v4, 0x0A000000, 16, ""⟩, "OpenshiftSDN", ⟨.v4, 0xAC1E0000, 16, ""⟩,
    [⟨⟨.v4, 0x0A800000, 14, ""⟩, 9⟩]⟩

def standardPools : List MachinePool := [⟨"master", some 3⟩, ⟨"worker", some 3⟩]

theorem ofDefaults_standard : Networking.ofDefaults .standard = .ok standardLayout :=
  ok_of_toOption (by decide +kernel)

theorem pools_standard : MachinePool.ofDefaults .standard = .ok standardPools :=
  ok_of_toOption (by decide +kernel)

theorem pods_standard :
    Networking.standardClusterNetworks = .valid standardLayout.clusterNetworks := by
  have made : (ClusterNetwork.ofDefaults .standard).toOption =
      some ⟨⟨.v4, 0x0A800000, 14, ""⟩, 9⟩ := by decide +kernel
  rw [Networking.standardClusterNetworks, ok_of_toOption made]
  rfl

/-- What is composed from inputs that are all given, with the standard defaults. -/
def composed (key domain name secret : Phrase) (platform : Platform) : Manifest :=
  ⟨schemaVersion, ⟨name⟩, domain, key, standardLayout, standardPools, some platform, secret⟩

theorem compose_given {key domain name secret : Phrase} {platform : Platform}
    (complete : (composed key domain name secret platform).violation? = none) :
    compose ⟨.given key, .given domain, .given name, .given secret, .given platform⟩ .standard =
      .ok (composed key domain name secret platform) := by
  simp only [composed] at complete
  simp only [compose, Input.require, ofDefaults_standard, pools_standard, ok_mapError,
    Bind.bind, Except.bind, complete, composed]

theorem chosen_of_complete {m : Manifest} (complete : m.violation? = none) :
    ∃ variant, m.platform = some (.chosen variant) := by
  unfold violation? at complete
  split at complete
  · cases complete
  · split at complete
    · cases complete
    · split at complete
      · cases complete
      · split at complete
        · cases complete
        · cases complete
        · next variant same => exact ⟨variant, same⟩

end Manifest

end ClusterManifest
