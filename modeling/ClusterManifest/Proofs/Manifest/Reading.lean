import ClusterManifest.Proofs.Manifest.Respelled
import ClusterManifest.Proofs.Manifest.Selection
import ClusterManifest.Proofs.Schema.Shortened

/-! What is written for a manifest is read as it, record by record, and so is what is left of it
when fields that hold their defaults are left out. -/

namespace ClusterManifest

open Document Schema Checked

namespace ClusterNetwork

theorem ofValue_toDocument {network : ClusterNetwork} (formed : network.cidr.WellFormed) :
    ofValue network.toDocument.toValue = .valid network := by
  rw [ofValue, toDocument, record_block _ (by simp)]
  simp only [Checked.bind, ofEntries, required, find?, lookup_written]
  simp [List.lookup_cons, network_text formed, count_number]

end ClusterNetwork

namespace MachinePool

theorem ofValue_fields (pool : MachinePool) :
    ofValue (block pool.fields).toValue = .valid pool := by
  obtain ⟨name, replicas⟩ := pool
  rw [ofValue, record_block _ (by cases replicas <;> simp [fields])]
  simp only [Checked.bind, ofEntries, required, Schema.optional, find?, lookup_written]
  cases replicas with
  | none => simp [fields, List.lookup_cons, text_text]
  | some n =>
    have counted : orNull count (Document.number n).toValue = .valid (some n) := by
      rw [orNull, count_number]
      rfl
    simp [fields, List.lookup_cons, text_text, counted]

end MachinePool

namespace Manifest

def standardPodsWritten : Document :=
  .list [.block [("cidr", .text "10.128.0.0/14"), ("hostSubnetLength", .number 9)]]

def standardLayoutWritten : Document :=
  .block [("machineCIDR", .text "10.0.0.0/16"), ("type", .text "OpenshiftSDN"),
    ("serviceCIDR", .text "172.30.0.0/16"), ("clusterNetworks", standardPodsWritten)]

def standardPoolsWritten : Document :=
  .list [.block [("name", .text "master"), ("replicas", .number 3)],
    .block [("name", .text "worker"), ("replicas", .number 3)]]

def standardBridgeWritten : Document :=
  .block [("name", .text "tectonic"), ("if", .text "tt0"), ("ipRange", .text "192.168.126.0/24")]

/-- The fields that need not be written, each with the names on the way to it and the default that
it holds then. -/
def standardFields : List (List String × Document) :=
  [(["sshKey"], .text ""),
    (["networking"], standardLayoutWritten),
    (["networking", "machineCIDR"], .text "10.0.0.0/16"),
    (["networking", "type"], .text "OpenshiftSDN"),
    (["networking", "serviceCIDR"], .text "172.30.0.0/16"),
    (["networking", "clusterNetworks"], standardPodsWritten),
    (["machines"], standardPoolsWritten),
    (["platform", "aws", "userTags"], .block []),
    (["platform", "libvirt", "URI"], .text "qemu+tcp://192.168.122.1/system"),
    (["platform", "libvirt", "network"], standardBridgeWritten),
    (["platform", "libvirt", "network", "name"], .text "tectonic"),
    (["platform", "libvirt", "network", "if"], .text "tt0"),
    (["platform", "libvirt", "network", "ipRange"], .text "192.168.126.0/24"),
    (["platform", "openstack", "cloud"], .text ""),
    (["platform", "openstack", "externalNetwork"], .text ""),
    (["platform", "openstack", "baseImage"], .text "")]

/-- A field need not be written where it is and with what it holds. -/
def Standard (place : List String) (d : Document) : Prop := (place, d) ∈ standardFields

theorem standardPods_toDocument :
    standardPodsWritten = .list (standardLayout.clusterNetworks.map ClusterNetwork.toDocument) := by
  have pods : String.ofList (Cidr.text ⟨.v4, 0x0A800000, 14, ""⟩) = "10.128.0.0/14" := by
    decide +kernel
  simp [standardPodsWritten, standardLayout, ClusterNetwork.toDocument, pods]

theorem standardLayout_toDocument : standardLayoutWritten = standardLayout.toDocument := by
  have machines : String.ofList (Cidr.text ⟨.v4, 0x0A000000, 16, ""⟩) = "10.0.0.0/16" := by
    decide +kernel
  have services : String.ofList (Cidr.text ⟨.v4, 0xAC1E0000, 16, ""⟩) = "172.30.0.0/16" := by
    decide +kernel
  rw [standardLayoutWritten, standardPods_toDocument]
  simp [standardLayout, Networking.toDocument, machines, services]

theorem standardLayout_wellFormed : standardLayout.WellFormed :=
  Networking.wellFormed_ofDefaults ofDefaults_standard

theorem standardPools_written :
    standardPoolsWritten = .list (standardPools.map (fun pool => .block pool.fields)) := rfl

end Manifest

namespace Networking

open Manifest (Standard standardFields standardLayout)

theorem pods_written {layout : Networking} (formed : layout.WellFormed) :
    list ClusterNetwork.ofValue
      (Document.list (layout.clusterNetworks.map ClusterNetwork.toDocument)).toValue =
        .valid layout.clusterNetworks :=
  list_list (fun network among => ClusterNetwork.ofValue_toDocument (formed.pods network among))

theorem pods_filled {layout : Networking} (formed : layout.WellFormed)
    (allowed : Standard ["networking", "clusterNetworks"]
      (.list (layout.clusterNetworks.map ClusterNetwork.toDocument))) :
    standardClusterNetworks = .valid layout.clusterNetworks := by
  have same : Document.list (layout.clusterNetworks.map ClusterNetwork.toDocument) =
      Manifest.standardPodsWritten := by simpa [Standard, standardFields] using allowed
  have standard := pods_written Manifest.standardLayout_wellFormed
  rw [Manifest.pods_standard,
    eq_of_written (pods_written formed) standard (same.trans Manifest.standardPods_toDocument)]

/-- A layout is read as it was written, with a default for each field that was left out. -/
theorem ofValue_shortened {layout : Networking} (formed : layout.WellFormed) {e : Document}
    (short : Shortens Standard ["networking"] layout.toDocument e) :
    ofValue e.toValue = .valid layout := by
  obtain ⟨left, record, fields⟩ := record_shortened "Networking" (by simp) short
  rw [ofValue, record]
  simp only [Checked.bind, ofEntries_eq]
  rw [optionalChecked_found (finds_of_shortened fields (by simp) (by simp) (by simp))
      (network_kept formed.machines)
      (by simp +contextual [Standard, standardFields, toValue, Defaults.standard, Defaults.text]),
    optionalChecked_found (finds_of_shortened fields (by simp) (by simp) (by simp))
      (text_kept layout.type)
      (by simp +contextual [Standard, standardFields, toValue, Defaults.standard, Defaults.text]),
    optionalChecked_found (finds_of_shortened fields (by simp) (by simp) (by simp))
      (network_kept formed.services)
      (by simp +contextual [Standard, standardFields, toValue, Defaults.standard, Defaults.text]),
    orElse_found (finds_of_shortened fields (by simp) (by simp) (by simp))
      (list_kept (pods_written formed)) (pods_filled formed)]
  rfl

end Networking

namespace Platform

open Manifest (Standard standardFields)

theorem LibvirtNetwork.ofValue_shortened (network : LibvirtNetwork) (e : Document)
    (short : Shortens Standard ["platform", "libvirt", "network"] network.toDocument e) :
    LibvirtNetwork.ofValue e.toValue = .valid network := by
  obtain ⟨left, record, fields⟩ := record_shortened "LibvirtNetwork" (by simp) short
  rw [LibvirtNetwork.ofValue, record]
  simp only [Checked.bind, LibvirtNetwork.ofEntries]
  rw [optional_text network.name fields (by simp) (by simp) (by simp)
      (by simp +contextual [Standard, standardFields, LibvirtNetwork.standard]),
    optional_text network.interface fields (by simp) (by simp) (by simp)
      (by simp +contextual [Standard, standardFields, LibvirtNetwork.standard]),
    optional_text network.ipRange fields (by simp) (by simp) (by simp)
      (by simp +contextual [Standard, standardFields, LibvirtNetwork.standard])]
  rfl

theorem bridge_filled {network : LibvirtNetwork}
    (allowed : Standard ["platform", "libvirt", "network"] network.toDocument) :
    LibvirtNetwork.standard = network := by
  have same : network.toDocument = Manifest.standardBridgeWritten := by
    simpa [Standard, standardFields] using allowed
  have standard := LibvirtNetwork.ofValue_shortened LibvirtNetwork.standard _ .same
  exact (eq_of_written (LibvirtNetwork.ofValue_shortened network _ .same) standard same).symm

theorem kindField_found {rule : List String → Document → Prop} {place : List String} {kind : Kind}
    {fields left : List (String × Document)} (short : ShortensFields rule place fields left)
    (distinct : (fields.map Prod.fst).Nodup) (among : ("kind", .text kind.name) ∈ fields) :
    kindField kind (Value.settingsOf (fieldsToValues left)) = .valid kind := by
  refine optional_found (finds_of_shortened short distinct among (by simp)) ?_ (fun _ => rfl)
  intro e named
  rw [named.of_text]
  exact if_pos rfl

/-- The fields of a variant are read together with its kind, which stands behind them. -/
theorem ofPayload_shortened {rule : List String → Document → Prop} {place : List String}
    {kind : Kind} {fields : List (String × Document)} {variant : Variant} {e : Document}
    (short : Shortens rule place (.block fields) e) (distinct : (fields.map Prod.fst).Nodup)
    (new : "kind" ∉ fields.map Prod.fst)
    (accepted : ∀ left, ShortensFields rule place (fields ++ [("kind", .text kind.name)]) left →
      Variant.ofEntries kind (Value.settingsOf (fieldsToValues left)) = .valid variant) :
    Variant.ofPayload kind e.toValue = .valid variant := by
  obtain ⟨left, rfl, fewer⟩ := short.of_block
  have names : (fieldsToValues left).map Prod.fst = left.map Prod.fst := by
    simp [fieldsToValues]
  have absent : "kind" ∉ (fieldsToValues left).map Prod.fst := by
    rw [names]
    exact fun among => new (fewer.names.subset among)
  have put := Value.put_new (Document.text kind.name).toValue absent
  have appended : fieldsToValues left ++ [("kind", (Document.text kind.name).toValue)] =
      fieldsToValues (left ++ [("kind", .text kind.name)]) := by
    simp [fieldsToValues]
  rw [appended] at put
  rw [toValue_block (fewer.names.nodup distinct)]
  change ((Variant.ofEntries kind (Value.put _ (.text "kind")
    (Document.text kind.name).toValue)).under _).under _ = _
  rw [put, accepted _ fewer.concat]
  rfl

theorem tags_kept (tags : List (Phrase × Phrase)) (e : Document)
    (short : Shortens Standard ["platform", "aws", "userTags"]
      (.block (tagFields (spelled tags))) e) : textMapping e.toValue = .valid (respell tags) := by
  obtain ⟨left, rfl, fields⟩ := short.of_block
  rw [fields.of_tags (by simp [Standard, standardFields])]
  exact textMapping_tagFields (nodup_putNames _)

theorem tags_filled {tags : List (Phrase × Phrase)}
    (allowed : Standard ["platform", "aws", "userTags"] (.block (tagFields (spelled tags)))) :
    [] = respell tags := by
  have none : tagFields (spelled tags) = [] := by simpa [Standard, standardFields] using allowed
  rw [respell, List.map_eq_nil_iff.mp none]
  rfl

theorem ofPayload_aws {fields : Aws} {e : Document}
    (short : Shortens Standard ["platform", "aws"] (Variant.aws fields).toDocument e) :
    Variant.ofPayload .aws e.toValue = .valid (Variant.aws fields).respelled := by
  refine ofPayload_shortened short (by simp) (by simp) (fun left fewer => ?_)
  simp only [Kind.name, Variant.ofEntries, Aws.ofEntries] at fewer ⊢
  have tags : Finds Standard ["platform", "aws", "userTags"]
      (.block (tagFields (spelled fields.userTags))) ["userTags", "user_tags"]
      (Value.settingsOf (fieldsToValues left)) :=
    finds_of_shortened fewer (by simp) (by simp [tagFields]) (by simp)
  rw [kindField_found fewer (by simp) (by simp [Kind.name]),
    required_text fields.region fewer (by simp) (by simp) (by simp)
      (by simp [Standard, standardFields]),
    optional_found tags (tags_kept fields.userTags) tags_filled]
  rfl

theorem ofPayload_libvirt {fields : Libvirt} {e : Document}
    (short : Shortens Standard ["platform", "libvirt"] (Variant.libvirt fields).toDocument e) :
    Variant.ofPayload .libvirt e.toValue = .valid (.libvirt fields) := by
  refine ofPayload_shortened short (by simp) (by simp) (fun left fewer => ?_)
  simp only [Kind.name, Variant.ofEntries, Libvirt.ofEntries] at fewer ⊢
  rw [kindField_found fewer (by simp) (by simp [Kind.name]),
    optional_text fields.uri fewer (by simp) (by simp) (by simp)
      (by simp +contextual [Standard, standardFields, Libvirt.standardUri]),
    optional_found (finds_of_shortened fewer (by simp) (by simp) (by simp))
      (LibvirtNetwork.ofValue_shortened fields.network) bridge_filled]
  rfl

theorem ofPayload_openstack {fields : OpenStack} {e : Document}
    (short : Shortens Standard ["platform", "openstack"] (Variant.openstack fields).toDocument e) :
    Variant.ofPayload .openstack e.toValue = .valid (.openstack fields) := by
  refine ofPayload_shortened short (by simp) (by simp) (fun left fewer => ?_)
  simp only [Kind.name, Variant.ofEntries, OpenStack.ofEntries] at fewer ⊢
  rw [kindField_found fewer (by simp) (by simp [Kind.name]),
    required_text fields.region fewer (by simp) (by simp) (by simp)
      (by simp [Standard, standardFields]),
    optional_text fields.cloud fewer (by simp) (by simp) (by simp)
      (by simp +contextual [Standard, standardFields]),
    optional_text fields.externalNetwork fewer (by simp) (by simp) (by simp)
      (by simp +contextual [Standard, standardFields]),
    optional_text fields.baseImage fewer (by simp) (by simp) (by simp)
      (by simp +contextual [Standard, standardFields])]
  rfl

theorem ofPayload_none {e : Document}
    (short : Shortens Standard ["platform", "none"] Variant.none.toDocument e) :
    Variant.ofPayload .none e.toValue = .valid .none := by
  refine ofPayload_shortened short (by simp) (by simp) (fun left fewer => ?_)
  simp only [Kind.name, Variant.ofEntries] at fewer ⊢
  rw [kindField_found fewer (by simp) (by simp [Kind.name])]
  rfl

/-- The fields of a variant are read as they were written, with a default for each one that was left
out. -/
theorem ofPayload_variant (variant : Variant) (e : Document)
    (short : Shortens Standard ["platform", variant.kind.name] variant.toDocument e) :
    Variant.ofPayload variant.kind e.toValue = .valid variant.respelled := by
  cases variant with
  | aws fields => exact ofPayload_aws short
  | libvirt fields => exact ofPayload_libvirt short
  | openstack fields => exact ofPayload_openstack short
  | none => exact ofPayload_none short

theorem isNull_of_payload {kind : Kind} {v : Value} {variant : Variant}
    (accepted : Variant.ofPayload kind v = .valid variant) : v.isNull = false := by
  unfold Variant.ofPayload at accepted
  have checked := under_eq_valid.mp accepted
  split at checked
  · rfl
  · cases checked

/-- A platform is read as it was written, with its variant's name and fields. -/
theorem ofValue_chosen {variant : Variant} (e : Document)
    (short : Shortens Standard ["platform"] (toDocument (.chosen variant)) e) :
    ofValue e.toValue = .valid (.chosen variant.respelled) := by
  have named : ¬Standard ["platform", variant.kind.name] variant.toDocument := by
    cases variant <;> simp [Standard, standardFields, Variant.kind, Kind.name]
  have payload := ofPayload_variant variant
  obtain ⟨left, rfl, fields⟩ := short.of_block
  cases fields with
  | leaveOut allowed _ => exact absurd allowed named
  | @keep _ _ _ content _ _ kept rest =>
    cases rest
    have set := isNull_of_payload (payload content kept)
    rw [ofValue, record_block _ (by simp)]
    simp only [Checked.bind, fieldsToValues, Value.settingsOf, List.map_cons, List.map_nil]
    rw [ofEntries_single variant.kind set, payload content kept]
    rfl

end Platform

namespace Metadata

theorem ofValue_shortened (metadata : Metadata) (e : Document)
    (short : Shortens Manifest.Standard ["metadata"] metadata.toDocument e) :
    ofValue e.toValue = .valid metadata := by
  obtain ⟨left, record, fields⟩ := record_shortened "ClusterMetadata" (by simp) short
  rw [ofValue, record]
  simp only [Checked.bind, ofEntries]
  rw [optional_text metadata.name fields (by simp) (by simp) (by simp)
    (by simp [Manifest.Standard, Manifest.standardFields])]
  rfl

end Metadata

namespace Manifest

/-- There is no platform, or one with a variant. -/
def Resolved (m : Manifest) : Prop :=
  m.platform = none ∨ ∃ variant, m.platform = some (.chosen variant)

theorem pools_written (pools : List MachinePool) :
    list MachinePool.ofValue (Document.list (pools.map (fun pool => .block pool.fields))).toValue =
      .valid pools :=
  list_list (fun pool _ => MachinePool.ofValue_fields pool)

theorem layout_filled {layout : Networking} (formed : layout.WellFormed)
    (allowed : Standard ["networking"] layout.toDocument) :
    Networking.standard = .valid layout := by
  have same : layout.toDocument = standardLayoutWritten := by
    simpa [Standard, standardFields] using allowed
  have read := Networking.ofValue_shortened standardLayout_wellFormed .same
  rw [Networking.standard, ofDefaults_standard,
    eq_of_written (Networking.ofValue_shortened formed .same) read
      (same.trans standardLayout_toDocument)]

theorem pools_filled {pools : List MachinePool}
    (allowed : Standard ["machines"] (.list (pools.map (fun pool => .block pool.fields)))) :
    MachinePool.standard = .valid pools := by
  have same : Document.list (pools.map (fun pool => .block pool.fields)) =
      standardPoolsWritten := by simpa [Standard, standardFields] using allowed
  rw [MachinePool.standard, pools_standard,
    eq_of_written (pools_written pools) (pools_written standardPools)
      (same.trans standardPools_written)]

theorem writtenFields_nodup (m : Manifest) : (m.writtenFields.map Prod.fst).Nodup := by
  cases chosen : m.platform <;> simp [writtenFields, chosen]

/-- A field is written under one of its names only, so the other one is not found in its place. -/
theorem other_not_written (m : Manifest) {name : String}
    (among : name ∈ ["api_version", "base_domain", "ssh_key", "pull_secret"]) :
    ∀ other ∈ [name], other ∉ m.writtenFields.map Prod.fst := by
  rw [List.forall_mem_singleton]
  revert name
  cases chosen : m.platform <;> simp [writtenFields, chosen]

/-- The platform is read from its field, and there is none where the field is not written. -/
theorem platform_found {m : Manifest} (resolved : m.Resolved)
    {left : List (String × Document)} (fields : ShortensFields Standard [] m.writtenFields left) :
    Schema.optional ["platform"] (orNull Platform.ofValue) none
      (Value.settingsOf (fieldsToValues left)) = .valid (m.platform.map Platform.respelled) := by
  rcases resolved with none | ⟨variant, chosen⟩
  · rw [optional_absent fields (by simp [writtenFields, none]), none]
    rfl
  · have among : ("platform", Platform.toDocument (.chosen variant)) ∈ m.writtenFields := by
      simp [writtenFields, chosen]
    rw [chosen]
    refine optional_found (finds_of_shortened fields m.writtenFields_nodup among (by simp)) ?_
      (by simp [Standard, standardFields, Platform.toDocument])
    intro e short
    have read := Platform.ofValue_chosen e short
    obtain ⟨left, rfl, _⟩ := short.of_block
    exact congrArg (Checked.map some) read

/-- A manifest is read as it was written, with a default for each field that was left out. -/
theorem ofValue_shortened {m : Manifest} (formed : m.WellFormed) (resolved : m.Resolved)
    {e : Document} (short : Shortens Standard [] m.toDocument e) :
    ofValue e.toValue = .valid m.respelled := by
  have distinct := m.writtenFields_nodup
  have others {name : String} := @other_not_written m name
  rw [toDocument_written] at short
  obtain ⟨left, record, fields⟩ := record_shortened "InstallConfig" distinct short
  rw [ofValue, record]
  simp only [Checked.bind, ofEntries]
  rw [optional_text m.apiVersion fields distinct (by simp [writtenFields]) (others (by simp))
      (by simp [Standard, standardFields]),
    optional_found (finds_of_shortened fields distinct (by simp [writtenFields]) (by simp))
      (Metadata.ofValue_shortened m.metadata) (by simp [Standard, standardFields]),
    optional_text m.baseDomain fields distinct (by simp [writtenFields]) (others (by simp))
      (by simp [Standard, standardFields]),
    optional_text m.sshKey fields distinct (by simp [writtenFields]) (others (by simp))
      (by simp +contextual [Standard, standardFields]),
    orElse_found (finds_of_shortened fields distinct (by simp [writtenFields]) (by simp))
      (fun _ => Networking.ofValue_shortened formed.networking) (layout_filled formed.networking),
    orElse_found (finds_of_shortened fields distinct (by simp [writtenFields]) (by simp))
      (list_kept (pools_written m.machines)) pools_filled,
    platform_found resolved fields,
    optional_text m.pullSecret fields distinct (by simp [writtenFields]) (others (by simp))
      (by simp [Standard, standardFields])]
  rfl

/-- A manifest with a variant of platform is read as what is written for it. -/
theorem ofDocumentValue_fields {m : Manifest} {variant : Platform.Variant}
    (formed : m.WellFormed) (chosen : m.platform = some (.chosen variant)) :
    ofDocumentValue (block (m.fields variant)).toValue = .ok m.respelled := by
  have read := ofValue_shortened formed (.inr ⟨variant, chosen⟩) .same
  rw [toDocument_fields chosen] at read
  rw [toValue_block (by simp [fields])] at read ⊢
  have entries : ofEntries (Value.settingsOf (fieldsToValues (m.fields variant))) =
      .valid m.respelled := read
  rw [ofDocumentValue, entries]

end Manifest

end ClusterManifest
