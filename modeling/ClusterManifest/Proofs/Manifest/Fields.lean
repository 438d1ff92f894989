import ClusterManifest.Proofs.Manifest.WellFormed
import ClusterManifest.Proofs.Schema.Written

/-! The fields that a manifest is written in, and when they can be written and read: numbers must
have few enough digits, and names of tags must not be too long. -/

namespace ClusterManifest

open Document

namespace MachinePool

def fields (pool : MachinePool) : List (String × Document) :=
  ("name", .text pool.name) ::
    (match pool.replicas with
    | some n => [("replicas", .number n)]
    | none => [])

theorem toDocument_withoutNulls (pool : MachinePool) :
    pool.toDocument.withoutNulls = .block pool.fields := by
  obtain ⟨name, replicas⟩ := pool
  cases replicas <;> rfl

end MachinePool

namespace Document

@[simp] theorem isNull_text (phrase : Phrase) : (text phrase).isNull = false := rfl

@[simp] theorem isNull_list (items : List Document) : (list items).isNull = false := rfl

@[simp] theorem isNull_block (fields : List (String × Document)) : (block fields).isNull = false :=
  rfl

theorem itemsWithoutNulls_map {α : Type} (write : α → Document) (xs : List α) :
    itemsWithoutNulls (xs.map write) = xs.map (fun x => (write x).withoutNulls) := by
  induction xs with
  | nil => rfl
  | cons x xs ih => rw [List.map_cons, itemsWithoutNulls, ih, List.map_cons]

theorem fieldsWithoutNulls_tagFields (tags : List (String × Phrase)) :
    fieldsWithoutNulls (Schema.tagFields tags) = Schema.tagFields tags := by
  induction tags with
  | nil => rfl
  | cons tag tags ih =>
    simp only [Schema.tagFields] at ih
    simp [Schema.tagFields, fieldsWithoutNulls, withoutNulls, ih]

end Document

namespace Platform

theorem toDocument_withoutNulls (platform : Platform) :
    platform.toDocument.withoutNulls = platform.toDocument := by
  cases platform with
  | unresolved problem => rfl
  | chosen variant =>
    cases variant with
    | aws fields =>
      have tags := fieldsWithoutNulls_tagFields (spelled fields.userTags)
      simp only [Schema.tagFields] at tags
      simp [toDocument, Variant.toDocument, withoutNulls, fieldsWithoutNulls, tags]
    | libvirt | openstack | none => rfl

theorem isNull_toDocument (platform : Platform) : platform.toDocument.isNull = false := by
  cases platform <;> rfl

end Platform

namespace Manifest

def fields (m : Manifest) (variant : Platform.Variant) : List (String × Document) :=
  [("apiVersion", .text m.apiVersion),
    ("metadata", m.metadata.toDocument),
    ("baseDomain", .text m.baseDomain),
    ("sshKey", .text m.sshKey),
    ("networking", m.networking.toDocument),
    ("machines", .list (m.machines.map (fun pool => .block pool.fields))),
    ("platform", .block [(variant.kind.name, variant.toDocument)]),
    ("pullSecret", .text m.pullSecret)]

/-- The fields that are written for a manifest, whether or not it has a platform. -/
def writtenFields (m : Manifest) : List (String × Document) :=
  [("apiVersion", .text m.apiVersion),
    ("metadata", m.metadata.toDocument),
    ("baseDomain", .text m.baseDomain),
    ("sshKey", .text m.sshKey),
    ("networking", m.networking.toDocument),
    ("machines", .list (m.machines.map (fun pool => .block pool.fields)))] ++
  m.platform.toList.map (fun platform => ("platform", platform.toDocument)) ++
  [("pullSecret", .text m.pullSecret)]

theorem toDocument_written (m : Manifest) : m.toDocument = .block m.writtenFields := by
  have pods : itemsWithoutNulls (m.networking.clusterNetworks.map ClusterNetwork.toDocument) =
      m.networking.clusterNetworks.map ClusterNetwork.toDocument := itemsWithoutNulls_map _ _
  have pools : itemsWithoutNulls (m.machines.map MachinePool.toDocument) =
      m.machines.map (fun pool => .block pool.fields) := by
    simp only [itemsWithoutNulls_map, MachinePool.toDocument_withoutNulls]
  simp only [toDocument, toFullDocument, allFields, withoutNulls, fieldsWithoutNulls, isNull_text, isNull_list,
    isNull_block, Metadata.toDocument, Networking.toDocument, pods, pools, writtenFields,
    Bool.false_eq_true, if_false]
  cases m.platform with
  | none => rfl
  | some platform =>
    simp [Platform.isNull_toDocument, Platform.toDocument_withoutNulls]

theorem writtenFields_chosen {m : Manifest} {variant : Platform.Variant}
    (chosen : m.platform = some (.chosen variant)) : m.writtenFields = m.fields variant := by
  rw [writtenFields, chosen]
  rfl

theorem toDocument_fields {m : Manifest} {variant : Platform.Variant}
    (chosen : m.platform = some (.chosen variant)) : m.toDocument = .block (m.fields variant) := by
  rw [toDocument_written, writtenFields_chosen chosen]

theorem fieldsWithoutNulls_all {m : Manifest} {variant : Platform.Variant}
    (chosen : m.platform = some (.chosen variant)) :
    fieldsWithoutNulls m.allFields = m.fields variant :=
  Document.block.inj (toDocument_fields chosen)

/-- No count in a manifest has more digits than can be written. -/
def NumbersFit (m : Manifest) : Prop :=
  (∀ network ∈ m.networking.clusterNetworks,
    (Text.decimal network.hostSubnetLength).length ≤ Text.Numeral.digitLimit) ∧
  ∀ pool ∈ m.machines, ∀ n, pool.replicas = some n →
    (Text.decimal n).length ≤ Text.Numeral.digitLimit

theorem numbersFit_standard {m : Manifest} (layout : m.networking = standardLayout)
    (pools : m.machines = standardPools) : m.NumbersFit := by
  constructor
  · intro network among
    rw [layout, standardLayout, List.mem_singleton] at among
    subst among
    decide
  · intro pool among n counted
    rw [pools] at among
    have three : n = 3 := by
      simp only [standardPools, List.mem_cons, List.not_mem_nil, or_false] at among
      rcases among with rfl | rfl <;> exact (Option.some.inj counted).symm
    subst three
    decide

def tags (m : Manifest) : List (Phrase × Phrase) :=
  match m.platform with
  | some (.chosen (.aws fields)) => fields.userTags
  | _ => []

/-- No name of a tag holds a lone surrogate. -/
def TagsWhole (m : Manifest) : Prop := ∀ tag ∈ m.tags, tag.1.Whole

/-- No name of a tag is longer, as it is written, than a key may be. -/
def TagsFit (m : Manifest) : Prop := ∀ tag ∈ m.tags, Yaml.KeyFits tag.1.spelling.toList

end Manifest

namespace Document

theorem numbersFitItems_map {α : Type} {write : α → Document} {xs : List α} :
    NumbersFitItems (xs.map write) ↔ ∀ x ∈ xs, NumbersFit (write x) := by
  induction xs with
  | nil => simp [NumbersFitItems]
  | cons x xs ih => simp [NumbersFitItems, ih]

theorem heightOfItems_map {α : Type} {write : α → Document} {xs : List α} {bound : Nat}
    (each : ∀ x ∈ xs, (write x).height ≤ bound) : heightOfItems (xs.map write) ≤ bound := by
  induction xs with
  | nil => exact Nat.zero_le _
  | cons x xs ih =>
    exact Nat.max_le.mpr ⟨each x (List.mem_cons_self ..),
      ih (fun y hy => each y (List.mem_cons_of_mem _ hy))⟩

end Document

namespace Yaml

theorem keysFitItems_map {α : Type} {write : α → Document} {xs : List α} :
    KeysFitItems (xs.map write) ↔ ∀ x ∈ xs, KeysFit (write x) := by
  induction xs with
  | nil => simp [KeysFitItems]
  | cons x xs ih => simp [KeysFitItems, ih]

end Yaml

namespace Schema

theorem tagFields_shape (tags : List (String × Phrase)) :
    NumbersFitFields (tagFields tags) ∧ heightOfFields (tagFields tags) ≤ 1 ∧
      (Yaml.KeysFitFields (tagFields tags) ↔ ∀ tag ∈ tags, Yaml.KeyFits tag.1.toList) := by
  induction tags with
  | nil => simp [tagFields, NumbersFitFields, heightOfFields, Yaml.KeysFitFields]
  | cons tag tags ih =>
    simp only [tagFields] at ih
    simp [tagFields, NumbersFitFields, NumbersFit, heightOfFields, height, Yaml.KeysFitFields,
      Yaml.KeysFit, ih]

end Schema

namespace Platform

theorem keysFit_spelled (tags : List (Phrase × Phrase)) :
    Yaml.KeysFitFields (Schema.tagFields (spelled tags)) ↔
      ∀ tag ∈ tags, Yaml.KeyFits tag.1.spelling.toList := by
  have names {name : String} : name ∈ (spelled tags).map Prod.fst ↔
      ∃ tag ∈ tags, tag.1.spelling = name := by
    rw [spelled, Schema.mem_putNames]
    simp
  rw [(Schema.tagFields_shape (spelled tags)).2.2]
  constructor
  · intro fit tag among
    obtain ⟨written, there, same⟩ := List.mem_map.mp (names.mpr ⟨tag, among, rfl⟩)
    rw [← same]
    exact fit written there
  · intro fit written there
    obtain ⟨tag, among, same⟩ := names.mp (List.mem_map_of_mem there)
    rw [← same]
    exact fit tag among

end Platform

namespace Manifest

open Yaml

def fieldNames : List String :=
  ["apiVersion", "metadata", "name", "baseDomain", "sshKey", "networking", "machineCIDR", "type",
    "serviceCIDR", "clusterNetworks", "cidr", "hostSubnetLength", "machines", "replicas",
    "platform", "pullSecret", "aws", "libvirt", "none", "openstack", "region", "userTags", "URI",
    "network", "if", "ipRange", "cloud", "externalNetwork", "baseImage"]

theorem fieldNames_fit : ∀ name ∈ fieldNames, KeyFits name.toList := by decide +kernel

theorem keysFit_noFields : KeysFitFields [] := trivial

theorem keysFit_field {name : String} {content : Document} {fields : List (String × Document)}
    (fixed : name ∈ fieldNames) :
    KeysFitFields ((name, content) :: fields) ↔ KeysFit content ∧ KeysFitFields fields := by
  have fits := fieldNames_fit name fixed
  simp [KeysFitFields, fits]

theorem numbersFit_fields (m : Manifest) (variant : Platform.Variant) :
    NumbersFitFields (m.fields variant) ↔ m.NumbersFit := by
  have pods : NumbersFitItems (m.networking.clusterNetworks.map ClusterNetwork.toDocument) ↔
      ∀ network ∈ m.networking.clusterNetworks,
        (Text.decimal network.hostSubnetLength).length ≤ Text.Numeral.digitLimit := by
    simp [numbersFitItems_map, ClusterNetwork.toDocument, Document.NumbersFit, NumbersFitFields]
  have pools : NumbersFitItems (m.machines.map (fun pool => .block pool.fields)) ↔
      ∀ pool ∈ m.machines, ∀ n, pool.replicas = some n →
        (Text.decimal n).length ≤ Text.Numeral.digitLimit := by
    rw [numbersFitItems_map]
    refine forall_congr' (fun pool => forall_congr' (fun _ => ?_))
    obtain ⟨name, replicas⟩ := pool
    cases replicas <;>
      simp [MachinePool.fields, Document.NumbersFit, NumbersFitFields]
  have platform : Document.NumbersFit variant.toDocument := by
    cases variant with
    | aws fields =>
      exact ⟨trivial, (Schema.tagFields_shape (Platform.spelled fields.userTags)).1, trivial⟩
    | libvirt | openstack | none =>
      simp [Platform.Variant.toDocument, Platform.LibvirtNetwork.toDocument, Document.NumbersFit,
        NumbersFitFields]
  simp [fields, NumbersFitFields, Document.NumbersFit, Metadata.toDocument, Networking.toDocument,
    pods, pools, platform, NumbersFit]

theorem keysFit_fields {m : Manifest} {variant : Platform.Variant}
    (chosen : m.platform = some (.chosen variant)) :
    KeysFitFields (m.fields variant) ↔ m.TagsFit := by
  have pods : KeysFitItems (m.networking.clusterNetworks.map ClusterNetwork.toDocument) := by
    rw [keysFitItems_map]
    intro network _
    simp (disch := decide +kernel) [ClusterNetwork.toDocument, KeysFit, keysFit_field,
      keysFit_noFields]
  have pools : KeysFitItems (m.machines.map (fun pool => .block pool.fields)) := by
    rw [keysFitItems_map]
    intro pool _
    obtain ⟨name, replicas⟩ := pool
    cases replicas <;>
      simp (disch := decide +kernel) [MachinePool.fields, KeysFit, keysFit_field, keysFit_noFields]
  have platform : KeysFitFields [(variant.kind.name, variant.toDocument)] ↔ m.TagsFit := by
    cases variant with
    | aws fields =>
      have tags := Platform.keysFit_spelled fields.userTags
      simp only [Schema.tagFields] at tags
      simp (disch := decide +kernel) [TagsFit, Manifest.tags, chosen, Platform.Variant.kind,
        Platform.Kind.name, Platform.Variant.toDocument, KeysFit, keysFit_field, keysFit_noFields,
        tags]
    | libvirt | openstack | none =>
      simp (disch := decide +kernel) [TagsFit, Manifest.tags, chosen, Platform.Variant.kind,
        Platform.Kind.name, Platform.Variant.toDocument, Platform.LibvirtNetwork.toDocument,
        KeysFit, keysFit_field, keysFit_noFields]
  simp only [fields]
  simp (disch := decide +kernel) [keysFit_field, keysFit_noFields, KeysFit, Metadata.toDocument,
    Networking.toDocument, pods, pools, platform]

theorem height_fields (m : Manifest) (variant : Platform.Variant) :
    heightOfFields (m.fields variant) ≤ 4 := by
  have pods : heightOfItems (m.networking.clusterNetworks.map ClusterNetwork.toDocument) ≤ 2 :=
    heightOfItems_map (fun _ _ => Nat.le_refl 2)
  have pools : heightOfItems (m.machines.map (fun pool => .block pool.fields)) ≤ 2 := by
    refine heightOfItems_map (fun pool _ => ?_)
    obtain ⟨name, replicas⟩ := pool
    cases replicas <;> exact Nat.le_refl 2
  have platform : variant.toDocument.height ≤ 3 := by
    cases variant with
    | aws fields =>
      have tags := (Schema.tagFields_shape (Platform.spelled fields.userTags)).2.1
      simp only [Schema.tagFields] at tags
      simp only [Platform.Variant.toDocument, height, heightOfFields]
      omega
    | libvirt => exact Nat.le_refl 3
    | openstack => exact Nat.le_succ 2
    | none => exact Nat.le_of_ble_eq_true rfl
  simp only [fields, Metadata.toDocument, Networking.toDocument, height, heightOfFields]
  omega

end Manifest

end ClusterManifest
