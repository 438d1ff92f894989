import ClusterManifest.Proofs.Document
import ClusterManifest.Proofs.Manifest.Reading

/-! What is written for a manifest determines it, unless the name of a tag holds a lone surrogate:
the document is read as the manifest again, and two manifests are equal just when their documents
are the same. -/

namespace ClusterManifest

open Document Schema

theorem Cidr.same_text {a b : Cidr} (formed : a.WellFormed) (other : b.WellFormed) :
    (Document.text (String.ofList a.text)).same (.text (String.ofList b.text)) = true ↔ a = b := by
  rw [Document.same_text]
  constructor
  · exact fun same => eq_of_written (network_text formed) (network_text other)
      (congrArg Document.text same)
  · rintro rfl
    rfl

theorem ClusterNetwork.same_toDocument {a b : ClusterNetwork} (formed : a.cidr.WellFormed)
    (other : b.cidr.WellFormed) : a.toDocument.same b.toDocument = true ↔ a = b := by
  obtain ⟨range, length⟩ := a
  obtain ⟨range', length'⟩ := b
  simp [toDocument, same_block, fieldsWithin, List.lookup_cons, Cidr.same_text formed other]

theorem MachinePool.same_fields (a b : MachinePool) :
    (block a.fields).same (block b.fields) = true ↔ a = b := by
  obtain ⟨name, replicas⟩ := a
  obtain ⟨name', replicas'⟩ := b
  cases replicas <;> cases replicas' <;>
    simp [fields, same_block, fieldsWithin, List.lookup_cons]

theorem Networking.same_toDocument {a b : Networking} (formed : a.WellFormed)
    (other : b.WellFormed) : a.toDocument.same b.toDocument = true ↔ a = b := by
  have machines := Cidr.same_text formed.machines other.machines
  have services := Cidr.same_text formed.services other.services
  have pods := same_list (fun x among y there =>
    ClusterNetwork.same_toDocument (formed.pods x among) (other.pods y there))
  obtain ⟨machineCidr, type, serviceCidr, clusterNetworks⟩ := a
  obtain ⟨machineCidr', type', serviceCidr', clusterNetworks'⟩ := b
  simp [toDocument, same_block, fieldsWithin, List.lookup_cons, machines, services, pods]

theorem Metadata.same_toDocument (a b : Metadata) :
    a.toDocument.same b.toDocument = true ↔ a = b := by
  obtain ⟨name⟩ := a
  obtain ⟨name'⟩ := b
  simp [toDocument, same_block, fieldsWithin]

namespace Platform

theorem LibvirtNetwork.same_toDocument (a b : LibvirtNetwork) :
    a.toDocument.same b.toDocument = true ↔ a = b := by
  obtain ⟨name, interface, ipRange⟩ := a
  obtain ⟨name', interface', ipRange'⟩ := b
  simp [toDocument, same_block, fieldsWithin, List.lookup_cons]

theorem kind_of_same {a b : Variant} (same : (chosen a).same (chosen b) = true) :
    a.kind = b.kind := by
  cases a <;> cases b <;> first | rfl | cases same

theorem kind_of_same_toDocument {a b : Variant}
    (same : (toDocument (.chosen a)).same (toDocument (.chosen b)) = true) : a.kind = b.kind := by
  rw [toDocument, toDocument, same_block] at same
  have names : a.kind.name = b.kind.name := by
    refine Classical.byContradiction (fun differ => ?_)
    simp [fieldsWithin, List.lookup_cons, beq_eq_false_iff_ne.mpr differ] at same
  revert names
  cases a.kind <;> cases b.kind <;> decide

/-- The same is written for two platforms just when they are equal as they are read back. -/
theorem same_toDocument (a b : Variant) :
    (toDocument (.chosen a)).same (toDocument (.chosen b)) =
      (chosen a.respelled).same (chosen b.respelled) := by
  rw [Bool.eq_iff_iff]
  by_cases alike : a.kind = b.kind
  · cases a <;> cases b <;> try cases alike
    -- Two variants of one kind; the names of tags come to their spelling.
    · next fields others =>
      have distinct : ((spelled others.userTags).map Prod.fst).Nodup := nodup_putNames _
      have tags : _ = Platform.sameTags (respell fields.userTags) _ := same_tags distinct
      simp only [tagFields] at tags
      simp [toDocument, Variant.kind, Kind.name, Variant.toDocument, Variant.respelled, same_block,
        fieldsWithin, List.lookup_cons, tags, same, respell]
    · next fields others =>
      obtain ⟨uri, network⟩ := fields
      obtain ⟨uri', network'⟩ := others
      simp [toDocument, Variant.kind, Kind.name, Variant.toDocument, Variant.respelled, same_block,
        fieldsWithin, List.lookup_cons, LibvirtNetwork.same_toDocument, same]
    · next fields others =>
      obtain ⟨region, cloud, externalNetwork, baseImage⟩ := fields
      obtain ⟨region', cloud', externalNetwork', baseImage'⟩ := others
      simp [toDocument, Variant.kind, Kind.name, Variant.toDocument, Variant.respelled, same_block,
        fieldsWithin, List.lookup_cons, same]
    · simp [toDocument, Variant.kind, Kind.name, Variant.toDocument, Variant.respelled, same_block,
        fieldsWithin, same]
  · refine iff_of_false (mt kind_of_same_toDocument alike) (fun same => alike ?_)
    have kinds := kind_of_same same
    rwa [Variant.kind_respelled, Variant.kind_respelled] at kinds

end Platform

namespace Manifest

/-- The same is written for two manifests whose platforms are known just when they are equal as they
are read back. -/
theorem same_toDocument {m n : Manifest} (formed : m.WellFormed) (other : n.WellFormed)
    (resolved : m.Resolved) (otherResolved : n.Resolved) :
    m.toDocument.same n.toDocument = true ↔ m.respelled.same n.respelled = true := by
  have layouts := Networking.same_toDocument formed.networking other.networking
  have each : ∀ x ∈ m.machines, ∀ y ∈ n.machines, _ := fun x _ y _ => MachinePool.same_fields x y
  have pools := same_list each
  rw [toDocument_written, toDocument_written, same_iff, same_block]
  rcases resolved with none | ⟨variant, chosen⟩ <;>
    rcases otherResolved with none' | ⟨variant', chosen'⟩
  · simp [writtenFields, respelled, none, none', fieldsWithin, List.lookup_cons, layouts, pools,
      samePlatform, Metadata.same_toDocument]
  · simp [writtenFields, respelled, none, chosen', samePlatform]
  · simp [writtenFields, respelled, none', chosen, samePlatform]
  · have platforms := Platform.same_toDocument variant variant'
    simp [writtenFields, respelled, chosen, chosen', fieldsWithin, List.lookup_cons, layouts, pools,
      samePlatform, Metadata.same_toDocument, platforms, Platform.respelled, and_left_comm]

/-- Nothing that is written for a manifest is null. -/
theorem nullFree_toDocument (m : Manifest) : m.toDocument.NullFree := by
  have pods : ∀ network ∈ m.networking.clusterNetworks, network.toDocument.NullFree := by
    simp [ClusterNetwork.toDocument]
  have pools : ∀ pool ∈ m.machines, (block pool.fields).NullFree := by
    rintro ⟨name, replicas⟩ -
    cases replicas <;> simp [MachinePool.fields]
  have platforms : ∀ platform : Platform, platform.toDocument.NullFree := by
    rintro (variant | problem)
    · cases variant with
      | aws fields =>
        have tags := nullFree_tagFields (Platform.spelled fields.userTags)
        simp only [tagFields] at tags
        simp [Platform.toDocument, Platform.Variant.toDocument, tags]
      | libvirt | openstack | none =>
        simp [Platform.toDocument, Platform.Variant.toDocument,
          Platform.LibvirtNetwork.toDocument]
    · simp [Platform.toDocument]
  rw [toDocument_written, nullFree_block]
  simp +contextual [writtenFields, or_imp, Metadata.toDocument, Networking.toDocument,
    pods, pools, platforms]

/-- A pool has a count in the document just when its count is set, and then that one. -/
theorem replicas_toDocument (m : Manifest) :
    ∃ pools, m.toDocument.field? "machines" = some (.list pools) ∧
      pools.map (Document.field? "replicas") =
        m.machines.map (fun pool => pool.replicas.map (fun n => .number n)) := by
  refine ⟨m.machines.map (fun pool => .block pool.fields), ?_, ?_⟩
  · rw [toDocument_written]
    simp [field?, writtenFields, List.lookup_cons]
  · rw [List.map_map]
    refine List.map_congr_left (fun pool _ => ?_)
    obtain ⟨name, replicas⟩ := pool
    cases replicas <;> simp [field?, MachinePool.fields, List.lookup_cons]

theorem wellFormed_ofValue {v : Value} {m : Manifest} (read : ofValue v = .valid m) :
    m.WellFormed := by
  obtain ⟨entries, -, accepted⟩ := Checked.bind_eq_valid.mp read
  exact wellFormed_ofEntries accepted

/-- What is written for a manifest that was read, complete or not, holds no null and a count just
where one is set. It is accepted and written alike again; it is read as the manifest itself just
when no name of a tag holds a lone surrogate, and tells such manifests from each other. -/
theorem toDocument_faithful {v : Value} {m : Manifest} (read : ofValue v = .valid m)
    (resolved : m.Resolved) :
    m.toDocument.NullFree ∧
    (∃ pools, m.toDocument.field? "machines" = some (.list pools) ∧
      pools.map (Document.field? "replicas") =
        m.machines.map (fun pool => pool.replicas.map (fun n => .number n))) ∧
    (∃ again, ofValue m.toDocument.toValue = .valid again ∧ again.toDocument = m.toDocument ∧
      (again = m ↔ m.TagsWhole) ∧ (m.same again = true ↔ m.TagsWhole)) ∧
    ∀ (w : Value) (n : Manifest), ofValue w = .valid n → n.Resolved →
      m.TagsWhole → n.TagsWhole → (m.toDocument.same n.toDocument = true ↔ m.same n = true) := by
  have formed := wellFormed_ofValue read
  refine ⟨nullFree_toDocument m, replicas_toDocument m, ?_, ?_⟩
  · exact ⟨m.respelled, ofValue_shortened formed resolved .same, toDocument_respelled m,
      respelled_eq_iff formed, same_respelled_iff formed⟩
  · intro w n other otherResolved whole otherWhole
    have otherFormed := wellFormed_ofValue other
    rw [same_toDocument formed otherFormed resolved otherResolved,
      (respelled_eq_iff formed).mpr whole, (respelled_eq_iff otherFormed).mpr otherWhole]

/-- A mapping with bytes, host bits, a number as a network, a truth value and a text as counts,
names of both kinds, and tags. -/
def laxValue (tags : List (Phrase × Phrase)) : Value :=
  .map [(.text "api_version", .scalar (.bytes [0x76, 0x31])),
    (.text "networking", .map
      [(.text "machine_cidr", .scalar (.text "10.1.2.3/8")),
        (.text "clusterNetworks", .list
          [.map [(.text "cidr", .scalar (.int 167772160)),
            (.text "hostSubnetLength", .scalar (.bool true))]])]),
    (.text "machines", .list
      [.map [(.text "name", .scalar (.text "master")),
        (.text "replicas", .scalar (.text " +0.0 "))],
        .map [(.text "name", .scalar (.text "worker"))]]),
    (.text "platform", .map
      [(.text "none", .scalar .null),
        (.text "aws", .map [(.text "region", .scalar (.text "us-east-1")),
          (.text "user_tags",
            .map (tags.map (fun tag => (.ofPhrase tag.1, .scalar (.ofPhrase tag.2)))))])])]

def laxManifest (tags : List (Phrase × Phrase)) : Manifest :=
  ⟨"v1", ⟨""⟩, "", "",
    ⟨⟨.v4, 0x0A000000, 8, ""⟩, "OpenshiftSDN", ⟨.v4, 0xAC1E0000, 16, ""⟩,
      [⟨⟨.v4, 0x0A000000, 32, ""⟩, 1⟩]⟩,
    [⟨"master", some 0⟩, ⟨"worker", none⟩], some (.chosen (.aws ⟨"us-east-1", tags⟩)), ""⟩

def laxTags : List (Phrase × Phrase) := [(.text "a", .text "1"), (.text "b", .illFormed half)]

theorem lax_faithful :
    ofValue (laxValue laxTags) = .valid (laxManifest laxTags) ∧
      (laxManifest laxTags).toDocument.NullFree ∧
      ofValue (laxManifest laxTags).toDocument.toValue = .valid (laxManifest laxTags) ∧
      (laxManifest laxTags).toDocument.same (laxManifest laxTags.reverse).toDocument = true := by
  have read : ofValue (laxValue laxTags) = .valid (laxManifest laxTags) :=
    Checked.valid_of_value (by decide +kernel)
  have other : ofValue (laxValue laxTags.reverse) = .valid (laxManifest laxTags.reverse) :=
    Checked.valid_of_value (by decide +kernel)
  have whole : (laxManifest laxTags).TagsWhole := by
    simp [TagsWhole, Manifest.tags, laxManifest, laxTags]
  have otherWhole : (laxManifest laxTags.reverse).TagsWhole := by
    simp [TagsWhole, Manifest.tags, laxManifest, laxTags]
  obtain ⟨free, -, ⟨again, accepted, -, back, -⟩, equal⟩ :=
    toDocument_faithful read (.inr ⟨_, rfl⟩)
  have same := equal _ _ other (.inr ⟨_, rfl⟩) whole otherWhole
  exact ⟨read, free, back.mpr whole ▸ accepted, same.mpr (by decide +kernel)⟩

/-- The name of a tag that is half of a pair is written as three other signs. -/
theorem half_not_read_back :
    ofValue (laxValue [(.illFormed half, .text "x")]) =
        .valid (laxManifest [(.illFormed half, .text "x")]) ∧
      (laxManifest [(.illFormed half, .text "x")]).Resolved ∧
      ofValue (laxManifest [(.illFormed half, .text "x")]).toDocument.toValue =
        .valid (laxManifest [(.text "\uFFFD\uFFFD\uFFFD", .text "x")]) ∧
      (laxManifest [(.illFormed half, .text "x")]).same
        (laxManifest [(.text "\uFFFD\uFFFD\uFFFD", .text "x")]) = false :=
  ⟨Checked.valid_of_value (by decide +kernel), .inr ⟨_, rfl⟩,
    Checked.valid_of_value (by decide +kernel), by decide +kernel⟩

end Manifest

end ClusterManifest
