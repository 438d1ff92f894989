import ClusterManifest.Proofs.Manifest.Reading
import ClusterManifest.Proofs.Network.Range

/-! The ranges of a network layout. Each has no host bits and is accepted again as it is written; a
text is accepted as the range that the address in it lies in, whatever its spelling, so that a range
is always written in one way. -/

namespace ClusterManifest

open Network Cidr

namespace Cidr

variable {c d : Cidr}

/-- A network that has no host bits and that its text is accepted as. -/
structure Canonical (c : Cidr) : Prop where
  masked : ∀ i < c.version.bits - c.length, c.address.testBit i = false
  address_lt : c.address < 2 ^ c.version.bits
  length_le : c.length ≤ c.version.bits
  kept : Schema.network (.scalar (.text (String.ofList c.text))) = .valid c

theorem WellFormed.canonical (formed : c.WellFormed) : c.Canonical where
  masked := by
    intro i host
    rw [← formed.masked, testBit_networkPart, decide_eq_false (Nat.not_le.mpr host), Bool.false_and]
  address_lt := formed.address_lt
  length_le := formed.length_le
  kept := Schema.network_text formed

theorem Canonical.text_inj (first : c.Canonical) (second : d.Canonical) :
    c.text = d.text ↔ c = d := by
  refine ⟨fun same => ?_, fun same => same ▸ rfl⟩
  have kept := first.kept
  rw [same, second.kept] at kept
  exact (Schema.Checked.valid.inj kept).symm

variable {version kind : Version} {n m length size : Nat}

/-- Two networks are one if their addresses have the bits of the network in common. -/
theorem Covers.eq_iff (first : c.Covers version n length) (second : d.Covers kind m size) :
    c = d ↔ version = kind ∧ length = size ∧
      ∀ i, version.bits - length ≤ i → n.testBit i = m.testBit i := by
  constructor
  · rintro rfl
    obtain ⟨rfl, rfl, -, bits⟩ := first
    obtain ⟨rfl, rfl, -, others⟩ := second
    refine ⟨rfl, rfl, fun i network => ?_⟩
    have both := (bits i).symm.trans (others i)
    rwa [decide_eq_true network, Bool.true_and, Bool.true_and] at both
  · rintro ⟨rfl, rfl, common⟩
    rw [covers_iff] at first
    rw [← first, covers_iff.mp ⟨second.version, second.length, second.zone, fun i => ?_⟩]
    rw [second.bits]
    by_cases network : version.bits - length ≤ i
    · rw [common i network]
    · rw [decide_eq_false network, Bool.false_and, Bool.false_and]

end Cidr

namespace Schema

theorem network_text_iff {s : String} {c : Cidr} :
    network (.scalar (.text s)) = .valid c ↔ ofText? s.toList = some c := by
  cases found : ofText? s.toList <;> simp [network, found, Checked.fail]

theorem network_spelled {s : String} {version : Version} {n length : Nat}
    (spelled : RangeSpelling s.toList version n length) :
    ∃ c, network (.scalar (.text s)) = .valid c ∧ c.Canonical ∧ c.Covers version n length := by
  have covers : (containing version n length "").Covers version n length := covers_iff.mpr rfl
  have accepted := network_text_iff.mpr
    ((ofText_iff spelled.plain).mpr ⟨version, n, length, spelled, covers⟩)
  exact ⟨_, accepted, (network_valid accepted).canonical, covers⟩

end Schema

namespace Networking

/-- Every accepted range has no host bits, and what is written for it is accepted as it. A text
without a zone is accepted just where it spells an address, alone or with a length, and as the
network that the address lies in. Two such texts are written alike just where their addresses lie in
one network. -/
theorem ranges_canonical :
    (∀ v c, Schema.network v = .valid c → c.Canonical) ∧
    (∀ v layout, ofValue v = .valid layout →
      (layout.machineCidr.Canonical ∧ layout.serviceCidr.Canonical ∧
        ∀ pods ∈ layout.clusterNetworks, pods.cidr.Canonical) ∧
      ofValue layout.toDocument.toValue = .valid layout) ∧
    (∀ (s : String) (c : Cidr), '%' ∉ s.toList →
      (Schema.network (.scalar (.text s)) = .valid c ↔ ∃ version n length,
        RangeSpelling s.toList version n length ∧ c.Covers version n length)) ∧
    (∀ version address n length, Spells version address n → length ≤ version.bits →
      ∃ c, Schema.network (.scalar (.text (String.ofList
        (address ++ '/' :: Text.decimal length)))) = .valid c ∧ c.Covers version n length) ∧
    ∀ (s t : String) (version kind : Version) (n m length size : Nat),
      RangeSpelling s.toList version n length → RangeSpelling t.toList kind m size →
      ∃ c d, Schema.network (.scalar (.text s)) = .valid c ∧
        Schema.network (.scalar (.text t)) = .valid d ∧
        (c.text = d.text ↔ version = kind ∧ length = size ∧
          ∀ i, version.bits - length ≤ i → n.testBit i = m.testBit i) := by
  refine ⟨fun v c given => (Schema.network_valid given).canonical, ?_, ?_, ?_, ?_⟩
  · intro v layout given
    have formed := wellFormed_ofValue given
    exact ⟨⟨formed.machines.canonical, formed.services.canonical,
      fun pods among => (formed.pods pods among).canonical⟩, ofValue_shortened formed .same⟩
  · intro s c plain
    rw [Schema.network_text_iff, ofText_iff plain]
  · intro version address n length spelled short
    have sized : RangeSpelling (String.ofList (address ++ '/' :: Text.decimal length)).toList
        version n length := by
      rw [String.toList_ofList]
      exact .sized spelled (lengthSpelling_decimal short)
    obtain ⟨c, accepted, -, covers⟩ := Schema.network_spelled sized
    exact ⟨c, accepted, covers⟩
  · intro s t version kind n m length size spelled other
    obtain ⟨c, accepted, canonical, covers⟩ := Schema.network_spelled spelled
    obtain ⟨d, otherAccepted, otherCanonical, otherCovers⟩ := Schema.network_spelled other
    refine ⟨c, d, accepted, otherAccepted, ?_⟩
    rw [canonical.text_inj otherCanonical, covers.eq_iff otherCovers]

/-- A mapped address with a tail of version 4 and letters of either case, and the address in groups
with another last bit, are written as one range. -/
theorem mapped_ranges : ∃ c d,
    Schema.network (.scalar (.text "0::fFfF:10.1.2.3/103")) = .valid c ∧
    Schema.network (.scalar (.text "::FFFF:0A01:0202/103")) = .valid d ∧ c.text = d.text := by
  have mixed : Spells .v6 "0::fFfF:10.1.2.3".toList 0xFFFF0A010203 :=
    Address.v6_iff.mp (by decide +kernel)
  have grouped : Spells .v6 "::FFFF:0A01:0202".toList 0xFFFF0A010202 :=
    Address.v6_iff.mp (by decide +kernel)
  have short : 103 ≤ Version.v6.bits := by decide
  have first : RangeSpelling "0::fFfF:10.1.2.3/103".toList .v6 0xFFFF0A010203 103 :=
    .sized mixed (lengthSpelling_decimal short)
  have second : RangeSpelling "::FFFF:0A01:0202/103".toList .v6 0xFFFF0A010202 103 :=
    .sized grouped (lengthSpelling_decimal short)
  obtain ⟨c, d, accepted, other, same⟩ := ranges_canonical.2.2.2.2 _ _ _ _ _ _ _ _ first second
  refine ⟨c, d, accepted, other, same.mpr ⟨rfl, rfl, fun i (network : 25 ≤ i) => ?_⟩⟩
  have above : 0xFFFF0A010203 >>> 25 = 0xFFFF0A010202 >>> 25 := by decide
  have bits := congrArg (fun k => Nat.testBit k (i - 25)) above
  simpa only [Nat.testBit_shiftRight, Nat.add_sub_cancel' network] using bits

end Networking

end ClusterManifest
