import ClusterManifest.Network.Cidr
import ClusterManifest.Proofs.Network.V6

/-! Networks: however one is made, it has no host bits, and its text is read as it. -/

namespace ClusterManifest.Cidr

open Network Text

/-- A network as it can come from a text, a number or bytes. -/
structure WellFormed (network : Cidr) : Prop where
  /-- No host bit is set. -/
  masked : networkPart network.version network.length network.address = network.address
  address_lt : network.address < Nat.pow 2 network.version.bits
  length_le : network.length ≤ network.version.bits
  /-- Only an address of version 6 has a zone, and one that can be told from what is around it. -/
  zone : network.zone ≠ "" → network.version = .v6 ∧
    '/' ∉ network.zone.toList ∧ '%' ∉ network.zone.toList

theorem networkPart_le (version : Version) (length address : Nat) :
    networkPart version length address ≤ address := by
  rw [networkPart, Nat.shiftRight_eq_div_pow, Nat.shiftLeft_eq]
  exact Nat.div_mul_le_self _ _

/-- Clearing the host bits once more changes nothing. -/
theorem networkPart_networkPart (version : Version) (length address : Nat) :
    networkPart version length (networkPart version length address) =
      networkPart version length address := by
  unfold networkPart
  rw [Nat.shiftLeft_shiftRight]

theorem wellFormed_containing {version : Version} {address length : Nat} {zone : String}
    (small : address < Nat.pow 2 version.bits) (short : length ≤ version.bits)
    (zoned : zone ≠ "" → version = .v6 ∧ '/' ∉ zone.toList ∧ '%' ∉ zone.toList) :
    (containing version address length zone).WellFormed where
  masked := networkPart_networkPart version length address
  address_lt := Nat.lt_of_le_of_lt (networkPart_le version length address) small
  length_le := short
  zone := by
    unfold containing
    dsimp only
    split
    · exact zoned
    · exact fun other => absurd rfl other

theorem lengthNumber_le {version : Version} {s : List Char} {length : Nat}
    (read : lengthNumber? version s = some length) : length ≤ version.bits := by
  unfold lengthNumber? at read
  dsimp only at read
  split at read
  · cases read
  · split at read
    · cases read
    · next short =>
      cases read
      exact Nat.not_lt.mp short

theorem maskLength_le {s : List Char} {length : Nat} (read : maskLength? s = some length) :
    length ≤ 32 := by
  have within : ∀ {p : Nat → Bool} {n}, (List.range 33).find? p = some n → n ≤ 32 := by
    intro p n found
    exact Nat.le_of_lt_succ (List.mem_range.mp (List.mem_of_find?_eq_some found))
  obtain ⟨mask, -, found⟩ := Option.bind_eq_some_iff.mp read
  split at found
  · next first =>
    cases found
    exact within first
  · exact within found

theorem wellFormed_v4 {address : List Char} {mask : Option (List Char)} {network : Cidr}
    (read : v4? address mask = some network) : network.WellFormed := by
  obtain ⟨n, number, more⟩ := Option.bind_eq_some_iff.mp read
  have known : ∃ length ≤ 32, containing .v4 n length "" = network := by
    dsimp only at more
    split at more
    · cases more
      exact ⟨32, Nat.le_refl _, rfl⟩
    · split at more
      · next given =>
        cases more
        exact ⟨_, lengthNumber_le given, rfl⟩
      · obtain ⟨length, given, made⟩ := Option.bind_eq_some_iff.mp more
        cases made
        exact ⟨length, maskLength_le given, rfl⟩
  obtain ⟨length, short, rfl⟩ := known
  exact wellFormed_containing (Address.v4_lt number) short (fun other => absurd rfl other)

theorem splitZone_some {s address zone : List Char} (cut : splitZone? s = some (address, zone)) :
    ∀ c ∈ zone, c ∈ s ∧ c ≠ '%' := by
  unfold splitZone? at cut
  split at cut
  · cases cut
    exact fun _ among => nomatch among
  · next parts =>
    split at cut
    · cases cut
    · cases cut
      intro c among
      have piece : zone ∈ splitAtChar '%' s := by
        rw [parts]
        simp
      exact ⟨(mem_of_mem_splitWhere piece among).1,
        fun same => separator_notMem piece (same ▸ among)⟩
  · cases cut

theorem wellFormed_v6 {address : List Char} {mask : Option (List Char)} {network : Cidr}
    (plain : '/' ∉ address) (read : v6? address mask = some network) : network.WellFormed := by
  obtain ⟨⟨host, zone⟩, cut, rest⟩ := Option.bind_eq_some_iff.mp read
  obtain ⟨n, number, more⟩ := Option.bind_eq_some_iff.mp rest
  have known : ∃ length ≤ 128, containing .v6 n length (String.ofList zone) = network := by
    dsimp only at more
    split at more
    · cases more
      exact ⟨128, Nat.le_refl _, rfl⟩
    · obtain ⟨length, given, made⟩ := Option.bind_eq_some_iff.mp more
      cases made
      exact ⟨length, lengthNumber_le given, rfl⟩
  obtain ⟨length, short, rfl⟩ := known
  have other := splitZone_some cut
  refine wellFormed_containing (Address.v6_lt number) short (fun _ => ⟨rfl, ?_, ?_⟩)
  · rw [String.toList_ofList]
    exact fun among => plain (other _ among).1
  · rw [String.toList_ofList]
    exact fun among => (other _ among).2 rfl

theorem wellFormed_ofText {s : List Char} {network : Cidr} (read : ofText? s = some network) :
    network.WellFormed := by
  have either : ∀ {address mask}, '/' ∉ address →
      (v4? address mask).or (v6? address mask) = some network → network.WellFormed := by
    intro address mask plain found
    cases four : v4? address mask with
    | some _ =>
      rw [four] at found
      cases found
      exact wellFormed_v4 four
    | none =>
      rw [four] at found
      exact wellFormed_v6 plain found
  unfold ofText? at read
  split at read
  · next parts => exact either (separator_notMem (by rw [parts]; simp)) read
  · next parts => exact either (separator_notMem (by rw [parts]; simp)) read
  · cases read

theorem wellFormed_ofNumber {n : Int} {network : Cidr} (read : ofNumber? n = some network) :
    network.WellFormed := by
  unfold ofNumber? at read
  split at read
  · cases read
  · split at read
    · cases read
      exact wellFormed_containing (by simp only [Version.bits, Nat.pow_eq]; omega) (Nat.le_refl _)
        (fun other => absurd rfl other)
    · split at read
      · cases read
        exact wellFormed_containing (by simp only [Version.bits, Nat.pow_eq]; omega) (Nat.le_refl _)
          (fun other => absurd rfl other)
      · cases read

theorem wellFormed_ofBytes {data : Bytes} {network : Cidr} (read : ofBytes? data = some network) :
    network.WellFormed := by
  have small : ofDigits 256 (data.map UInt8.toNat) < Nat.pow 256 data.length := by
    have each : ∀ d ∈ data.map UInt8.toNat, d < 256 := by
      intro d among
      obtain ⟨b, -, rfl⟩ := List.mem_map.mp among
      exact b.toNat_lt
    have below := ofDigits_lt each
    rwa [List.length_map] at below
  unfold ofBytes? at read
  dsimp only at read
  split at read
  · next four =>
    cases read
    rw [four] at small
    exact wellFormed_containing small (Nat.le_refl _) (fun other => absurd rfl other)
  · split at read
    · next sixteen =>
      cases read
      rw [sixteen] at small
      exact wellFormed_containing small (Nat.le_refl _) (fun other => absurd rfl other)
    · cases read

theorem WellFormed.containing_self {network : Cidr} (formed : network.WellFormed) :
    containing network.version network.address network.length network.zone = network := by
  unfold containing
  simp only [formed.masked, if_true]

theorem lengthNumber_decimal {version : Version} {length : Nat} (short : length ≤ version.bits) :
    lengthNumber? version (decimal length) = some length := by
  have few : (decimal length).length ≤ Numeral.digitLimit := by
    refine (Nat.length_toDigits_le_iff (by decide) (by decide)).mpr ?_
    have bits : version.bits < 10 ^ 3 := by cases version <;> decide
    exact Nat.lt_of_lt_of_le (Nat.lt_of_le_of_lt short bits)
      (Nat.pow_le_pow_right (by decide) (by decide))
  have nonempty : (decimal length).isEmpty = false :=
    List.isEmpty_eq_false_iff.mpr (decimal_ne_nil length)
  have digits : (decimal length).all isAsciiDigit = true :=
    List.all_eq_true.mpr (fun _ => isAsciiDigit_of_decimal)
  simp only [lengthNumber?, ofDigits_decimal, nonempty, digits,
    decide_eq_false (Nat.not_lt.mpr few), Nat.not_lt.mpr short]
  rfl

theorem notMem_v6Text {c : Char} (n : Nat) (other : c ≠ ':') (plain : hexDigit? c = none) :
    c ∉ Address.v6Text n := by
  intro among
  rw [Address.v6Text_parts] at among
  rcases mem_joinWith among with here | ⟨piece, within, inside⟩
  · exact other (List.mem_singleton.mp here)
  · obtain ⟨part, -, rfl⟩ := List.mem_map.mp within
    exact Address.notMem_text plain inside

theorem colon_mem_v6Text (n : Nat) : ':' ∈ Address.v6Text n := by
  refine Classical.byContradiction (fun none => ?_)
  have one := splitAtChar_of_none none
  have all := Address.allGroups_writtenParts n
  rw [Address.splitAtChar_v6Text] at one
  have single := congrArg List.length one
  rw [List.length_map, List.length_singleton] at single
  obtain ⟨part, same⟩ := List.length_eq_one_iff.mp single
  have few : Address.allGroups? [part] = Option.none := by cases part <;> rfl
  rw [same, few] at all
  cases all

def host (network : Cidr) : List Char :=
  Address.text network.version network.address ++
    (if network.zone = "" then [] else '%' :: network.zone.toList)

theorem text_host (network : Cidr) : network.text = network.host ++ '/' :: decimal network.length :=
  rfl

theorem splitZone_host {address length : Nat} {zone : String} (plain : '%' ∉ zone.toList) :
    splitZone? (host ⟨.v6, address, length, zone⟩) =
      some (Address.v6Text address, zone.toList) := by
  have own : '%' ∉ Address.v6Text address := notMem_v6Text address (by decide) rfl
  by_cases empty : zone = ""
  · subst empty
    have parts : splitAtChar '%' (host ⟨.v6, address, length, ""⟩) = [Address.v6Text address] := by
      simp only [host, if_true, List.append_nil]
      exact splitAtChar_of_none own
    simp [splitZone?, parts]
  · have parts : splitAtChar '%' (host ⟨.v6, address, length, zone⟩) =
        [Address.v6Text address, zone.toList] := by
      simp only [host, empty, if_false]
      exact (splitAtChar_append own).trans (by rw [splitAtChar_of_none plain])
    have some : zone.toList.isEmpty = false := by
      rw [List.isEmpty_eq_false_iff]
      exact fun none => empty (String.toList_eq_nil_iff.mp none)
    simp [splitZone?, parts, some]

section

variable {network : Cidr}

theorem WellFormed.zone_plain (formed : network.WellFormed) :
    '/' ∉ network.zone.toList ∧ '%' ∉ network.zone.toList := by
  by_cases empty : network.zone = ""
  · rw [empty]
    exact ⟨List.not_mem_nil, List.not_mem_nil⟩
  · exact (formed.zone empty).2

theorem slash_notMem_host (formed : network.WellFormed) : '/' ∉ network.host := by
  intro among
  rcases List.mem_append.mp among with here | later
  · cases version : network.version with
    | v4 =>
      rw [version] at here
      exact Address.notMem_v4Text network.address (by decide) rfl here
    | v6 =>
      rw [version] at here
      exact notMem_v6Text network.address (by decide) rfl here
  · split at later
    · cases later
    · rcases List.mem_cons.mp later with sign | inside
      · exact absurd sign (by decide)
      · exact formed.zone_plain.1 inside

/-- An address of version 6 is not taken for one of version 4, whatever its zone is. -/
theorem v4_none_host (address : Nat) (zone : String) (length : Nat) (mask : Option (List Char)) :
    v4? (host ⟨.v6, address, length, zone⟩) mask = none := by
  have point : '.' ∉ Address.v6Text address := notMem_v6Text address (by decide) rfl
  have other := Address.v4_none (colon_mem_v6Text address) point rfl
    (t := if zone = "" then [] else '%' :: zone.toList)
  simp only [v4?, host, Address.text, other, bind, Option.bind]

theorem ofText_text (formed : network.WellFormed) : ofText? network.text = some network := by
  have same := formed.containing_self
  have mask := lengthNumber_decimal formed.length_le
  have halves : splitAtChar '/' network.text = [network.host, decimal network.length] := by
    rw [text_host, splitAtChar_append (slash_notMem_host formed),
      splitAtChar_of_none (Address.notMem_decimal (by decide))]
  have zoned := formed.zone_plain
  obtain ⟨version, address, length, zone⟩ := network
  dsimp only at mask same halves zoned
  cases version with
  | v4 =>
    have bare : zone = "" :=
      Classical.byContradiction (fun other => by cases (formed.zone other).1)
    subst bare
    have own : host ⟨.v4, address, length, ""⟩ = Address.v4Text address := List.append_nil _
    have four : v4? (Address.v4Text address) (some (decimal length)) =
        some ⟨.v4, address, length, ""⟩ := by
      simp only [v4?, Address.v4_v4Text formed.address_lt, mask, bind, Option.bind, same]
    rw [own] at halves
    simp only [ofText?, halves, four]
    rfl
  | v6 =>
    have six : v6? (host ⟨.v6, address, length, zone⟩) (some (decimal length)) =
        some ⟨.v6, address, length, zone⟩ := by
      simp only [v6?, splitZone_host zoned.2, Address.v6_v6Text formed.address_lt, mask, bind,
        Option.bind, String.ofList_toList, same]
    simp only [ofText?, halves, v4_none_host, six]
    rfl

end

end ClusterManifest.Cidr
