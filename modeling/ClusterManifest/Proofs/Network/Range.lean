import ClusterManifest.Proofs.Network.Cidr
import ClusterManifest.Proofs.Network.Spelling

/-! The spellings of networks without a zone: an address, alone or with a length behind a slash.
What is read as a network is what is spelled as one, and it covers the address. -/

namespace ClusterManifest.Cidr

open Network Text Address

/-- The spellings of an address. -/
def Spells : Version → List Char → Nat → Prop
  | .v4, s, n => n < 2 ^ 32 ∧ s = v4Text n
  | .v6, s, n => V6Spelling s n

/-- The spellings of a length: digits, or for version 4 also a mask. A mask that is both a netmask
and a host mask is a netmask. -/
inductive LengthSpelling : Version → List Char → Nat → Prop
  | number {version : Version} {digits : List Char} :
    digits ≠ [] → (∀ c ∈ digits, isAsciiDigit c = true) →
    digits.length ≤ Numeral.digitLimit →
    ofDigits 10 (digits.map asciiDigitValue) ≤ version.bits →
      LengthSpelling version digits (ofDigits 10 (digits.map asciiDigitValue))
  | netmask {length : Nat} : length ≤ 32 →
    LengthSpelling .v4 (v4Text (2 ^ 32 - 2 ^ (32 - length))) length
  | hostmask {length : Nat} : 0 < length → length < 32 →
    LengthSpelling .v4 (v4Text (2 ^ (32 - length) - 1)) length

/-- The spellings of the network of a length that an address lies in. -/
inductive RangeSpelling : List Char → Version → Nat → Nat → Prop
  | single {version : Version} {address : List Char} {n : Nat} :
    Spells version address n → RangeSpelling address version n version.bits
  | sized {version : Version} {address size : List Char} {n length : Nat} :
    Spells version address n → LengthSpelling version size length →
      RangeSpelling (address ++ '/' :: size) version n length

/-- A network is the one of a length that an address lies in: it has the address's own bits for its
length, and zeros behind them. -/
structure Covers (c : Cidr) (kind : Version) (n size : Nat) : Prop where
  version : c.version = kind
  length : c.length = size
  zone : c.zone = ""
  bits : ∀ i, c.address.testBit i = (decide (kind.bits - size ≤ i) && n.testBit i)

variable {version : Version} {address size s : List Char} {n length : Nat} {c : Cidr}

theorem testBit_networkPart (i : Nat) : (networkPart version length n).testBit i =
    (decide (version.bits - length ≤ i) && n.testBit i) := by
  rw [networkPart, Nat.testBit_shiftLeft, Nat.testBit_shiftRight]
  by_cases network : version.bits - length ≤ i
  · rw [Nat.add_sub_cancel' network]
  · simp [network]

theorem containing_plain : containing version n length "" =
    ⟨version, networkPart version length n, length, ""⟩ := by
  rw [containing, ite_self]

theorem covers_iff : c.Covers version n length ↔ containing version n length "" = c := by
  rw [containing_plain]
  constructor
  · intro covers
    obtain ⟨_, network, _, _⟩ := c
    obtain ⟨rfl, rfl, rfl, bits⟩ := covers
    congr 1
    exact Nat.eq_of_testBit_eq (fun i => (testBit_networkPart i).trans (bits i).symm)
  · rintro rfl
    exact ⟨rfl, rfl, rfl, testBit_networkPart⟩

theorem lengthNumber_iff : lengthNumber? version s = some length ↔
    s ≠ [] ∧ (∀ c ∈ s, isAsciiDigit c = true) ∧ s.length ≤ Numeral.digitLimit ∧
      ofDigits 10 (s.map asciiDigitValue) ≤ version.bits ∧
      ofDigits 10 (s.map asciiDigitValue) = length := by
  unfold lengthNumber?
  dsimp only
  split
  · next wrong =>
    refine ⟨nofun, fun ⟨given, digits, short, _⟩ => ?_⟩
    have all : s.all isAsciiDigit = true := List.all_eq_true.mpr digits
    simp [given, Nat.not_lt.mpr short, all] at wrong
  · next right =>
    simp only [Bool.or_eq_true, List.isEmpty_iff, Bool.not_eq_true', List.all_eq_false,
      decide_eq_true_eq, not_or, not_exists, not_and, Bool.not_eq_true, Bool.not_eq_false,
      Nat.not_lt] at right
    split
    · next large => exact ⟨nofun, fun given => absurd given.2.2.2.1 (Nat.not_le.mpr large)⟩
    · next small =>
      rw [Option.some.injEq]
      exact ⟨fun same => ⟨right.1.1, right.1.2, right.2, Nat.not_lt.mp small, same⟩,
        fun given => given.2.2.2.2⟩

theorem netmask_eq (length : Nat) : netmask length = 2 ^ 32 - 2 ^ (32 - length) := by
  simp only [netmask, Nat.one_shiftLeft, Nat.reducePow]

theorem hostmask_eq (length : Nat) : hostmask length = 2 ^ (32 - length) - 1 := by
  rw [hostmask, Nat.one_shiftLeft]

theorem maskLength_iff : maskLength? s = some length ↔
    (length ≤ 32 ∧ s = v4Text (netmask length)) ∨
      (0 < length ∧ length < 32) ∧ s = v4Text (hostmask length) := by
  have found {mask : Nat → Nat} {m k : Nat}
      (some : (List.range 33).find? (fun length => mask length == m) = some k) :
      k ≤ 32 ∧ mask k = m :=
    ⟨Nat.le_of_lt_succ (List.mem_range.mp (List.mem_of_find?_eq_some some)),
      by simpa using List.find?_some some⟩
  constructor
  · intro read
    obtain ⟨mask, address, more⟩ := Option.bind_eq_some_iff.mp read
    obtain ⟨-, rfl⟩ := v4_iff.mp address
    split at more
    · next first =>
      cases more
      obtain ⟨small, rfl⟩ := found first
      exact .inl ⟨small, rfl⟩
    · next none =>
      obtain ⟨small, rfl⟩ := found more
      refine .inr ⟨?_, rfl⟩
      rcases Nat.eq_zero_or_pos length with rfl | positive
      · cases none
      · rcases Nat.lt_or_eq_of_le small with below | rfl
        · exact ⟨positive, below⟩
        · cases none
  · have small : ∀ length < 33, netmask length < 2 ^ 32 ∧ hostmask length < 2 ^ 32 := by decide
    rintro (⟨short, rfl⟩ | ⟨⟨positive, short⟩, rfl⟩)
    · have first : ∀ length < 33,
          (List.range 33).find? (fun k => netmask k == netmask length) = some length := by decide
      rw [maskLength?, v4_v4Text (small length (by omega)).1]
      simp only [bind, Option.bind, first length (by omega)]
    · have second : ∀ length < 33, 0 < length → length < 32 →
          (List.range 33).find? (fun k => netmask k == hostmask length) = none ∧
          (List.range 33).find? (fun k => hostmask k == hostmask length) = some length := by decide
      obtain ⟨none, found⟩ := second length (by omega) positive short
      rw [maskLength?, v4_v4Text (small length (by omega)).2]
      simp only [bind, Option.bind, none, found]

theorem lengthNumber_v4Text (n : Nat) : lengthNumber? version (v4Text n) = none := by
  refine Option.eq_none_iff_forall_ne_some.mpr (fun length read => ?_)
  have digit := (lengthNumber_iff.mp read).2.1 '.' (point_mem_v4Text n)
  cases digit

/-- The length that a size stands for, which may be left out. -/
def lengthOf? : Version → Option (List Char) → Option Nat
  | version, none => some version.bits
  | .v4, some size => (lengthNumber? .v4 size).or (maskLength? size)
  | .v6, some size => lengthNumber? .v6 size

/-- A size that is left out stands for all bits. -/
inductive SizeSpelling (version : Version) : Option (List Char) → Nat → Prop
  | none : SizeSpelling version none version.bits
  | given {size : List Char} {length : Nat} :
    LengthSpelling version size length → SizeSpelling version (some size) length

theorem lengthOf_iff {size : Option (List Char)} :
    lengthOf? version size = some length ↔ SizeSpelling version size length := by
  constructor
  · intro read
    cases size with
    | none =>
      cases read
      exact .none
    | some size =>
      have numbered (number : lengthNumber? version size = some length) :
          SizeSpelling version (some size) length := by
        obtain ⟨some, digits, short, small, rfl⟩ := lengthNumber_iff.mp number
        exact .given (.number some digits short small)
      cases version with
      | v6 => exact numbered read
      | v4 =>
        rcases Option.or_eq_some_iff.mp read with number | ⟨-, mask⟩
        · exact numbered number
        · rcases maskLength_iff.mp mask with ⟨short, rfl⟩ | ⟨⟨positive, short⟩, rfl⟩
          · rw [netmask_eq]
            exact .given (.netmask short)
          · rw [hostmask_eq]
            exact .given (.hostmask positive short)
  · intro spelled
    cases spelled with
    | none => rfl
    | given spelled =>
      cases spelled with
      | number some digits short small =>
        have number := lengthNumber_iff.mpr ⟨some, digits, short, small, rfl⟩
        cases version with
        | v4 => exact Option.or_eq_some_iff.mpr (.inl number)
        | v6 => exact number
      | netmask short =>
        rw [← netmask_eq]
        exact Option.or_eq_some_iff.mpr
          (.inr ⟨lengthNumber_v4Text _, maskLength_iff.mpr (.inl ⟨short, rfl⟩)⟩)
      | hostmask positive short =>
        rw [← hostmask_eq]
        exact Option.or_eq_some_iff.mpr
          (.inr ⟨lengthNumber_v4Text _, maskLength_iff.mpr (.inr ⟨⟨positive, short⟩, rfl⟩)⟩)

variable {mask : Option (List Char)}

theorem v4_eq : v4? address mask = (Address.v4? address).bind (fun n =>
    (lengthOf? .v4 mask).map (fun length => containing .v4 n length "")) := by
  unfold v4?
  cases Address.v4? address with
  | none => rfl
  | some n =>
    cases mask with
    | none => rfl
    | some size =>
      simp only [lengthOf?, bind, Option.bind]
      cases lengthNumber? .v4 size with
      | some length => rfl
      | none => cases maskLength? size <;> rfl

theorem v6_eq (plain : '%' ∉ address) : v6? address mask = (Address.v6? address).bind (fun n =>
    (lengthOf? .v6 mask).map (fun length => containing .v6 n length "")) := by
  have whole : splitZone? address = some (address, []) := by
    rw [splitZone?, splitAtChar_of_none plain]
  unfold v6?
  simp only [whole, bind, Option.bind]
  cases Address.v6? address with
  | none => rfl
  | some n =>
    cases mask with
    | none => rfl
    | some size =>
      simp only [lengthOf?]
      cases lengthNumber? .v6 size <;> rfl

theorem v4_range : v4? address mask = some c ↔
    ∃ n length, Spells .v4 address n ∧ SizeSpelling .v4 mask length ∧
      containing .v4 n length "" = c := by
  simp only [v4_eq, Option.bind_eq_some_iff, Option.map_eq_some_iff, v4_iff, lengthOf_iff, Spells,
    exists_and_left]

theorem v6_range (plain : '%' ∉ address) : v6? address mask = some c ↔
    ∃ n length, Spells .v6 address n ∧ SizeSpelling .v6 mask length ∧
      containing .v6 n length "" = c := by
  simp only [v6_eq plain, Option.bind_eq_some_iff, Option.map_eq_some_iff, v6_iff, lengthOf_iff,
    Spells, exists_and_left]

/-- No text is an address of both versions. -/
theorem v4_none_of_v6 (spelled : V6Spelling address n) : v4? address mask = none := by
  refine Option.eq_none_iff_forall_ne_some.mpr (fun c read => ?_)
  obtain ⟨m, _, ⟨-, rfl⟩, -⟩ := v4_range.mp read
  exact notMem_v4Text m (by decide) rfl spelled.colon

theorem either_range (plain : '%' ∉ address) :
    (v4? address mask).or (v6? address mask) = some c ↔
      ∃ version n length, Spells version address n ∧ SizeSpelling version mask length ∧
        containing version n length "" = c := by
  rw [Option.or_eq_some_iff]
  constructor
  · rintro (four | ⟨-, six⟩)
    · exact ⟨.v4, v4_range.mp four⟩
    · exact ⟨.v6, (v6_range plain).mp six⟩
  · rintro ⟨version, n, length, spelled, rest⟩
    cases version with
    | v4 => exact .inl (v4_range.mpr ⟨n, length, spelled, rest⟩)
    | v6 => exact .inr ⟨v4_none_of_v6 spelled, (v6_range plain).mpr ⟨n, length, spelled, rest⟩⟩

theorem Spells.notMem (spelled : Spells version address n) {c : Char} (other : hexDigit? c = none)
    (point : c ≠ '.') (colon : c ≠ ':') : c ∉ address := by
  cases version with
  | v4 => exact spelled.2 ▸ notMem_v4Text n point (isAsciiDigit_of_notHex other)
  | v6 => exact V6Spelling.notMem spelled other point colon

theorem LengthSpelling.notMem (spelled : LengthSpelling version size length) {c : Char}
    (other : isAsciiDigit c = false) (point : c ≠ '.') : c ∉ size := by
  cases spelled with
  | number _ digits _ _ =>
    intro among
    cases other.symm.trans (digits c among)
  | netmask | hostmask => exact notMem_v4Text _ point other

/-- What is read as a network is what is spelled as one. -/
theorem ofText_iff (plain : '%' ∉ s) : ofText? s = some c ↔
    ∃ version n length, RangeSpelling s version n length ∧ c.Covers version n length := by
  simp only [covers_iff]
  constructor
  · intro read
    have joined := joinWith_splitAtChar '/' s
    unfold ofText? at read
    split at read
    · next address cut =>
      rw [cut] at joined
      cases joined
      obtain ⟨version, n, length, spelled, sized, rfl⟩ := (either_range plain).mp read
      cases sized
      exact ⟨version, n, _, .single spelled, rfl⟩
    · next address size cut =>
      rw [cut] at joined
      have whole : address ++ '/' :: size = s := by simpa [joinWith] using joined
      subst whole
      have bare : '%' ∉ address := fun among => plain (List.mem_append_left _ among)
      obtain ⟨version, n, length, spelled, sized, rfl⟩ := (either_range bare).mp read
      cases sized with
      | given sized => exact ⟨version, n, length, .sized spelled sized, rfl⟩
    · cases read
  · rintro ⟨version, n, length, spelled, rfl⟩
    cases spelled with
    | single spelled =>
      have cut := splitAtChar_of_none (spelled.notMem (c := '/') rfl (by decide) (by decide))
      simp only [ofText?, cut]
      exact (either_range plain).mpr ⟨version, n, _, spelled, .none, rfl⟩
    | @sized _ address size _ _ spelled sized =>
      have cut : splitAtChar '/' (address ++ '/' :: size) = [address, size] := by
        rw [splitAtChar_append (spelled.notMem rfl (by decide) (by decide)),
          splitAtChar_of_none (sized.notMem rfl (by decide))]
      have bare : '%' ∉ address := fun among => plain (List.mem_append_left _ among)
      simp only [ofText?, cut]
      exact (either_range bare).mpr ⟨version, n, length, spelled, .given sized, rfl⟩

theorem RangeSpelling.plain (spelled : RangeSpelling s version n length) : '%' ∉ s := by
  cases spelled with
  | single spelled => exact spelled.notMem rfl (by decide) (by decide)
  | sized spelled sized =>
    rw [List.mem_append, List.mem_cons]
    rintro (before | slash | behind)
    · exact spelled.notMem rfl (by decide) (by decide) before
    · cases slash
    · exact sized.notMem rfl (by decide) behind

/-- Each length that an address has room for is spelled by its digits. -/
theorem lengthSpelling_decimal (short : length ≤ version.bits) :
    LengthSpelling version (decimal length) length := by
  obtain ⟨some, digits, few, small, same⟩ := lengthNumber_iff.mp (lengthNumber_decimal short)
  have spelled := LengthSpelling.number some digits few small
  rwa [same] at spelled

end ClusterManifest.Cidr
