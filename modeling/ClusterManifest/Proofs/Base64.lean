import ClusterManifest.Base64

/-! Which texts a strict reader of base 64 takes: data in the alphabet, and then padding that fills
up the last four characters. It also passes over padding after whole quads, where there is nothing
to fill up. What is encoded is padded as it should be. -/

namespace ClusterManifest.Base64

/-- A character that stands for six bits. -/
def InAlphabet (c : Char) : Prop :=
  ('A' ≤ c ∧ c ≤ 'Z') ∨ ('a' ≤ c ∧ c ≤ 'z') ∨ ('0' ≤ c ∧ c ≤ '9') ∨ c = '+' ∨ c = '/'

/-- Data, and at most two signs of padding that make whole quads of it. -/
def Padded (s : List Char) : Prop :=
  ∃ data pads, s = data ++ List.replicate pads '=' ∧ (∀ c ∈ data, InAlphabet c) ∧ pads ≤ 2 ∧
    s.length % 4 = 0

/-- Whole quads of data, and padding that fills up nothing. -/
def Overpadded (s : List Char) : Prop :=
  ∃ data pads, s = data ++ List.replicate pads '=' ∧ (∀ c ∈ data, InAlphabet c) ∧ data ≠ [] ∧
    data.length % 4 = 0 ∧ 0 < pads

theorem sextet_isSome {c : Char} : (sextet? c).isSome = true ↔ InAlphabet c := by
  have toNat (first : Char) : first ≤ c ↔ first.toNat ≤ c.toNat := Iff.rfl
  have toNat' (last : Char) : c ≤ last ↔ c.toNat ≤ last.toNat := Iff.rfl
  simp only [InAlphabet, toNat, toNat', sextet?]
  grind

theorem not_inAlphabet_pad : ¬InAlphabet '=' := by
  rw [← sextet_isSome]
  decide

theorem exists_replicate_cons {α : Type} {a : α} {s : List α} {P : Nat → Prop} :
    (∃ n, a :: s = List.replicate n a ∧ P n) ↔ ∃ n, s = List.replicate n a ∧ P (n + 1) := by
  constructor
  · rintro ⟨n, same, holds⟩
    cases n with
    | zero => cases same
    | succ n => exact ⟨n, (List.cons.inj same).2, holds⟩
  · rintro ⟨n, rfl, holds⟩
    exact ⟨n + 1, rfl, holds⟩

/-- A character that is no padding is the first of the data. -/
theorem exists_data_cons {c : Char} {s : List Char} {P : Nat → Nat → Prop} (sign : c ≠ '=') :
    (∃ data pads, c :: s = data ++ List.replicate pads '=' ∧ (∀ c ∈ data, InAlphabet c) ∧
        P data.length pads) ↔
      InAlphabet c ∧ ∃ data pads, s = data ++ List.replicate pads '=' ∧
        (∀ c ∈ data, InAlphabet c) ∧ P (data.length + 1) pads := by
  constructor
  · rintro ⟨data, pads, same, all, holds⟩
    cases data with
    | nil =>
      have among : c ∈ List.replicate pads '=' := by
        rw [← List.nil_append (List.replicate pads '='), ← same]
        exact List.mem_cons_self ..
      exact absurd (List.eq_of_mem_replicate among) sign
    | cons d data =>
      cases same
      obtain ⟨plain, others⟩ := List.forall_mem_cons.mp all
      exact ⟨plain, data, pads, rfl, others, holds⟩
  · rintro ⟨plain, data, pads, rfl, others, holds⟩
    exact ⟨c :: data, pads, rfl, List.forall_mem_cons.mpr ⟨plain, others⟩, holds⟩

theorem sextetsFrom_nil {count pads : Nat} {padded : Bool} :
    (sextetsFrom true count pads padded []).isSome = true ↔ count % 4 = 0 := by
  rw [sextetsFrom]
  split <;> simp_all

/-- Data is taken where no padding has begun. -/
theorem sextetsFrom_cons {count pads : Nat} {padded : Bool} {c : Char} {s : List Char}
    (sign : c ≠ '=') :
    (sextetsFrom true count pads padded (c :: s)).isSome = true ↔
      InAlphabet c ∧ padded = false ∧ (sextetsFrom true (count + 1) 0 padded s).isSome = true := by
  rw [sextetsFrom, if_neg sign, ← sextet_isSome]
  cases sextet? c <;> cases padded <;> simp

/-- Once padding has begun, nothing but padding may follow: as much as the open quad lacks, and any
number of signs where none is open. -/
theorem padding_iff {count pads : Nat} {s : List Char} (unfilled : count % 4 + pads < 4) :
    (sextetsFrom true count pads true s).isSome = true ↔
      ∃ more, s = List.replicate more '=' ∧
        (count % 4 = 0 ∨ 2 ≤ count % 4 ∧ count % 4 + pads + more = 4) := by
  induction s generalizing pads with
  | nil =>
    rw [sextetsFrom_nil]
    constructor
    · intro whole
      exact ⟨0, rfl, .inl whole⟩
    · rintro ⟨more, none, fills⟩
      have : more = 0 := by simpa using none.symm
      omega
  | cons c s ih =>
    by_cases sign : c = '='
    · subst sign
      rw [sextetsFrom, if_pos rfl, exists_replicate_cons]
      split
      · next early =>
        rw [ih unfilled]
        exact exists_congr fun more => and_congr_right fun _ => by omega
      · split
        · next late lacks =>
          rw [ih lacks]
          exact exists_congr fun more => and_congr_right fun _ => by omega
        · next late filled =>
          -- The sign fills the quad up, so it is the last one.
          have last : (∃ more, s = List.replicate more '=' ∧
              (count % 4 = 0 ∨ 2 ≤ count % 4 ∧ count % 4 + pads + (more + 1) = 4)) ↔ s = [] := by
            constructor
            · rintro ⟨more, rfl, fills⟩
              have : more = 0 := by omega
              rw [this, List.replicate_zero]
            · rintro rfl
              exact ⟨0, rfl, by omega⟩
          rw [last]
          cases s <;> simp
    · rw [sextetsFrom_cons sign]
      constructor
      · rintro ⟨-, ⟨⟩, -⟩
      · rintro ⟨more, same, -⟩
        have among : c ∈ List.replicate more '=' := same ▸ List.mem_cons_self ..
        exact absurd (List.eq_of_mem_replicate among) sign

/-- From the start, or after some data, more data may come and then padding. -/
theorem sextetsFrom_iff {count : Nat} {s : List Char} :
    (sextetsFrom true count 0 false s).isSome = true ↔
      ∃ data pads, s = data ++ List.replicate pads '=' ∧ (∀ c ∈ data, InAlphabet c) ∧
        ((count + data.length) % 4 = 0 ∨
          2 ≤ (count + data.length) % 4 ∧ (count + data.length) % 4 + pads = 4) := by
  induction s generalizing count with
  | nil =>
    rw [sextetsFrom_nil]
    constructor
    · intro whole
      exact ⟨[], 0, rfl, by simp, .inl whole⟩
    · rintro ⟨data, pads, none, -, fills⟩
      obtain ⟨rfl, padless⟩ := List.append_eq_nil_iff.mp none.symm
      have : pads = 0 := by simpa using padless
      rw [List.length_nil] at fills
      omega
  | cons c s ih =>
    by_cases sign : c = '='
    · subst sign
      have begun : sextetsFrom true count 0 false ('=' :: s) =
          sextetsFrom true count 0 true ('=' :: s) := by
        simp only [sextetsFrom, if_pos]
      rw [begun, padding_iff (by omega)]
      constructor
      · rintro ⟨more, same, fills⟩
        exact ⟨[], more, same, by simp, by simpa using fills⟩
      · rintro ⟨data, pads, same, plain, fills⟩
        cases data with
        | nil => exact ⟨pads, same, by simpa using fills⟩
        | cons d data =>
          cases same
          exact absurd (plain '=' (List.mem_cons_self ..)) not_inAlphabet_pad
    · have first := exists_data_cons (s := s) (P := fun length pads =>
        (count + length) % 4 = 0 ∨ 2 ≤ (count + length) % 4 ∧ (count + length) % 4 + pads = 4) sign
      rw [first, sextetsFrom_cons sign, ih]
      simp only [true_and, Nat.add_right_comm count 1, Nat.add_assoc]

/-- Data with the padding that it lacks is taken, and whole quads with any padding. -/
theorem isStrict_parts {data : List Char} {pads : Nat} (plain : ∀ c ∈ data, InAlphabet c)
    (fills : data.length % 4 = 0 ∨ 2 ≤ data.length % 4 ∧ data.length % 4 + pads = 4)
    (begins : data ≠ [] ∨ pads = 0) : isStrict (data ++ List.replicate pads '=') = true := by
  have first : (data ++ List.replicate pads '=').head? ≠ some '=' := by
    cases data with
    | nil =>
      have none : pads = 0 := begins.resolve_left (fun some => some rfl)
      simp [none]
    | cons c data =>
      intro same
      cases Option.some.inj same
      exact not_inAlphabet_pad (plain '=' (List.mem_cons_self ..))
  unfold isStrict sextets?
  rw [if_neg (by simpa using first), sextetsFrom_iff]
  exact ⟨data, pads, rfl, plain, by simpa using fills⟩

/-- A strict reader takes what is padded as it should be, and whole quads with padding besides. -/
theorem isStrict_iff {s : List Char} : isStrict s = true ↔ Padded s ∨ Overpadded s := by
  constructor
  · intro taken
    have inside : s.head? ≠ some '=' ∧ (sextetsFrom true 0 0 false s).isSome = true := by
      unfold isStrict sextets? at taken
      split at taken
      · cases taken
      · next first => exact ⟨by simpa using first, taken⟩
    obtain ⟨data, pads, rfl, plain, fills⟩ := sextetsFrom_iff.mp inside.2
    rw [Nat.zero_add] at fills
    by_cases whole : data.length % 4 = 0 ∧ 0 < pads
    · refine .inr ⟨data, pads, rfl, plain, ?_, whole⟩
      rintro rfl
      obtain ⟨more, rfl⟩ := Nat.exists_eq_add_one.mpr whole.2
      exact inside.1 rfl
    · refine .inl ⟨data, pads, rfl, plain, by omega, ?_⟩
      rw [List.length_append, List.length_replicate]
      omega
  · rintro (⟨data, pads, rfl, plain, few, whole⟩ | ⟨data, pads, rfl, plain, some, whole, -⟩)
    · rw [List.length_append, List.length_replicate] at whole
      refine isStrict_parts plain (by omega) ?_
      by_cases none : data = []
      · subst none
        exact .inr (by simp at whole; omega)
      · exact .inl none
    · exact isStrict_parts plain (.inl whole) (.inl some)

theorem count_pads {data : List Char} {pads : Nat} (plain : ∀ c ∈ data, InAlphabet c) :
    (data ++ List.replicate pads '=').count '=' = pads := by
  have none : data.count '=' = 0 :=
    List.count_eq_zero.mpr (fun among => not_inAlphabet_pad (plain '=' among))
  simp [none]

theorem Overpadded.not_padded {s : List Char} (extra : Overpadded s) : ¬Padded s := by
  obtain ⟨data, pads, rfl, plain, -, whole, some⟩ := extra
  rintro ⟨data', pads', same, plain', few, whole'⟩
  have counted : pads = pads' := by
    have signs : (data ++ List.replicate pads '=').count '=' = pads := count_pads plain
    rwa [same, count_pads plain', eq_comm] at signs
  rw [List.length_append, List.length_replicate] at whole'
  omega

theorem inAlphabet_sextetChar {n : Nat} (small : n < 64) : InAlphabet (sextetChar n) := by
  have all : ∀ n < 64, (sextet? (sextetChar n)).isSome = true := by decide
  exact sextet_isSome.mp (all n small)

theorem Padded.quad {a b c d : Nat} {s : List Char} (within : a < 64 ∧ b < 64 ∧ c < 64 ∧ d < 64)
    (padded : Padded s) :
    Padded (sextetChar a :: sextetChar b :: sextetChar c :: sextetChar d :: s) := by
  obtain ⟨data, pads, rfl, plain, few, whole⟩ := padded
  obtain ⟨ha, hb, hc, hd⟩ := within
  refine ⟨sextetChar a :: sextetChar b :: sextetChar c :: sextetChar d :: data, pads, rfl, ?_, few,
    ?_⟩
  · simp only [List.forall_mem_cons, inAlphabet_sextetChar ha, inAlphabet_sextetChar hb,
      inAlphabet_sextetChar hc, inAlphabet_sextetChar hd, true_and]
    exact plain
  · simp only [List.length_cons]
    omega

/-- What is encoded is padded, whatever the bytes. -/
theorem padded_encode (bytes : Text.Bytes) : Padded (encode bytes) := by
  fun_induction encode bytes with
  | case1 a b c rest ih =>
    have := a.toNat_lt
    have := b.toNat_lt
    have := c.toNat_lt
    exact ih.quad (by omega)
  | case2 a b =>
    have := a.toNat_lt
    have := b.toNat_lt
    refine ⟨[sextetChar (a.toNat / 4), sextetChar (a.toNat % 4 * 16 + b.toNat / 16),
      sextetChar (b.toNat % 16 * 4)], 1, rfl, ?_, by decide, by simp⟩
    simp only [List.forall_mem_cons, List.not_mem_nil, false_implies, implies_true, and_true]
    exact ⟨inAlphabet_sextetChar (by omega), inAlphabet_sextetChar (by omega),
      inAlphabet_sextetChar (by omega)⟩
  | case3 a =>
    have := a.toNat_lt
    refine ⟨[sextetChar (a.toNat / 4), sextetChar (a.toNat % 4 * 16)], 2, rfl, ?_, by decide,
      by simp⟩
    simp only [List.forall_mem_cons, List.not_mem_nil, false_implies, implies_true, and_true]
    exact ⟨inAlphabet_sextetChar (by omega), inAlphabet_sextetChar (by omega)⟩
  | case4 => exact ⟨[], 0, rfl, by simp, by decide, rfl⟩

theorem encode_ne_nil {bytes : Text.Bytes} (some : bytes ≠ []) : encode bytes ≠ [] := by
  fun_cases encode bytes <;> simp_all

end ClusterManifest.Base64
