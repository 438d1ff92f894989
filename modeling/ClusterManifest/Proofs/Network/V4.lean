import ClusterManifest.Network.Address
import ClusterManifest.Proofs.Text.Digit
import ClusterManifest.Proofs.Text.Split

/-! Addresses of version 4: the text of one is read as it, and what is read as one has four
numbers of eight bits. -/

namespace ClusterManifest.Network.Address

open Text

theorem octet_decimal : ∀ k < 256, octet? (decimal k) = some k := by decide +kernel

theorem notMem_decimal {c : Char} {n : Nat} (other : isAsciiDigit c = false) : c ∉ decimal n := by
  intro within
  rw [isAsciiDigit_of_decimal within] at other
  cases other

theorem notMem_v4Text {c : Char} (n : Nat) (other : c ≠ '.') (plain : isAsciiDigit c = false) :
    c ∉ v4Text n := by
  intro among
  rcases mem_joinWith among with here | ⟨piece, within, inside⟩
  · exact other (List.mem_singleton.mp here)
  · obtain ⟨k, -, rfl⟩ := List.mem_map.mp within
    exact notMem_decimal plain inside

theorem v4_v4Text {n : Nat} (small : n < Nat.pow 2 32) : v4? (v4Text n) = some n := by
  have pieces : splitAtChar '.' (v4Text n) =
      [n / 16777216, n / 65536, n / 256, n].map (fun k => decimal (k % 256)) := by
    refine splitAtChar_joinWith (by simp) ?_
    intro piece among
    obtain ⟨k, -, rfl⟩ := List.mem_map.mp among
    exact notMem_decimal rfl
  have octet : ∀ k, octet? (decimal (k % 256)) = some (k % 256) :=
    fun k => octet_decimal _ (Nat.mod_lt _ (by decide))
  simp only [v4?, pieces, List.map_cons, List.map_nil, octet, ofDigits, List.foldl_cons,
    List.foldl_nil]
  rw [Nat.pow_eq] at small
  congr 1
  omega

theorem octet_some {s : List Char} {n : Nat} (read : octet? s = some n) :
    (∀ c ∈ s, isAsciiDigit c = true) ∧ n < 256 := by
  unfold octet? at read
  dsimp only at read
  split at read
  · cases read
  · next digits =>
    simp only [Bool.or_eq_true, Bool.not_eq_true', decide_eq_true_eq, not_or,
      Bool.not_eq_false, List.all_eq_true] at digits
    split at read
    · cases read
    · split at read
      · cases read
      · next small =>
        cases read
        exact ⟨digits.1.2, by omega⟩

theorem v4_some {s : List Char} {n : Nat} (read : v4? s = some n) :
    ∃ a b c d, (splitAtChar '.' s).map octet? = [some a, some b, some c, some d] ∧
      ofDigits 256 [a, b, c, d] = n := by
  unfold v4? at read
  split at read
  · next a b c d same => exact ⟨a, b, c, d, same, Option.some.inj read⟩
  · cases read

theorem v4_lt {s : List Char} {n : Nat} (read : v4? s = some n) : n < Nat.pow 2 32 := by
  obtain ⟨a, b, c, d, octets, rfl⟩ := v4_some read
  have each : ∀ k ∈ [a, b, c, d], k < 256 := by
    intro k among
    have inside : some k ∈ (splitAtChar '.' s).map octet? := by
      rw [octets]
      simpa using among
    obtain ⟨piece, -, same⟩ := List.mem_map.mp inside
    exact (octet_some same).2
  have below := ofDigits_lt each
  simp only [List.length_cons, List.length_nil] at below
  omega

theorem v4_none {s t : List Char} {c : Char} (within : c ∈ s) (whole : '.' ∉ s)
    (other : isAsciiDigit c = false) : v4? (s ++ t) = none := by
  cases read : v4? (s ++ t) with
  | none => rfl
  | some n =>
    obtain ⟨a, b, d, e, octets, -⟩ := v4_some read
    exfalso
    have first : ∃ rest pieces, splitAtChar '.' (s ++ t) = (s ++ rest) :: pieces := by
      clear read octets within other
      induction s with
      | nil =>
        cases cut : splitAtChar '.' t with
        | nil => exact absurd cut (splitWhere_ne_nil _ _)
        | cons piece pieces => exact ⟨piece, pieces, cut⟩
      | cons d s ih =>
        obtain ⟨rest, pieces, same⟩ := ih (fun h => whole (List.mem_cons_of_mem _ h))
        have plain : (d == '.') = false :=
          beq_eq_false_iff_ne.mpr (fun h => whole (h ▸ List.mem_cons_self ..))
        refine ⟨rest, pieces, ?_⟩
        rw [splitAtChar] at same ⊢
        simp [splitWhere, plain, same]
    obtain ⟨rest, pieces, same⟩ := first
    rw [same, List.map_cons] at octets
    have digit := (octet_some (List.cons.inj octets).1).1 c (List.mem_append_left _ within)
    rw [digit] at other
    cases other

end ClusterManifest.Network.Address
