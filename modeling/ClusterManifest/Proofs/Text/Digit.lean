import ClusterManifest.Text.Digit

/-! Numbers in digits: of which characters they are made, and that they are worth what they
write. -/

namespace ClusterManifest.Text

theorem mem_toDigits {base n : Nat} {c : Char} (wide : 1 < base)
    (within : c ∈ Nat.toDigits base n) : ∃ m < base, c = Nat.digitChar m := by
  induction n using Nat.strongRecOn with
  | ind n ih =>
    by_cases small : n < base
    · rw [Nat.toDigits_of_lt_base small, List.mem_singleton] at within
      exact ⟨n, small, within⟩
    · rw [Nat.toDigits_of_base_le wide (by omega), List.mem_append, List.mem_singleton] at within
      rcases within with higher | last
      · exact ih (n / base) (Nat.div_lt_self (by omega) wide) higher
      · exact ⟨n % base, Nat.mod_lt _ (by omega), last⟩

theorem ofDigits_toDigits {base : Nat} {value : Char → Nat} (wide : 1 < base)
    (each : ∀ m < base, value (Nat.digitChar m) = m) (n : Nat) :
    ofDigits base ((Nat.toDigits base n).map value) = n := by
  induction n using Nat.strongRecOn with
  | ind n ih =>
    by_cases small : n < base
    · rw [Nat.toDigits_of_lt_base small]
      simp [ofDigits, each n small]
    · have higher := ih (n / base) (Nat.div_lt_self (by omega) wide)
      rw [Nat.toDigits_of_base_le wide (by omega), List.map_append, ofDigits, List.foldl_append]
      change ofDigits base _ * base + value (Nat.digitChar (n % base)) = n
      rw [higher, each _ (Nat.mod_lt _ (by omega)), Nat.mul_comm]
      exact Nat.div_add_mod n base

theorem ofDigits_lt {base : Nat} {digits : List Nat} (each : ∀ d ∈ digits, d < base) :
    ofDigits base digits < Nat.pow base digits.length := by
  have step : ∀ (ds : List Nat) (n bound : Nat), (∀ d ∈ ds, d < base) → n < bound →
      ds.foldl (fun n d => n * base + d) n < bound * base ^ ds.length := by
    intro ds
    induction ds with
    | nil => exact fun n bound _ below => by simpa using below
    | cons d ds ih =>
      intro n bound small below
      have first := small d (List.mem_cons_self ..)
      have grown : n * base + d < bound * base :=
        calc n * base + d < n * base + base := Nat.add_lt_add_left first _
          _ = (n + 1) * base := (Nat.succ_mul n base).symm
          _ ≤ bound * base := Nat.mul_le_mul_right base below
      have rest := ih _ _ (fun e he => small e (List.mem_cons_of_mem _ he)) grown
      rw [List.length_cons, Nat.pow_succ, Nat.mul_comm (base ^ ds.length), ← Nat.mul_assoc]
      exact rest
  simpa [ofDigits] using step digits 0 1 each Nat.one_pos

theorem isAsciiDigit_of_decimal {n : Nat} {c : Char} (within : c ∈ decimal n) :
    isAsciiDigit c = true := by
  obtain ⟨m, small, rfl⟩ := mem_toDigits (by decide) within
  have all : ∀ m < 10, isAsciiDigit (Nat.digitChar m) = true := by decide
  exact all m small

theorem decimal_ne_nil (n : Nat) : decimal n ≠ [] := Nat.toDigits_ne_nil

theorem decimal_head {n : Nat} (positive : 0 < n) :
    ∃ c t, decimal n = c :: t ∧ '1' ≤ c ∧ c ≤ '9' := by
  induction n using Nat.strongRecOn with
  | ind n ih =>
    by_cases small : n < 10
    · rw [decimal, Nat.toDigits_of_lt_base small]
      refine ⟨n.digitChar, [], rfl, ?_⟩
      have all : ∀ m < 10, 0 < m → '1' ≤ Nat.digitChar m ∧ Nat.digitChar m ≤ '9' := by decide
      exact all n small positive
    · obtain ⟨c, t, first, low, high⟩ := ih (n / 10) (by omega) (by omega)
      rw [decimal] at first ⊢
      rw [Nat.toDigits_of_base_le (by decide) (by omega), first]
      exact ⟨c, _, rfl, low, high⟩

theorem digit_cases {p : Char → Prop} (all : ∀ m < 10, p (Nat.digitChar m)) {c : Char}
    (digit : isAsciiDigit c = true) : p c := by
  simp only [isAsciiDigit, Bool.and_eq_true, decide_eq_true_eq] at digit
  have same : c = Nat.digitChar (c.toNat - 48) := by
    apply Char.toNat_inj.mp
    rw [Nat.toNat_digitChar_of_lt_ten (by omega)]
    omega
  rw [same]
  exact all _ (by omega)

theorem ofDigits_decimal (n : Nat) : ofDigits 10 ((decimal n).map asciiDigitValue) = n :=
  ofDigits_toDigits (by decide) (by decide) n

theorem decimal_long {n digits : Nat} (long : Nat.pow 10 digits ≤ n) :
    digits < (decimal n).length := by
  rcases Nat.eq_zero_or_pos digits with rfl | positive
  · exact List.length_pos_iff.mpr (decimal_ne_nil n)
  · rw [← Nat.not_le, decimal, Nat.length_toDigits_le_iff (by decide) positive]
    exact Nat.not_lt.mpr long

theorem decimal_single {n : Nat} (zero : n = 0) : decimal n = ['0'] := by
  rw [zero]
  rfl

end ClusterManifest.Text
