import ClusterManifest.Proofs.Network.Cidr
import ClusterManifest.Schema.Field

/-! What a check accepted: where an accepted value comes from, and that what is written for a
value is accepted as it. -/

namespace ClusterManifest.Schema

variable {α : Type} {names : List String} {check : Value → Checked α}
  {entries : List (Scalar × Value)} {x : α}

open Checked

theorem Checked.valid_of_value {c : Checked α} (some : c.value? = some x) : c = .valid x := by
  cases c with
  | valid y => rw [Option.some.inj some]
  | invalid issues => cases some

theorem required_valid (accepted : required names check entries = .valid x) :
    ∃ v, check v = .valid x := by
  unfold required at accepted
  split at accepted
  · exact ⟨_, under_eq_valid.mp accepted⟩
  · cases under_eq_valid.mp accepted

theorem optional_valid {fallback : α}
    (accepted : optional names check fallback entries = .valid x) :
    x = fallback ∨ ∃ v, check v = .valid x := by
  unfold optional at accepted
  split at accepted
  · exact .inr ⟨_, under_eq_valid.mp accepted⟩
  · cases accepted
    exact .inl rfl

theorem optionalChecked_valid {fallback : Value}
    (accepted : optionalChecked names check fallback entries = .valid x) :
    ∃ v, check v = .valid x := by
  unfold optionalChecked at accepted
  split at accepted
  · exact ⟨_, under_eq_valid.mp accepted⟩
  · exact ⟨_, under_eq_valid.mp accepted⟩

theorem itemsFrom_valid {items : List Value} {index : Nat} {xs : List α}
    (accepted : itemsFrom check index items = .valid xs) :
    ∀ x ∈ xs, ∃ v, check v = .valid x := by
  induction items generalizing index xs with
  | nil =>
    cases accepted
    exact fun _ among => nomatch among
  | cons item items ih =>
    obtain ⟨cons, more, first, rest, rfl⟩ := part_eq_valid.mp accepted
    obtain ⟨build, y, made, one, rfl⟩ := part_eq_valid.mp first
    cases made
    intro x among
    rcases List.mem_cons.mp among with rfl | later
    · exact ⟨item, under_eq_valid.mp one⟩
    · exact ih rest x later

theorem list_valid {v : Value} {xs : List α} (accepted : list check v = .valid xs) :
    ∀ x ∈ xs, ∃ v, check v = .valid x := by
  unfold list at accepted
  split at accepted
  · cases accepted
  · exact itemsFrom_valid accepted

theorem network_valid {v : Value} {c : Cidr} (accepted : network v = .valid c) :
    c.WellFormed := by
  have option : ∀ {found : Option Cidr}, network.ofOption found = .valid c → found = some c := by
    intro found same
    cases found with
    | none => cases same
    | some d =>
      cases same
      rfl
  unfold network at accepted
  split at accepted
  · split at accepted
    · next found =>
      cases accepted
      exact Cidr.wellFormed_ofText found
    · cases accepted
  · cases accepted
  · exact Cidr.wellFormed_ofNumber (option accepted)
  · exact Cidr.wellFormed_ofNumber (option accepted)
  · exact Cidr.wellFormed_ofBytes (option accepted)
  · cases accepted

theorem count_valid {v : Value} {n : Nat} : count v = .valid n ↔ integer v = .valid (n : Int) := by
  unfold count
  rw [bind_eq_valid]
  constructor
  · rintro ⟨z, whole, kept⟩
    split at kept
    · cases kept
    · next positive =>
      cases kept
      rw [whole, Int.toNat_of_nonneg (Int.not_lt.mp positive)]
  · intro whole
    refine ⟨n, whole, ?_⟩
    rw [if_neg (Int.not_lt.mpr (Int.natCast_nonneg n)), Int.toNat_natCast]

section PutNames

variable {α β : Type} [DecidableEq α]

theorem names_putName (made : List (α × β)) (name : α) (value : β) :
    (putName made name value).map Prod.fst =
      if name ∈ made.map Prod.fst then made.map Prod.fst else made.map Prod.fst ++ [name] := by
  induction made with
  | nil => rfl
  | cons entry made ih =>
    unfold putName
    split
    · next here =>
      subst here
      simp
    · next other =>
      rw [List.map_cons, ih]
      by_cases later : name ∈ made.map Prod.fst
      · simp [later]
      · simp [later, Ne.symm other]

theorem nodup_putName {made : List (α × β)} (distinct : (made.map Prod.fst).Nodup)
    (name : α) (value : β) : ((putName made name value).map Prod.fst).Nodup := by
  rw [names_putName]
  split
  · exact distinct
  · next none =>
    rw [List.nodup_append]
    refine ⟨distinct, by simp, ?_⟩
    intro a among b last
    rw [List.mem_singleton] at last
    subst last
    exact fun same => none (same ▸ among)

theorem mem_putNames {settings : List (α × β)} {name : α} :
    name ∈ (putNames settings).map Prod.fst ↔ name ∈ settings.map Prod.fst := by
  have grows : ∀ made : List (α × β),
      name ∈ (settings.foldl (fun made setting => putName made setting.1 setting.2) made).map
        Prod.fst ↔ name ∈ made.map Prod.fst ∨ name ∈ settings.map Prod.fst := by
    induction settings with
    | nil => simp
    | cons setting settings ih =>
      intro made
      rw [List.foldl_cons, ih, names_putName]
      split
      · next there => by_cases same : name = setting.1 <;> simp_all
      · simp [or_assoc]
  exact (grows []).trans (by simp)

theorem nodup_putNames (settings : List (α × β)) : ((putNames settings).map Prod.fst).Nodup := by
  have keeps : ∀ made : List (α × β), (made.map Prod.fst).Nodup →
      ((settings.foldl (fun made setting => putName made setting.1 setting.2) made).map
        Prod.fst).Nodup := by
    induction settings with
    | nil => exact fun _ distinct => distinct
    | cons setting settings ih =>
      exact fun made distinct => ih _ (nodup_putName distinct setting.1 setting.2)
  exact keeps [] List.nodup_nil

end PutNames

theorem textMapping_nodup {v : Value} {pairs : List (Phrase × Phrase)}
    (accepted : textMapping v = .valid pairs) : (pairs.map Prod.fst).Nodup := by
  unfold textMapping at accepted
  split at accepted
  · obtain ⟨settings, -, rfl⟩ := map_eq_valid.mp accepted
    exact nodup_putNames settings
  · cases accepted

end ClusterManifest.Schema
