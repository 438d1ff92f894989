import Mathlib.Data.List.Forall2
import Mathlib.Logic.Relator
import ClusterManifest.Proofs.Schema.Fitting

/-! Checks of two values side by side: what the one is accepted as, the other is accepted as too, or
as something alike. Such pairs of checks are put together as checks are. The fields of two mappings
are alike where the mappings differ in their order, in other keys, or in a key's name. -/

namespace ClusterManifest

namespace Value

variable {entries others : List (Scalar × Value)} {name : String} {v : Value}

theorem lookup_iff (distinct : (entries.map Prod.fst).Nodup) :
    lookup? name entries = some v ↔ (.text name, v) ∈ entries := by
  induction entries with
  | nil => simp [lookup?]
  | cons entry entries ih =>
    obtain ⟨key, w⟩ := entry
    obtain ⟨new, rest⟩ := List.nodup_cons.mp distinct
    rw [lookup_cons, List.mem_cons]
    by_cases same : key = .text name
    · subst same
      have none : (Scalar.text name, v) ∉ entries :=
        fun among => new (List.mem_map.mpr ⟨_, among, rfl⟩)
      simp [none, eq_comm]
    · simp [same, ih rest, Ne.symm same]

theorem lookup_perm (distinct : (entries.map Prod.fst).Nodup) (same : others.Perm entries)
    (name : String) : lookup? name others = lookup? name entries := by
  have alsoDistinct : (others.map Prod.fst).Nodup := (same.map Prod.fst).nodup_iff.mpr distinct
  exact Option.ext (fun v => by
    rw [lookup_iff alsoDistinct, lookup_iff distinct, same.mem_iff])

theorem sameKey_text_left (name : String) (key : Scalar) :
    (Scalar.text name).sameKey key = decide (key = .text name) := by
  cases key with
  | text s => rw [sameKey_text, Bool.eq_iff_iff, decide_eq_true_iff, decide_eq_true_iff,
      Scalar.text.injEq, eq_comm]
  | float x => cases whole : x.toInt? <;> simp [Scalar.sameKey, Scalar.number?, whole]
  | null | bool | int | illFormed | bytes | date | moment =>
    simp [Scalar.sameKey, Scalar.number?]

/-- Whatever is put under a key, another name is looked up as before. -/
theorem lookup_put_key {key : Scalar} (value : Value) (differ : key ≠ .text name)
    (entries : List (Scalar × Value)) :
    lookup? name (put entries key value) = lookup? name entries := by
  induction entries with
  | nil => simp [put, lookup_cons, differ]
  | cons entry entries ih =>
    rw [put]
    split
    · next here =>
      have other : entry.1 ≠ .text name := by
        intro same
        rw [same, sameKey_text_left, decide_eq_true_iff] at here
        exact differ here
      simp [lookup_cons, other]
    · simp [lookup_cons, ih]

/-- The entries with another name for one of their keys. -/
def rename (old new : String) (entries : List (Scalar × Value)) : List (Scalar × Value) :=
  entries.map (fun entry => if entry.1 = .text old then (.text new, entry.2) else entry)

theorem rename_cons (old new : String) (entry : Scalar × Value) (entries : List (Scalar × Value)) :
    rename old new (entry :: entries) =
      (if entry.1 = .text old then (.text new, entry.2) else entry) :: rename old new entries := rfl

variable {old new : String}

theorem lookup_rename_other (first : name ≠ old) (second : name ≠ new)
    (entries : List (Scalar × Value)) :
    lookup? name (rename old new entries) = lookup? name entries := by
  induction entries with
  | nil => rfl
  | cons entry entries ih =>
    rw [rename_cons, lookup_cons, lookup_cons, ih]
    by_cases same : entry.1 = .text old
    · simp [same, Ne.symm first, Ne.symm second]
    · simp [same]

theorem lookup_rename_old (differ : old ≠ new) (entries : List (Scalar × Value)) :
    lookup? old (rename old new entries) = none := by
  induction entries with
  | nil => rfl
  | cons entry entries ih =>
    rw [rename_cons, lookup_cons, ih]
    by_cases same : entry.1 = .text old
    · simp [same, Ne.symm differ]
    · simp [same]

theorem lookup_rename_new (absent : lookup? new entries = none) :
    lookup? new (rename old new entries) = lookup? old entries := by
  induction entries with
  | nil => rfl
  | cons entry entries ih =>
    rw [lookup_cons] at absent
    by_cases here : entry.1 = .text new
    · simp [here] at absent
    · rw [if_neg here] at absent
      rw [rename_cons, lookup_cons, lookup_cons, ih absent]
      by_cases same : entry.1 = .text old <;> simp [same, here]

end Value

namespace Schema

open Checked Relator

variable {α β γ δ : Type} {R : α → β → Prop} {S : γ → δ → Prop} {names : List String}
  {entries others : List (Scalar × Value)}

/-- What the first check accepts, the second one accepts too, as something alike. -/
def Kept (R : α → β → Prop) (c : Checked α) (d : Checked β) : Prop :=
  ∀ x, c = .valid x → ∃ y, d = .valid y ∧ R x y

namespace Kept

variable {c : Checked α} {d : Checked β}

theorem valid {x : α} {y : β} (alike : R x y) : Kept R (.valid x) (.valid y) := by
  rintro _ ⟨⟩
  exact ⟨y, rfl, alike⟩

theorem refl {R : α → α → Prop} (alike : ∀ x, R x x) (c : Checked α) : Kept R c c :=
  fun x accepted => ⟨x, accepted, alike x⟩

theorem refused (refused : ∀ x, c ≠ .valid x) : Kept R c d :=
  fun x accepted => absurd accepted (refused x)

theorem part {build : Checked (α → γ)} {other : Checked (β → δ)}
    (built : Kept (R ⇒ S) build other) (next : Kept R c d) :
    Kept S (build.part c) (other.part d) := by
  intro z accepted
  obtain ⟨f, x, first, second, rfl⟩ := part_eq_valid.mp accepted
  obtain ⟨g, also, alike⟩ := built f first
  obtain ⟨y, and, same⟩ := next x second
  exact ⟨g y, part_eq_valid.mpr ⟨g, y, also, and, rfl⟩, alike same⟩

theorem under (kept : Kept R c d) (step other : Step) : Kept R (c.under step) (d.under other) := by
  intro x accepted
  obtain ⟨y, also, alike⟩ := kept x (under_eq_valid.mp accepted)
  exact ⟨y, under_eq_valid.mpr also, alike⟩

theorem map {f : α → γ} {g : β → δ} (kept : Kept R c d) (alike : (R ⇒ S) f g) :
    Kept S (c.map f) (d.map g) := by
  intro z accepted
  obtain ⟨x, first, rfl⟩ := map_eq_valid.mp accepted
  obtain ⟨y, also, same⟩ := kept x first
  exact ⟨g y, map_eq_valid.mpr ⟨y, also, rfl⟩, alike same⟩

theorem mono {R' : α → β → Prop} (kept : Kept R c d) (weaker : ∀ x y, R x y → R' x y) :
    Kept R' c d := by
  intro x accepted
  obtain ⟨y, also, alike⟩ := kept x accepted
  exact ⟨y, also, weaker x y alike⟩

end Kept

theorem rel_self {R : α → α → Prop} (alike : ∀ x, R x x) (o : Option α) : Option.Rel R o o := by
  cases o with
  | none => exact .none
  | some x => exact .some (alike x)

theorem rel_trans {R : α → α → Prop} (trans : ∀ x y z, R x y → R y z → R x z)
    {o p q : Option α} (first : Option.Rel R o p) (second : Option.Rel R p q) :
    Option.Rel R o q := by
  cases first with
  | none => exact second
  | some alike =>
    cases second with
    | some also => exact .some (trans _ _ _ alike also)

theorem eq_of_rel {o p : Option α} (same : Option.Rel Eq o p) : o = p := by
  cases same with
  | none => rfl
  | some same => rw [same]

/-- The value under the first of the names that is there. -/
def value? (entries : List (Scalar × Value)) (names : List String) : Option Value :=
  (find? entries names).map Prod.snd

theorem value_cons (name : String) (names : List String) (entries : List (Scalar × Value)) :
    value? entries (name :: names) = (Value.lookup? name entries).or (value? entries names) := by
  rw [value?, find?]
  cases Value.lookup? name entries <;> rfl

theorem value_congr (same : ∀ name ∈ names,
    Value.lookup? name others = Value.lookup? name entries) :
    value? others names = value? entries names := by
  rw [value?, value?, find_congr same]

/-- Values that are alike under each name are alike under the first that is there. -/
theorem value_rel {r : Value → Value → Prop} (alike : ∀ name ∈ names,
    Option.Rel r (Value.lookup? name entries) (Value.lookup? name others)) :
    Option.Rel r (value? entries names) (value? others names) := by
  induction names with
  | nil => exact .none
  | cons name names ih =>
    rw [List.forall_mem_cons] at alike
    rw [value_cons, value_cons]
    obtain ⟨here, rest⟩ := alike
    generalize Value.lookup? name entries = o, Value.lookup? name others = p at here
    cases here with
    | some same => exact .some same
    | none => exact ih rest

theorem orElse_eq_valid {check : Value → Checked α} {fallback : Checked α} {x : α} :
    Manifest.orElse names check fallback entries = .valid x ↔
      (∃ v, value? entries names = some v ∧ check v = .valid x) ∨
        value? entries names = none ∧ fallback = .valid x := by
  unfold Manifest.orElse value?
  cases find? entries names with
  | none => simp
  | some field => simp [under_eq_valid]

theorem kept_orElse {r : Value → Value → Prop} {check : Value → Checked α}
    {other : Value → Checked β} {fallback : Checked α} {instead : Checked β}
    (found : Option.Rel r (value? entries names) (value? others names))
    (each : ∀ v w, r v w → Kept R (check v) (other w)) (fallen : Kept R fallback instead) :
    Kept R (Manifest.orElse names check fallback entries)
      (Manifest.orElse names other instead others) := by
  intro x accepted
  rcases orElse_eq_valid.mp accepted with ⟨v, there, checked⟩ | ⟨absent, checked⟩
  · rw [there] at found
    generalize beside : value? others names = o at found
    cases found with
    | some alike =>
      obtain ⟨y, also, same⟩ := each _ _ alike x checked
      exact ⟨y, orElse_eq_valid.mpr (.inl ⟨_, beside, also⟩), same⟩
  · rw [absent] at found
    generalize beside : value? others names = o at found
    cases found with
    | none =>
      obtain ⟨y, also, same⟩ := fallen x checked
      exact ⟨y, orElse_eq_valid.mpr (.inr ⟨beside, also⟩), same⟩

end Schema

end ClusterManifest
