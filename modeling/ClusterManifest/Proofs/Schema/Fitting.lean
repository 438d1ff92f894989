import ClusterManifest.Proofs.Schema.Shortened

/-! What fits a schema, said apart from the checks: under which names a field is looked up, and
whether it has to be there. A check accepts a value just when the value fits. -/

namespace ClusterManifest

namespace Value

theorem sameKey_iff (key : Scalar) (name : String) :
    key.sameKey (.text name) = decide (key = .text name) := by
  cases key with
  | text s => rw [sameKey_text, Bool.eq_iff_iff, decide_eq_true_iff, decide_eq_true_iff,
      Scalar.text.injEq]
  | float x => cases whole : x.toInt? <;> simp [Scalar.sameKey, Scalar.number?, whole]
  | null | bool | int | illFormed | bytes | date | moment =>
    simp [Scalar.sameKey, Scalar.number?]

theorem lookup_cons (name : String) (entry : Scalar × Value) (entries : List (Scalar × Value)) :
    lookup? name (entry :: entries) =
      if entry.1 = .text name then some entry.2 else lookup? name entries := by
  by_cases same : entry.1 = .text name <;> simp [lookup?, sameKey_iff, same]

theorem put_cons (key : String) (value : Value) (entry : Scalar × Value)
    (entries : List (Scalar × Value)) :
    put (entry :: entries) (.text key) value =
      if entry.1 = .text key then (entry.1, value) :: entries
      else entry :: put entries (.text key) value := by
  simp [put, sameKey_iff]

theorem lookup_put_self (name : String) (value : Value) (entries : List (Scalar × Value)) :
    lookup? name (put entries (.text name) value) = some value := by
  induction entries with
  | nil => simp [put, lookup_cons]
  | cons entry entries ih =>
    by_cases same : entry.1 = .text name <;> simp [put_cons, lookup_cons, same, ih]

theorem lookup_put_other {name other : String} (value : Value) (differ : name ≠ other)
    (entries : List (Scalar × Value)) :
    lookup? name (put entries (.text other) value) = lookup? name entries := by
  induction entries with
  | nil =>
    simp [put, lookup_cons, Ne.symm differ]
  | cons entry entries ih =>
    by_cases same : entry.1 = .text other
    · simp [put_cons, lookup_cons, same, Ne.symm differ]
    · simp [put_cons, lookup_cons, same, ih]

end Value

namespace Schema

open Checked

variable {α β : Type} {check : Value → Checked α} {fits : Value → Prop} {names : List String}
  {entries : List (Scalar × Value)}

theorem find_congr {others : List (Scalar × Value)}
    (same : ∀ name ∈ names, Value.lookup? name others = Value.lookup? name entries) :
    find? others names = find? entries names := by
  induction names with
  | nil => rfl
  | cons name names ih =>
    rw [List.forall_mem_cons] at same
    simp only [find?, same.1, ih same.2]

theorem required_congr {others : List (Scalar × Value)}
    (same : ∀ name ∈ names, Value.lookup? name others = Value.lookup? name entries) :
    required names check others = required names check entries := by
  simp only [required, find_congr same]

theorem optional_congr {others : List (Scalar × Value)} {fallback : α}
    (same : ∀ name ∈ names, Value.lookup? name others = Value.lookup? name entries) :
    optional names check fallback others = optional names check fallback entries := by
  simp only [optional, find_congr same]

theorem required_put {other : String} (value : Value) (others : ∀ name ∈ names, name ≠ other) :
    required names check (Value.put entries (.text other) value) =
      required names check entries :=
  required_congr (fun name among => Value.lookup_put_other value (others name among) entries)

theorem optional_put {other : String} {fallback : α} (value : Value)
    (others : ∀ name ∈ names, name ≠ other) :
    optional names check fallback (Value.put entries (.text other) value) =
      optional names check fallback entries :=
  optional_congr (fun name among => Value.lookup_put_other value (others name among) entries)

def Checked.Accepted (checked : Checked α) : Prop := ∃ x, checked = .valid x

namespace Checked

@[simp] theorem accepted_valid (x : α) : (Checked.valid x).Accepted := ⟨x, rfl⟩

@[simp] theorem not_accepted_invalid (issues : List Issue) :
    ¬(Checked.invalid issues : Checked α).Accepted :=
  fun ⟨_, same⟩ => nomatch same

@[simp] theorem not_accepted_fail (fault : Fault) : ¬(fail fault : Checked α).Accepted :=
  not_accepted_invalid _

@[simp] theorem accepted_part {build : Checked (α → β)} {next : Checked α} :
    (build.part next).Accepted ↔ build.Accepted ∧ next.Accepted := by
  cases build <;> cases next <;> simp [Accepted, part]

@[simp] theorem accepted_under {step : Step} {checked : Checked α} :
    (checked.under step).Accepted ↔ checked.Accepted := by
  simp [Accepted, under_eq_valid]

@[simp] theorem accepted_map {f : α → β} {checked : Checked α} :
    (checked.map f).Accepted ↔ checked.Accepted := by
  cases checked <;> simp [Accepted, map]

end Checked

def Passes (check : Value → Checked α) (v : Value) : Prop := (check v).Accepted

/-- The value is found under the first of the names that is there. -/
inductive Named (entries : List (Scalar × Value)) : List String → Value → Prop
  | here {name : String} {names : List String} {v : Value} :
    Value.lookup? name entries = some v → Named entries (name :: names) v
  | later {name : String} {names : List String} {v : Value} :
    Value.lookup? name entries = none → Named entries names v → Named entries (name :: names) v

def Required (names : List String) (fits : Value → Prop) (entries : List (Scalar × Value)) : Prop :=
  ∃ v, Named entries names v ∧ fits v

def Optional (names : List String) (fits : Value → Prop) (entries : List (Scalar × Value)) : Prop :=
  ∀ v, Named entries names v → fits v

def Mapping (fits : List (Scalar × Value) → Prop) (v : Value) : Prop :=
  ∃ entries, v = .map entries ∧ fits entries

def Each (fits : Value → Prop) (v : Value) : Prop :=
  ∃ items, items? v = some items ∧ ∀ item ∈ items, fits item

def NullOr (fits : Value → Prop) (v : Value) : Prop := v = .scalar .null ∨ fits v

theorem named_iff {v : Value} :
    Named entries names v ↔ ∃ name, find? entries names = some (name, v) := by
  induction names with
  | nil =>
    constructor
    · exact fun named => nomatch named
    · rintro ⟨name, found⟩
      cases found
  | cons name names ih =>
    unfold find?
    cases found : Value.lookup? name entries with
    | some w =>
      constructor
      · intro named
        cases named with
        | here same =>
          cases found.symm.trans same
          exact ⟨name, rfl⟩
        | later absent _ => cases found.symm.trans absent
      · rintro ⟨_, same⟩
        cases same
        exact .here found
    | none =>
      rw [← ih]
      constructor
      · intro named
        cases named with
        | here same => cases found.symm.trans same
        | later _ named => exact named
      · exact .later found

theorem named_unique {v w : Value} (first : Named entries names v)
    (second : Named entries names w) : v = w := by
  obtain ⟨name, found⟩ := named_iff.mp first
  obtain ⟨other, same⟩ := named_iff.mp second
  cases found.symm.trans same
  rfl

theorem not_named {v : Value} (none : find? entries names = none) : ¬Named entries names v := by
  intro named
  obtain ⟨name, found⟩ := named_iff.mp named
  cases none.symm.trans found

theorem optional_cases {fallback x : α} (read : optional names check fallback entries = .valid x) :
    ((∀ v, ¬Named entries names v) ∧ x = fallback) ∨
      ∃ v, Named entries names v ∧ check v = .valid x := by
  unfold optional at read
  cases found : find? entries names with
  | none =>
    simp only [found, Checked.valid.injEq] at read
    exact .inl ⟨fun _ => not_named found, read.symm⟩
  | some field =>
    obtain ⟨name, v⟩ := field
    simp only [found] at read
    exact .inr ⟨v, named_iff.mpr ⟨name, found⟩, under_eq_valid.mp read⟩

theorem accepted_required :
    (required names check entries).Accepted ↔ Required names (Passes check) entries := by
  unfold required Required
  cases found : find? entries names with
  | none => simp [not_named found]
  | some field =>
    obtain ⟨name, v⟩ := field
    have named : Named entries names v := named_iff.mpr ⟨name, found⟩
    constructor
    · exact fun accepted => ⟨v, named, accepted_under.mp accepted⟩
    · rintro ⟨w, other, passes⟩
      cases named_unique named other
      exact accepted_under.mpr passes

/-- A check of a field that falls back on an accepted value when it is not there. -/
theorem accepted_fallback {fallback : Checked α} (standard : fallback.Accepted) :
    (match find? entries names with
      | some (name, v) => (check v).under (.key name)
      | none => fallback).Accepted ↔ Optional names (Passes check) entries := by
  cases found : find? entries names with
  | none => simp [standard, Optional, not_named found]
  | some field =>
    obtain ⟨name, v⟩ := field
    have named : Named entries names v := named_iff.mpr ⟨name, found⟩
    constructor
    · intro accepted w other
      cases named_unique named other
      exact accepted_under.mp accepted
    · exact fun fits => accepted_under.mpr (fits v named)

theorem accepted_optional {fallback : α} :
    (optional names check fallback entries).Accepted ↔ Optional names (Passes check) entries :=
  accepted_fallback (accepted_valid fallback)

theorem accepted_optionalChecked {fallback : Value} (standard : Passes check fallback) :
    (optionalChecked names check fallback entries).Accepted ↔
      Optional names (Passes check) entries :=
  accepted_fallback (accepted_under.mpr standard)

theorem accepted_orElse {fallback : Checked α} (standard : fallback.Accepted) :
    (Manifest.orElse names check fallback entries).Accepted ↔
      Optional names (Passes check) entries :=
  accepted_fallback standard

theorem record_eq_valid {name : String} {v : Value} :
    record name v = .valid entries ↔ v = .map entries := by
  cases v <;> simp [record, fail]

theorem accepted_record {name : String} {f : List (Scalar × Value) → Checked α} {v : Value} :
    ((record name v).bind f).Accepted ↔ Mapping (fun entries => (f entries).Accepted) v := by
  cases v with
  | map entries => simp [record, Checked.bind, Mapping]
  | scalar | list | pairs | set => simp [record, Checked.bind, fail, Mapping]

theorem accepted_itemsFrom {items : List Value} {index : Nat} :
    (itemsFrom check index items).Accepted ↔ ∀ item ∈ items, Passes check item := by
  induction items generalizing index with
  | nil => simp [itemsFrom]
  | cons item items ih => simp [itemsFrom, ih, Passes]

theorem passes_list : Passes (list check) = Each (Passes check) := by
  funext v
  unfold Passes list Each
  cases items? v <;> simp [accepted_itemsFrom, Passes]

theorem passes_orNull : Passes (orNull check) = NullOr (Passes check) := by
  funext v
  unfold Passes orNull NullOr
  cases v with
  | scalar s => cases s <;> simp [Value.isNull]
  | list | pairs | set | map => simp [Value.isNull]

/-- A mapping whose keys and values are texts. -/
def Texts : Value → Prop :=
  Mapping (fun entries => ∀ entry ∈ entries, Passes text (.scalar entry.1) ∧ Passes text entry.2)

theorem accepted_textEntries : (textEntries entries).Accepted ↔
    ∀ entry ∈ entries, Passes text (.scalar entry.1) ∧ Passes text entry.2 := by
  induction entries with
  | nil => simp [textEntries]
  | cons entry entries ih =>
    obtain ⟨key, value⟩ := entry
    simp [textEntries, ih, Passes]

theorem passes_textMapping : Passes textMapping = Texts := by
  funext v
  unfold Passes textMapping Texts Mapping
  cases v <;> simp [accepted_textEntries]

end Schema

end ClusterManifest
