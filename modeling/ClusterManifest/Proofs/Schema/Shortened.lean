import ClusterManifest.Manifest
import ClusterManifest.Proofs.Schema.Written

/-! Documents that are written short: fields are left out where a rule allows it. A schema finds a
field of such a document as it was written, or shortened in turn, or it misses it and the rule says
that it may. -/

namespace ClusterManifest

namespace Document

mutual

/-- The second document is the first one without some fields that the rule allows to be left out.
The rule knows a field by the names on the way to it. Lists stay as they are. -/
inductive Shortens (rule : List String → Document → Prop) :
    List String → Document → Document → Prop
  | same {place : List String} {d : Document} : Shortens rule place d d
  | block {place : List String} {fields left : List (String × Document)} :
    ShortensFields rule place fields left → Shortens rule place (.block fields) (.block left)

inductive ShortensFields (rule : List String → Document → Prop) :
    List String → List (String × Document) → List (String × Document) → Prop
  | nil {place : List String} : ShortensFields rule place [] []
  | keep {place : List String} {name : String} {d e : Document}
    {fields left : List (String × Document)} :
    Shortens rule (place ++ [name]) d e → ShortensFields rule place fields left →
      ShortensFields rule place ((name, d) :: fields) ((name, e) :: left)
  | leaveOut {place : List String} {name : String} {d : Document}
    {fields left : List (String × Document)} :
    rule (place ++ [name]) d → ShortensFields rule place fields left →
      ShortensFields rule place ((name, d) :: fields) left

end

variable {rule : List String → Document → Prop} {place : List String}
  {fields left : List (String × Document)}

theorem ShortensFields.refl (fields : List (String × Document)) :
    ShortensFields rule place fields fields := by
  induction fields with
  | nil => exact .nil
  | cons field fields ih => exact .keep .same ih

theorem ShortensFields.concat {name : String} {d : Document}
    (short : ShortensFields rule place fields left) :
    ShortensFields rule place (fields ++ [(name, d)]) (left ++ [(name, d)]) := by
  induction fields generalizing left with
  | nil =>
    cases short
    exact .keep .same .nil
  | cons field fields ih =>
    cases short with
    | keep kept rest => exact .keep kept (ih rest)
    | leaveOut allowed rest => exact .leaveOut allowed (ih rest)

theorem Shortens.of_block {e : Document} (short : Shortens rule place (.block fields) e) :
    ∃ left, e = .block left ∧ ShortensFields rule place fields left := by
  cases short with
  | same => exact ⟨fields, rfl, .refl fields⟩
  | block short => exact ⟨_, rfl, short⟩

theorem Shortens.of_text {phrase : Phrase} {e : Document}
    (short : Shortens rule place (.text phrase) e) : e = .text phrase := by
  cases short
  rfl

theorem Shortens.of_list {items : List Document} {e : Document}
    (short : Shortens rule place (.list items) e) : e = .list items := by
  cases short
  rfl

theorem ShortensFields.names (short : ShortensFields rule place fields left) :
    (left.map Prod.fst).Sublist (fields.map Prod.fst) := by
  induction fields generalizing left with
  | nil =>
    cases short
    exact .slnil
  | cons field fields ih =>
    cases short with
    | keep _ rest => exact (ih rest).cons_cons _
    | leaveOut _ rest => exact (ih rest).cons _

theorem lookup_other {name : String} {field : String × Document} (other : name ≠ field.1) :
    (field :: fields).lookup name = fields.lookup name := by
  rw [List.lookup_cons, beq_eq_false_iff_ne.mpr other]

theorem lookup_new {name : String} (new : name ∉ fields.map Prod.fst) :
    fields.lookup name = none := by
  induction fields with
  | nil => rfl
  | cons field fields ih =>
    have other : name ≠ field.1 := fun same => new (same ▸ List.mem_cons_self ..)
    have later := ih (fun among => new (List.mem_cons_of_mem _ among))
    rw [lookup_other other, later]

/-- A field of a block is looked up in what the block was shortened to: it is there, shortened at
most, or it was left out. -/
theorem ShortensFields.lookup (short : ShortensFields rule place fields left)
    (distinct : (fields.map Prod.fst).Nodup) {name : String} {d : Document}
    (among : (name, d) ∈ fields) :
    (∃ e, left.lookup name = some e ∧ Shortens rule (place ++ [name]) d e) ∨
    (left.lookup name = none ∧ rule (place ++ [name]) d) := by
  induction fields generalizing left with
  | nil => cases among
  | cons field fields ih =>
    rw [List.map_cons, List.nodup_cons] at distinct
    rcases List.mem_cons.mp among with rfl | later
    · cases short with
      | @keep _ _ _ e _ _ kept rest =>
        exact .inl ⟨e, List.lookup_cons_self, kept⟩
      | leaveOut allowed rest =>
        exact .inr ⟨lookup_new (fun there => distinct.1 (rest.names.subset there)), allowed⟩
    · cases short with
      | @keep _ first _ _ _ _ _ rest =>
        have named : name ∈ fields.map Prod.fst := List.mem_map_of_mem later
        have other : name ≠ first := fun same => distinct.1 (same ▸ named)
        rw [lookup_other other]
        exact ih rest distinct.2 later
      | leaveOut _ rest => exact ih rest distinct.2 later

theorem lookup_written (name : String) (fields : List (String × Document)) :
    Value.lookup? name (Value.settingsOf (fieldsToValues fields)) =
      (fields.lookup name).map toValue := by
  induction fields with
  | nil => rfl
  | cons field fields ih =>
    simp only [fieldsToValues, List.map_cons, Value.lookup_settingsOf] at ih ⊢
    by_cases same : field.1 = name
    · subst same
      rw [if_pos rfl, List.lookup_cons_self, Option.map_some]
    · rw [if_neg same, lookup_other (Ne.symm same), ih]

/-- Texts stay as they are where the rule allows nothing to be left out. -/
theorem ShortensFields.of_tags {tags : List (String × Phrase)}
    (never : ∀ name d, ¬rule (place ++ [name]) d)
    (short : ShortensFields rule place (Schema.tagFields tags) left) :
    left = Schema.tagFields tags := by
  induction tags generalizing left with
  | nil =>
    cases short
    rfl
  | cons tag tags ih =>
    cases short with
    | keep kept rest =>
      rw [kept.of_text, ih rest]
      rfl
    | leaveOut allowed _ => exact absurd allowed (never _ _)

theorem record_block {fields : List (String × Document)} (name : String)
    (distinct : (fields.map Prod.fst).Nodup) :
    Schema.record name (block fields).toValue =
      .valid (Value.settingsOf (fieldsToValues fields)) := by
  rw [toValue_block distinct]
  rfl

theorem record_shortened {e : Document} (name : String)
    (distinct : (fields.map Prod.fst).Nodup) (short : Shortens rule place (.block fields) e) :
    ∃ left, Schema.record name e.toValue =
        .valid (Value.settingsOf (fieldsToValues left)) ∧
      ShortensFields rule place fields left := by
  obtain ⟨left, rfl, fewer⟩ := short.of_block
  exact ⟨left, record_block name (fewer.names.nodup distinct), fewer⟩

end Document

namespace Schema

open Document Checked

/-- What a schema finds under the names of a field that was written for a document. -/
inductive Finds (rule : List String → Document → Prop) (place : List String) (d : Document)
    (names : List String) (entries : List (Scalar × Value)) : Prop
  | there {name : String} {e : Document} :
    find? entries names = some (name, e.toValue) → Shortens rule place d e →
      Finds rule place d names entries
  | leftOut : find? entries names = none → rule place d → Finds rule place d names entries

variable {α : Type} {rule : List String → Document → Prop} {place : List String} {d : Document}
  {names : List String} {entries : List (Scalar × Value)} {check : Value → Checked α} {x : α}

theorem find_none (absent : ∀ name ∈ names, Value.lookup? name entries = none) :
    find? entries names = none := by
  induction names with
  | nil => rfl
  | cons name names ih =>
    have later := ih (fun other among => absent other (List.mem_cons_of_mem _ among))
    simp only [find?, absent name (List.mem_cons_self ..), later]

/-- A field is found under its first name, the one that it is written with. -/
theorem finds_of_shortened {fields left : List (String × Document)}
    (short : ShortensFields rule place fields left) (distinct : (fields.map Prod.fst).Nodup)
    {name : String} (among : (name, d) ∈ fields)
    (others : ∀ other ∈ names, other ∉ fields.map Prod.fst) :
    Finds rule (place ++ [name]) d (name :: names) (Value.settingsOf (fieldsToValues left)) := by
  rcases short.lookup distinct among with ⟨e, found, kept⟩ | ⟨absent, allowed⟩
  · have there : find? (Value.settingsOf (fieldsToValues left)) (name :: names) =
        some (name, e.toValue) := by
      simp only [find?, lookup_written, found, Option.map_some]
    exact .there there kept
  · refine .leftOut (find_none (fun other within => ?_)) allowed
    rw [lookup_written]
    rcases List.mem_cons.mp within with rfl | later
    · rw [absent]
      rfl
    · rw [lookup_new (fun there => others other later (short.names.subset there))]
      rfl

theorem required_found (finds : Finds rule place d names entries)
    (kept : ∀ e, Shortens rule place d e → check e.toValue = .valid x) (due : ¬rule place d) :
    required names check entries = .valid x := by
  cases finds with
  | there found short => simp only [required, found, kept _ short, under_valid]
  | leftOut _ allowed => exact absurd allowed due

theorem optional_found {fallback : α} (finds : Finds rule place d names entries)
    (kept : ∀ e, Shortens rule place d e → check e.toValue = .valid x)
    (fills : rule place d → fallback = x) :
    Schema.optional names check fallback entries = .valid x := by
  cases finds with
  | there found short => simp only [Schema.optional, found, kept _ short, under_valid]
  | leftOut none allowed => simp only [Schema.optional, none, fills allowed]

/-- Where a default is checked, it is what the field held. -/
theorem optionalChecked_found {fallback : Value} (finds : Finds rule place d names entries)
    (kept : ∀ e, Shortens rule place d e → check e.toValue = .valid x)
    (fills : rule place d → d.toValue = fallback) :
    optionalChecked names check fallback entries = .valid x := by
  cases finds with
  | there found short => simp only [optionalChecked, found, kept _ short, under_valid]
  | leftOut none allowed =>
    have accepted := kept d .same
    rw [fills allowed] at accepted
    simp only [optionalChecked, none, accepted, under_valid]

theorem orElse_found {fallback : Checked α} (finds : Finds rule place d names entries)
    (kept : ∀ e, Shortens rule place d e → check e.toValue = .valid x)
    (fills : rule place d → fallback = .valid x) :
    Manifest.orElse names check fallback entries = .valid x := by
  cases finds with
  | there found short => simp only [Manifest.orElse, found, kept _ short, under_valid]
  | leftOut none allowed => simp only [Manifest.orElse, none, fills allowed]

/-- Two documents that are the same are read as one value. -/
theorem eq_of_written {y : α} {e : Document} (first : check d.toValue = .valid x)
    (second : check e.toValue = .valid y) (same : d = e) : x = y := by
  subst same
  exact Checked.valid.inj (first.symm.trans second)

theorem text_kept (phrase : Phrase) (e : Document) (short : Shortens rule place (.text phrase) e) :
    text e.toValue = .valid phrase := by
  rw [short.of_text]
  exact text_text phrase

theorem network_kept {c : Cidr} (formed : c.WellFormed) (e : Document)
    (short : Shortens rule place (.text (String.ofList c.text)) e) :
    network e.toValue = .valid c := by
  rw [short.of_text]
  exact network_text formed

theorem list_kept {items : List Document} {xs : List α}
    (accepted : list check (Document.list items).toValue = .valid xs) (e : Document)
    (short : Shortens rule place (.list items) e) : list check e.toValue = .valid xs := by
  rw [short.of_list]
  exact accepted

variable {fields left : List (String × Document)} {name : String}

theorem required_text (phrase : Phrase) (short : ShortensFields rule place fields left)
    (distinct : (fields.map Prod.fst).Nodup) (among : (name, .text phrase) ∈ fields)
    (others : ∀ other ∈ names, other ∉ fields.map Prod.fst)
    (due : ¬rule (place ++ [name]) (.text phrase)) :
    required (name :: names) text (Value.settingsOf (fieldsToValues left)) = .valid phrase :=
  required_found (finds_of_shortened short distinct among others) (text_kept phrase) due

theorem optional_absent {fallback : α} (short : ShortensFields rule place fields left)
    (absent : ∀ name ∈ names, name ∉ fields.map Prod.fst) :
    Schema.optional names check fallback (Value.settingsOf (fieldsToValues left)) =
      .valid fallback := by
  have none : find? (Value.settingsOf (fieldsToValues left)) names = none := by
    refine find_none (fun name among => ?_)
    rw [lookup_written, lookup_new (fun there => absent name among (short.names.subset there))]
    rfl
  simp only [Schema.optional, none]

theorem optional_text {fallback : Phrase} (phrase : Phrase)
    (short : ShortensFields rule place fields left)
    (distinct : (fields.map Prod.fst).Nodup) (among : (name, .text phrase) ∈ fields)
    (others : ∀ other ∈ names, other ∉ fields.map Prod.fst)
    (fills : rule (place ++ [name]) (.text phrase) → fallback = phrase) :
    Schema.optional (name :: names) text fallback (Value.settingsOf (fieldsToValues left)) =
      .valid phrase :=
  optional_found (finds_of_shortened short distinct among others) (text_kept phrase) fills

end Schema

end ClusterManifest
