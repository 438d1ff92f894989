import ClusterManifest.Proofs.Schema.Shortened

/-! What is in a document, and when two documents are the same: the order of the fields of a block
does not matter. -/

namespace ClusterManifest.Document

inductive Within (part : Document) : Document → Prop
  | here : Within part part
  | item {item : Document} {items : List Document} :
    item ∈ items → Within part item → Within part (.list items)
  | field {field : String × Document} {fields : List (String × Document)} :
    field ∈ fields → Within part field.2 → Within part (.block fields)

/-- Nothing in the document is null, at any depth. -/
def NullFree (d : Document) : Prop := ¬Within .null d

@[simp] theorem nullFree_number (n : Int) : (number n).NullFree := fun within => nomatch within

@[simp] theorem nullFree_text (phrase : Phrase) : (text phrase).NullFree := fun within => nomatch within

@[simp] theorem nullFree_list {items : List Document} :
    (list items).NullFree ↔ ∀ item ∈ items, item.NullFree := by
  constructor
  · exact fun free item among within => free (.item among within)
  · intro free within
    cases within with
    | item among within => exact free _ among within

@[simp] theorem nullFree_block {fields : List (String × Document)} :
    (block fields).NullFree ↔ ∀ field ∈ fields, field.2.NullFree := by
  constructor
  · exact fun free field among within => free (.field among within)
  · intro free within
    cases within with
    | field among within => exact free _ among within

theorem nullFree_tagFields (tags : List (String × Phrase)) :
    (block (Schema.tagFields tags)).NullFree := by
  rw [nullFree_block]
  intro field among
  obtain ⟨tag, -, rfl⟩ := List.mem_map.mp among
  exact nullFree_text tag.2

def field? (name : String) : Document → Option Document
  | .block fields => fields.lookup name
  | _ => none

mutual

def same : Document → Document → Bool
  | .null, .null => true
  | .number a, .number b => a == b
  | .text a, .text b => a == b
  | .list items, .list others => sameItems items others
  | .block fields, .block others => fields.length == others.length && fieldsWithin fields others
  | _, _ => false

def sameItems : List Document → List Document → Bool
  | [], [] => true
  | item :: items, other :: others => item.same other && sameItems items others
  | _, _ => false

/-- Each field is among the others, wherever it stands there. -/
def fieldsWithin : List (String × Document) → List (String × Document) → Bool
  | [], _ => true
  | (name, d) :: fields, others =>
    (match others.lookup name with
    | some other => d.same other
    | none => false) && fieldsWithin fields others

end

@[simp] theorem same_number (a b : Nat) : (number a).same (number b) = true ↔ a = b := by
  rw [same, beq_iff_eq, Int.ofNat_inj]

@[simp] theorem same_text (a b : Phrase) : (text a).same (text b) = true ↔ a = b := by
  simp [same]

theorem same_block {fields others : List (String × Document)} :
    (block fields).same (block others) = true ↔
      fields.length = others.length ∧ fieldsWithin fields others = true := by
  simp [same]

theorem same_list {α : Type} {write : α → Document} {xs ys : List α}
    (each : ∀ x ∈ xs, ∀ y ∈ ys, (write x).same (write y) = true ↔ x = y) :
    (list (xs.map write)).same (list (ys.map write)) = true ↔ xs = ys := by
  rw [same]
  induction xs generalizing ys with
  | nil => cases ys <;> simp [sameItems]
  | cons x xs ih =>
    cases ys with
    | nil => simp [sameItems]
    | cons y ys =>
      have head := each x (List.mem_cons_self ..) y (List.mem_cons_self ..)
      have tail := ih (fun x among y there =>
        each x (List.mem_cons_of_mem _ among) y (List.mem_cons_of_mem _ there))
      simp [sameItems, head, tail]

theorem lookup_iff {α : Type} {pairs : List (String × α)} (distinct : (pairs.map Prod.fst).Nodup)
    {name : String} {x : α} : pairs.lookup name = some x ↔ (name, x) ∈ pairs := by
  induction pairs with
  | nil => simp
  | cons pair pairs ih =>
    obtain ⟨first, y⟩ := pair
    rw [List.map_cons, List.nodup_cons] at distinct
    by_cases here : name = first
    · subst here
      have later : (name, x) ∉ pairs :=
        fun among => distinct.1 (List.mem_map.mpr ⟨_, among, rfl⟩)
      simp [List.lookup_cons_self, later, eq_comm]
    · rw [List.lookup_cons, beq_eq_false_iff_ne.mpr here, ih distinct.2]
      simp [here]

theorem lookup_tagFields (name : String) (tags : List (String × Phrase)) :
    (Schema.tagFields tags).lookup name = (tags.lookup name).map text := by
  induction tags with
  | nil => rfl
  | cons tag tags ih =>
    obtain ⟨first, value⟩ := tag
    simp only [Schema.tagFields, List.map_cons, List.lookup_cons] at ih ⊢
    by_cases here : name = first
    · rw [beq_iff_eq.mpr here]
      rfl
    · rw [beq_eq_false_iff_ne.mpr here]
      exact ih

/-- Blocks of tags are the same when each tag of one is a tag of the other. -/
theorem same_tags {tags others : List (String × Phrase)} (distinct : (others.map Prod.fst).Nodup) :
    (block (Schema.tagFields tags)).same (block (Schema.tagFields others)) =
      Platform.sameTags (Schema.readTags tags) (Schema.readTags others) := by
  have within : fieldsWithin (Schema.tagFields tags) (Schema.tagFields others) =
      (Schema.readTags tags).all (fun tag => (Schema.readTags others).contains tag) := by
    induction tags with
    | nil => rfl
    | cons tag tags ih =>
      obtain ⟨name, value⟩ := tag
      have read : (.text name, value) ∈ Schema.readTags others ↔ (name, value) ∈ others := by
        simp [Schema.readTags]
      have here : (match (Schema.tagFields others).lookup name with
          | some other => (text value).same other
          | none => false) = (Schema.readTags others).contains (.text name, value) := by
        rw [lookup_tagFields, Bool.eq_iff_iff, List.contains_iff_mem, read, ← lookup_iff distinct]
        cases others.lookup name with
        | none => simp
        | some other =>
          rw [Option.map_some, Option.some.injEq, same_text]
          exact eq_comm
      have first : Schema.readTags ((name, value) :: tags) =
          (.text name, value) :: Schema.readTags tags := rfl
      rw [first, List.all_cons, ← ih, ← here]
      rfl
  rw [same, within, Platform.sameTags, Schema.tagFields, Schema.tagFields, Schema.readTags,
    Schema.readTags]
  simp only [List.length_map]

end ClusterManifest.Document
