import ClusterManifest.Proofs.Schema.Field
import ClusterManifest.Proofs.Yaml.Roundtrip

/-! What is written for a value is accepted as the value: by the checks of texts, counts,
networks, lists and mappings, and by name among the fields of a record. -/

namespace ClusterManifest

namespace Value

def settingsOf (fields : List (String × Value)) : List (Scalar × Value) :=
  fields.map (fun field => (.text field.1, field.2))

theorem sameKey_text (a b : String) : (Scalar.text a).sameKey (.text b) = decide (a = b) := by
  by_cases same : a = b <;> simp [Scalar.sameKey, Scalar.number?, same]

theorem put_new {fields : List (String × Value)} {name : String} (value : Value)
    (new : name ∉ fields.map Prod.fst) :
    put (settingsOf fields) (.text name) value = settingsOf (fields ++ [(name, value)]) := by
  induction fields with
  | nil => rfl
  | cons field fields ih =>
    have later := ih (fun among => new (List.mem_cons_of_mem _ among))
    have other : field.1 ≠ name := fun same => new (same ▸ List.mem_cons_self ..)
    simp only [settingsOf] at later
    simp only [settingsOf, List.map_cons, put, sameKey_text, other, decide_false, later]
    rfl

theorem ofSettings_distinct {fields : List (String × Value)}
    (distinct : (fields.map Prod.fst).Nodup) :
    ofSettings (settingsOf fields) = settingsOf fields := by
  have keeps : ∀ before : List (String × Value), ((before ++ fields).map Prod.fst).Nodup →
      (settingsOf fields).foldl (fun entries setting => put entries setting.1 setting.2)
        (settingsOf before) = settingsOf (before ++ fields) := by
    clear distinct
    induction fields with
    | nil => exact fun before _ => by simp [settingsOf]
    | cons field fields ih =>
      intro before distinct
      have new : field.1 ∉ before.map Prod.fst := by
        rw [List.map_append, List.nodup_append] at distinct
        exact fun among => distinct.2.2 _ among _ (List.mem_cons_self ..) rfl
      have grown : before ++ field :: fields = (before ++ [field]) ++ fields := by simp
      rw [grown] at distinct ⊢
      rw [← ih _ distinct, ← put_new _ new]
      rfl
  exact keeps [] distinct

theorem lookup_settingsOf (name : String) (field : String × Value)
    (fields : List (String × Value)) :
    lookup? name (settingsOf (field :: fields)) =
      if field.1 = name then some field.2 else lookup? name (settingsOf fields) := by
  by_cases same : field.1 = name <;> simp [lookup?, settingsOf, sameKey_text, same]

end Value

namespace Document

def fieldsToValues (fields : List (String × Document)) : List (String × Value) :=
  fields.map (fun field => (field.1, field.2.toValue))

theorem fieldsToSettings_eq (fields : List (String × Document)) :
    fieldsToSettings fields = Value.settingsOf (fieldsToValues fields) := by
  induction fields with
  | nil => rfl
  | cons field fields ih =>
    rw [fieldsToSettings, ih]
    rfl

theorem itemsToValues_eq (items : List Document) : itemsToValues items = items.map toValue := by
  induction items with
  | nil => rfl
  | cons item items ih => rw [itemsToValues, ih, List.map_cons]

theorem toValue_block {fields : List (String × Document)} (distinct : (fields.map Prod.fst).Nodup) :
    (Document.block fields).toValue = .map (Value.settingsOf (fieldsToValues fields)) := by
  have names : (fieldsToValues fields).map Prod.fst = fields.map Prod.fst := by
    simp [fieldsToValues]
  rw [toValue, fieldsToSettings_eq, Value.ofSettings_distinct (names ▸ distinct)]

end Document

namespace Schema

open Document Checked

theorem text_text (phrase : Phrase) : text (Document.text phrase).toValue = .valid phrase := by
  cases phrase <;> rfl

theorem count_number (n : Nat) : count (Document.number n).toValue = .valid n :=
  count_valid.mpr rfl

theorem network_text {c : Cidr} (formed : c.WellFormed) :
    network (Document.text (String.ofList c.text)).toValue = .valid c := by
  simp only [toValue, Scalar.ofPhrase, network, String.toList_ofList, Cidr.ofText_text formed]

theorem list_list {α : Type} {check : Value → Checked α} {write : α → Document} {xs : List α}
    (each : ∀ x ∈ xs, check (write x).toValue = .valid x) :
    list check (Document.list (xs.map write)).toValue = .valid xs := by
  have indexed : ∀ index, itemsFrom check index ((xs.map write).map toValue) = .valid xs := by
    induction xs with
    | nil => exact fun _ => rfl
    | cons x xs ih =>
      intro index
      have first := each x (List.mem_cons_self ..)
      have more := ih (fun y hy => each y (List.mem_cons_of_mem _ hy)) (index + 1)
      simp only [List.map_cons, itemsFrom, first, more, under_valid, part_valid]
  rw [toValue, itemsToValues_eq]
  exact indexed 0

def tagFields (tags : List (String × Phrase)) : List (String × Document) :=
  tags.map (fun tag => (tag.1, .text tag.2))

/-- The tags that fields are read as. -/
def readTags (tags : List (String × Phrase)) : List (Phrase × Phrase) :=
  tags.map (fun tag => (.text tag.1, tag.2))

theorem nodup_readTags {tags : List (String × Phrase)} (distinct : (tags.map Prod.fst).Nodup) :
    ((readTags tags).map Prod.fst).Nodup := by
  have names : (readTags tags).map Prod.fst = (tags.map Prod.fst).map Phrase.text := by
    simp [readTags]
  rw [names]
  exact List.Pairwise.map Phrase.text (fun _ _ other same => other (Phrase.text.inj same)) distinct

theorem textEntries_tagFields (tags : List (String × Phrase)) :
    textEntries (Value.settingsOf (fieldsToValues (tagFields tags))) = .valid (readTags tags) := by
  induction tags with
  | nil => rfl
  | cons tag tags ih =>
    have name : text (.scalar (.text tag.1)) = .valid (.text tag.1) := rfl
    have value := text_text tag.2
    simp only [tagFields, fieldsToValues, Value.settingsOf] at ih
    simp only [tagFields, fieldsToValues, Value.settingsOf, List.map_cons, textEntries, ih, name,
      value, under_valid, part_valid]
    rfl

theorem putName_new {α β : Type} [DecidableEq α] {made : List (α × β)} {name : α} {value : β}
    (new : name ∉ made.map Prod.fst) : putName made name value = made ++ [(name, value)] := by
  induction made with
  | nil => rfl
  | cons entry made ih =>
    have other : entry.1 ≠ name := fun same => new (same ▸ List.mem_cons_self ..)
    rw [putName, if_neg other, ih (fun among => new (List.mem_cons_of_mem _ among))]
    rfl

/-- Names that differ are put one behind the other. -/
theorem putNames_distinct {α β : Type} [DecidableEq α] {settings : List (α × β)}
    (distinct : (settings.map Prod.fst).Nodup) : putNames settings = settings := by
  have keeps : ∀ before : List (α × β), ((before ++ settings).map Prod.fst).Nodup →
      settings.foldl (fun made setting => putName made setting.1 setting.2) before =
        before ++ settings := by
    clear distinct
    induction settings with
    | nil => exact fun before _ => (List.append_nil before).symm
    | cons setting settings ih =>
      intro before distinct
      have new : setting.1 ∉ before.map Prod.fst := by
        rw [List.map_append, List.nodup_append] at distinct
        exact fun among => distinct.2.2 _ among _ (List.mem_cons_self ..) rfl
      have grown : before ++ setting :: settings = (before ++ [setting]) ++ settings := by simp
      rw [grown] at distinct ⊢
      rw [← ih _ distinct, ← putName_new new]
      rfl
  exact keeps [] distinct

theorem textMapping_tagFields {tags : List (String × Phrase)}
    (distinct : (tags.map Prod.fst).Nodup) :
    textMapping (Document.block (tagFields tags)).toValue = .valid (readTags tags) := by
  have names : (tagFields tags).map Prod.fst = tags.map Prod.fst := by simp [tagFields]
  rw [toValue_block (names ▸ distinct), textMapping, textEntries_tagFields]
  exact congrArg Checked.valid (putNames_distinct (nodup_readTags distinct))

end Schema

end ClusterManifest
