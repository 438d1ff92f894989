import Mathlib.Data.List.Nodup
import Mathlib.Data.List.Perm.Basic
import ClusterManifest.Proofs.Manifest.Choice
import ClusterManifest.Proofs.Manifest.Edit
import ClusterManifest.Proofs.Manifest.WellFormed

/-! What is read from an edited document. Each check reads from an edit of a value what it reads
from the value, but for the order of tags, and so does the whole manifest after any number of
edits. -/

namespace ClusterManifest

open Schema Checked Relator

/-- A check reads the same from every edit of a value, or something alike. -/
def Stable {α : Type} (block : Block) (check : Value → Checked α) (R : α → α → Prop) : Prop :=
  ∀ v w, Edit block v w → Kept R (check v) (check w)

section

variable {α β : Type} {block inner : Block} {check : Value → Checked α} {R : α → α → Prop}
  {names : List String} {entries others : List (Scalar × Value)}

/-- A check that accepts single values accepts none that can be edited. -/
theorem stable_scalar (single : ∀ v x, check v = .valid x → ∃ s, v = .scalar s) :
    Stable block check R := by
  intro v w edit
  refine .refused (fun x accepted => ?_)
  obtain ⟨s, rfl⟩ := single v x accepted
  exact edit.not_scalar

theorem text_scalar (v : Value) (phrase : Phrase) (accepted : text v = .valid phrase) :
    ∃ s, v = .scalar s := by
  cases v with
  | scalar s => exact ⟨s, rfl⟩
  | list | pairs | set | map => cases accepted

theorem network_scalar (v : Value) (c : Cidr) (accepted : network v = .valid c) :
    ∃ s, v = .scalar s := by
  cases v with
  | scalar s => exact ⟨s, rfl⟩
  | list | pairs | set | map => cases accepted

theorem count_scalar (v : Value) (n : Nat) (accepted : count v = .valid n) :
    ∃ s, v = .scalar s := by
  cases v with
  | scalar s => exact ⟨s, rfl⟩
  | list | pairs | set | map => cases accepted

theorem stable_text : Stable .other text Eq := stable_scalar text_scalar

theorem stable_network : Stable .other network Eq := stable_scalar network_scalar

theorem stable_count : Stable .other count Eq := stable_scalar count_scalar

theorem Stable.mono {R' : α → α → Prop} (stable : Stable block check R)
    (weaker : ∀ x y, R x y → R' x y) : Stable block check R' :=
  fun v w edit => (stable v w edit).mono weaker

theorem Stable.orNull (stable : Stable block check R) :
    Stable block (orNull check) (Option.Rel R) := by
  intro v w edit
  rw [Schema.orNull, Schema.orNull, edit.not_null.1, edit.not_null.2]
  exact (stable v w edit).map (fun _ _ => .some)

theorem stable_gen (stable : Stable block check R) (alike : ∀ x, R x x) (v w : Value)
    (edit : Relation.ReflGen (Edit block) v w) : Kept R (check v) (check w) := by
  cases edit with
  | refl => exact .refl alike _
  | single edit => exact stable v w edit

namespace Carried

theorem orElse (carried : Carried block entries others) (field : (names, inner) ∈ block.fields)
    (stable : Stable inner check R) (alike : ∀ x, R x x) (fallback : Checked α) :
    Kept R (Manifest.orElse names check fallback entries)
      (Manifest.orElse names check fallback others) :=
  kept_orElse (carried _ field) (stable_gen stable alike) (.refl alike fallback)

theorem required (carried : Carried block entries others) (field : (names, inner) ∈ block.fields)
    (stable : Stable inner check R) (alike : ∀ x, R x x) :
    Kept R (Schema.required names check entries) (Schema.required names check others) :=
  carried.orElse field stable alike _

theorem optional (carried : Carried block entries others) (field : (names, inner) ∈ block.fields)
    (stable : Stable inner check R) (alike : ∀ x, R x x) (fallback : α) :
    Kept R (Schema.optional names check fallback entries)
      (Schema.optional names check fallback others) :=
  carried.orElse field stable alike _

theorem optionalChecked (carried : Carried block entries others)
    (field : (names, inner) ∈ block.fields) (stable : Stable inner check R) (alike : ∀ x, R x x)
    (fallback : Value) : Kept R (Schema.optionalChecked names check fallback entries)
      (Schema.optionalChecked names check fallback others) :=
  carried.orElse field stable alike _

end Carried

theorem stable_record {f : List (Scalar × Value) → Checked α} {name : String}
    (kept : ∀ entries others, Carried block entries others → Kept R (f entries) (f others)) :
    Stable block (fun v => (record name v).bind f) R := by
  intro v w edit
  cases v with
  | map entries =>
    obtain ⟨others, rfl, carried⟩ := edit.carried
    exact kept entries others carried
  | scalar | list | pairs | set => exact .refused (fun _ => nofun)

theorem kept_itemsFrom {r : Value → Value → Prop} {items others : List Value}
    (alike : List.Forall₂ r items others) (each : ∀ v w, r v w → Kept R (check v) (check w))
    (index : Nat) :
    Kept (List.Forall₂ R) (itemsFrom check index items) (itemsFrom check index others) := by
  induction alike generalizing index with
  | nil => exact .valid .nil
  | cons first _ ih =>
    have cons : (R ⇒ List.Forall₂ R ⇒ List.Forall₂ R) List.cons List.cons :=
      fun _ _ here _ _ more => .cons here more
    exact ((Kept.valid cons).part ((each _ _ first).under _ _)).part (ih (index + 1))

theorem refused_pairs {pairs : List (Value × Value)} {pair : Value × Value} (among : pair ∈ pairs)
    (unlisted : ∀ items x, check (.list items) ≠ .valid x) (xs : List α) :
    list check (.pairs pairs) ≠ .valid xs := by
  intro accepted
  have passes : Passes (list check) (.pairs pairs) := ⟨xs, accepted⟩
  rw [passes_list] at passes
  obtain ⟨items, same, each⟩ := passes
  cases same
  obtain ⟨x, read⟩ := each _ (List.mem_map_of_mem among)
  exact unlisted _ x read

/-- A list of records, of which one is edited. -/
theorem stable_list (stable : Stable block.item check R) (alike : ∀ x, R x x)
    (unlisted : ∀ items x, check (.list items) ≠ .valid x) :
    Stable block (list check) (List.Forall₂ R) := by
  intro v w edit
  cases edit with
  | @item _ before after v w edit =>
    have same (items : List Value) :
        List.Forall₂ (Relation.ReflGen (Edit block.item)) items items :=
      List.forall₂_refl items
    exact kept_itemsFrom (List.rel_append (same before) (.cons (.single edit) (same after)))
      (stable_gen stable alike) 0
  | left | right =>
    exact .refused (refused_pairs (List.mem_append_right _ (List.mem_cons_self ..)) unlisted)
  | permute | extra | rename | shadow | entry => exact .refused (fun _ => nofun)

end

theorem Metadata.stable : Stable .metadata Metadata.ofValue Eq :=
  stable_record (fun _ _ carried =>
    (carried.optional (by decide) stable_text Eq.refl _).map (fun _ _ same => congrArg _ same))

theorem ClusterNetwork.stable : Stable .pod ClusterNetwork.ofValue Eq := by
  have build : (Eq ⇒ Eq ⇒ Eq) ClusterNetwork.mk ClusterNetwork.mk := by
    rintro _ _ rfl _ _ rfl
    rfl
  exact stable_record (fun _ _ carried =>
    ((Kept.valid build).part (carried.required (by decide) stable_network Eq.refl)).part
      (carried.required (by decide) stable_count Eq.refl))

theorem ClusterNetwork.stable_list : Stable .pods (list ClusterNetwork.ofValue) Eq := by
  have item : Stable (Block.item .pods) ClusterNetwork.ofValue Eq := ClusterNetwork.stable
  have unlisted (items : List Value) (pod : ClusterNetwork) :
      ClusterNetwork.ofValue (.list items) ≠ .valid pod := nofun
  exact (ClusterManifest.stable_list item Eq.refl unlisted).mono
    (fun _ _ same => List.forall₂_eq_eq_eq ▸ same)

theorem Networking.stable : Stable .networking Networking.ofValue Eq := by
  have build : (Eq ⇒ Eq ⇒ Eq ⇒ Eq ⇒ Eq) Networking.mk Networking.mk := by
    rintro _ _ rfl _ _ rfl _ _ rfl _ _ rfl
    rfl
  exact stable_record (fun _ _ carried =>
    ((((Kept.valid build).part
      (carried.optionalChecked (by decide) stable_network Eq.refl _)).part
      (carried.optionalChecked (by decide) stable_text Eq.refl _)).part
      (carried.optionalChecked (by decide) stable_network Eq.refl _)).part
      (carried.orElse (by decide) ClusterNetwork.stable_list Eq.refl _))

theorem MachinePool.stable : Stable .pool MachinePool.ofValue Eq := by
  have build : (Eq ⇒ Eq ⇒ Eq) MachinePool.mk MachinePool.mk := by
    rintro _ _ rfl _ _ rfl
    rfl
  exact stable_record (fun _ _ carried =>
    ((Kept.valid build).part (carried.required (by decide) stable_text Eq.refl)).part
      (carried.optional (by decide) (stable_count.orNull.mono (fun _ _ => eq_of_rel)) Eq.refl _))

theorem MachinePool.stable_list : Stable .pools (list MachinePool.ofValue) Eq := by
  have item : Stable (Block.item .pools) MachinePool.ofValue Eq := MachinePool.stable
  have unlisted (items : List Value) (pool : MachinePool) :
      MachinePool.ofValue (.list items) ≠ .valid pool := nofun
  exact (ClusterManifest.stable_list item Eq.refl unlisted).mono
    (fun _ _ same => List.forall₂_eq_eq_eq ▸ same)

section Tags

variable {entries others : List (Scalar × Value)} {pairs : List (Phrase × Phrase)}

theorem textEntries_iff : textEntries entries = .valid pairs ↔ List.Forall₂ (fun entry pair =>
    text (.scalar entry.1) = .valid pair.1 ∧ text entry.2 = .valid pair.2) entries pairs := by
  induction entries generalizing pairs with
  | nil => simp [textEntries, eq_comm]
  | cons entry entries ih =>
    rw [List.forall₂_cons_left_iff]
    constructor
    · intro accepted
      obtain ⟨_, rest, first, later, rfl⟩ := part_eq_valid.mp accepted
      obtain ⟨_, pair, cons, made, rfl⟩ := part_eq_valid.mp first
      obtain ⟨_, value, named, valued, rfl⟩ := part_eq_valid.mp made
      obtain ⟨_, name, mk, read, rfl⟩ := part_eq_valid.mp named
      cases cons
      cases mk
      exact ⟨_, rest, ⟨under_eq_valid.mp (under_eq_valid.mp read), under_eq_valid.mp valued⟩,
        ih.mp later, rfl⟩
    · rintro ⟨pair, rest, ⟨named, valued⟩, later, rfl⟩
      simp only [textEntries, named, valued, ih.mpr later, under_valid, part_valid]

/-- String keys that differ are read as names that differ. -/
theorem names_distinct (distinct : (entries.map Prod.fst).Nodup)
    (strings : ∀ entry ∈ entries, entry.1.IsString)
    (read : textEntries entries = .valid pairs) : (pairs.map Prod.fst).Nodup := by
  have keys : entries.map Prod.fst = (pairs.map Prod.fst).map .ofPhrase := by
    have each := textEntries_iff.mp read
    clear distinct read
    induction each with
    | nil => rfl
    | @cons entry pair _ _ first _ ih =>
      obtain ⟨key, value⟩ := entry
      obtain ⟨string, more⟩ := List.forall_mem_cons.mp strings
      have here : key = .ofPhrase pair.1 := by
        cases key with
        | text | illFormed => rw [← Checked.valid.inj first.1, Scalar.ofPhrase]
        | null | bool | int | float | bytes | date | moment => cases string
      rw [List.map_cons, ih more, here]
      rfl
  rw [keys] at distinct
  exact List.Nodup.of_map _ distinct

theorem textMapping_distinct (distinct : (pairs.map Prod.fst).Nodup)
    (read : textEntries entries = .valid pairs) : textMapping (.map entries) = .valid pairs := by
  rw [textMapping, read]
  exact congrArg Checked.valid (putNames_distinct distinct)

/-- Tags are read in the order in which they stand. -/
theorem stable_tags : Stable .tags textMapping List.Perm := by
  intro v w edit tags accepted
  cases edit with
  | @permute _ entries others distinct strings order =>
    obtain ⟨pairs, read, made⟩ := map_eq_valid.mp accepted
    have names := names_distinct distinct (strings rfl) read
    cases (textMapping_distinct names read).symm.trans accepted
    obtain ⟨reordered, each, same⟩ := List.perm_comp_forall₂ order (textEntries_iff.mp read)
    exact ⟨reordered, textMapping_distinct ((same.map Prod.fst).nodup_iff.mpr names)
      (textEntries_iff.mpr each), same.symm⟩
  | entry edit =>
    -- What is read as a tag is a single value, which has no edits.
    obtain ⟨pairs, read, -⟩ := map_eq_valid.mp accepted
    obtain ⟨-, s, passes⟩ := accepted_textEntries.mp ⟨pairs, read⟩ _
      (List.mem_append_right _ (List.mem_cons_self ..))
    obtain ⟨s, rfl⟩ := text_scalar _ s passes
    exact absurd edit Edit.not_scalar
  | extra _ record _ => cases record
  | rename field _ | shadow _ field _ => cases field
  | item | left | right => cases accepted

end Tags

namespace Platform

variable {kind : Kind} {entries others : List (Scalar × Value)} {p q r : Platform}

/-- The same platform, but for the order of its tags. -/
inductive Like : Platform → Platform → Prop
  | same (p : Platform) : Like p p
  | tags {region : Phrase} {tags others : List (Phrase × Phrase)} : tags.Perm others →
    Like (.chosen (.aws ⟨region, tags⟩)) (.chosen (.aws ⟨region, others⟩))

theorem Like.trans (first : Like p q) (second : Like q r) : Like p r := by
  cases first with
  | same => exact second
  | tags order =>
    cases second with
    | same => exact .tags order
    | tags more => exact .tags (order.trans more)

theorem sameTags_of_perm {tags others : List (Phrase × Phrase)} (order : tags.Perm others) :
    sameTags tags others = true := by
  simp only [sameTags, Bool.and_eq_true, beq_iff_eq, List.all_eq_true, List.contains_iff_mem]
  exact ⟨order.length_eq, fun tag among => order.mem_iff.mp among⟩

theorem Like.same_eq (like : Like p q) : p.same q = true := by
  cases like with
  | tags order => simp [Platform.same, sameTags_of_perm order]
  | same =>
    cases p with
    | unresolved problem => simp [Platform.same]
    | chosen variant =>
      cases variant with
      | aws fields => simp [Platform.same, sameTags_of_perm (.refl _)]
      | libvirt | openstack | none => simp [Platform.same]

theorem LibvirtNetwork.stable : Stable .bridge LibvirtNetwork.ofValue Eq := by
  have build : (Eq ⇒ Eq ⇒ Eq ⇒ Eq) LibvirtNetwork.mk LibvirtNetwork.mk := by
    rintro _ _ rfl _ _ rfl _ _ rfl
    rfl
  exact stable_record (fun _ _ carried =>
    (((Kept.valid build).part (carried.optional (by decide) stable_text Eq.refl _)).part
      (carried.optional (by decide) stable_text Eq.refl _)).part
      (carried.optional (by decide) stable_text Eq.refl _))

def Variant.Like (a b : Variant) : Prop := Platform.Like (.chosen a) (.chosen b)

theorem carried_without (carried : Carried (.payload kind) entries others) :
    Carried (.payload kind) (Value.without "kind" entries) (Value.without "kind" others) := by
  intro field among
  have unnamed : ∀ field ∈ (Block.payload kind).fields, ∀ name ∈ field.1, name ≠ "kind" := by
    cases kind <;> decide
  have same (entries : List (Scalar × Value)) :
      value? (Value.without "kind" entries) field.1 = value? entries field.1 :=
    value_congr (fun name within =>
      Value.lookup_without_other (unnamed field among name within) entries)
  rw [same, same]
  exact carried field among

theorem kept_kindField : Kept Eq (kindField kind (Value.without "kind" entries))
    (kindField kind (Value.without "kind" others)) := by
  rw [kindField_without, kindField_without]
  exact .valid rfl

/-- The fields of a variant, but for what they say of the kind. -/
theorem Variant.kept (carried : Carried (.payload kind) entries others) :
    Kept Variant.Like (Variant.ofEntries kind (Value.without "kind" entries))
      (Variant.ofEntries kind (Value.without "kind" others)) := by
  have rest := carried_without carried
  cases kind with
  | aws =>
    have build : (Eq ⇒ Eq ⇒ List.Perm ⇒ fun a b => Variant.Like (.aws a) (.aws b))
        (fun (_ : Kind) => Aws.mk) (fun _ => Aws.mk) := by
      rintro _ _ - _ _ rfl _ _ order
      exact .tags order
    exact ((((Kept.valid build).part kept_kindField).part
      (rest.required (by decide) stable_text Eq.refl)).part
      (rest.optional (by decide) stable_tags .refl _)).map (fun _ _ same => same)
  | libvirt =>
    have build : (Eq ⇒ Eq ⇒ Eq ⇒ Eq) (fun (_ : Kind) => Libvirt.mk) (fun _ => Libvirt.mk) := by
      rintro _ _ - _ _ rfl _ _ rfl
      rfl
    exact ((((Kept.valid build).part kept_kindField).part
      (rest.optional (by decide) stable_text Eq.refl _)).part
      (rest.optional (by decide) LibvirtNetwork.stable Eq.refl _)).map
        (fun _ _ same => same ▸ .same _)
  | openstack =>
    have build : (Eq ⇒ Eq ⇒ Eq ⇒ Eq ⇒ Eq ⇒ Eq) (fun (_ : Kind) => OpenStack.mk)
        (fun _ => OpenStack.mk) := by
      rintro _ _ - _ _ rfl _ _ rfl _ _ rfl _ _ rfl
      rfl
    exact ((((((Kept.valid build).part kept_kindField).part
      (rest.required (by decide) stable_text Eq.refl)).part
      (rest.optional (by decide) stable_text Eq.refl _)).part
      (rest.optional (by decide) stable_text Eq.refl _)).part
      (rest.optional (by decide) stable_text Eq.refl _)).map (fun _ _ same => same ▸ .same _)
  | none => exact (kept_kindField).map (fun _ _ _ => .same _)

theorem Variant.stable (kind : Kind) :
    Stable (.payload kind) (Variant.ofPayload kind) Variant.Like := by
  intro v w edit
  cases v with
  | map entries =>
    obtain ⟨others, rfl, carried⟩ := edit.carried
    simp only [Variant.ofPayload, Variant.ofEntries_kind]
    exact ((Variant.kept carried).under _ _).under _ _
  | scalar | list | pairs | set => exact .refused (fun _ accepted => by cases accepted)

/-- Where a variant is singled out, and its payload is edited. -/
theorem kept_entry {before after : List (Scalar × Value)} {key : Scalar} {v w : Value}
    (edit : Edit (Block.under .platform key) v w) :
    Kept Like (ofEntries (before ++ (key, v) :: after))
      (ofEntries (before ++ (key, w) :: after)) := by
  intro p accepted
  -- The entry counts before the edit and after it, so that the same keys decide.
  obtain ⟨first, second⟩ := edit.not_null
  have counted : counting (before ++ (key, v) :: after) =
      counting before ++ (key, v) :: counting after := by simp [counting, first]
  have alsoCounted : counting (before ++ (key, w) :: after) =
      counting before ++ (key, w) :: counting after := by simp [counting, second]
  have keys : ((counting (before ++ (key, w) :: after)).map Prod.fst).Perm
      ((counting (before ++ (key, v) :: after)).map Prod.fst) := by
    rw [counted, alsoCounted, List.map_append, List.map_append]
    rfl
  have nameable := (accepted_iff.mp ⟨p, accepted⟩).2
  rcases ofEntries_cases nameable with ⟨problem, unsingled, read⟩ | ⟨kind, payload, single, read⟩
  · cases read.symm.trans accepted
    rcases ofEntries_cases ((nameable_perm keys).mpr nameable) with
      ⟨other, also, again⟩ | ⟨kind, payload, single, -⟩
    · rw [also.unique (unsingled.of_perm keys)] at again
      exact ⟨_, again, .same _⟩
    · exact absurd single ((unsingled.of_perm keys).not_single kind payload)
  · rw [counted] at single
    obtain ⟨none, here⟩ | ⟨-, other⟩ := List.append_eq_singleton_iff.mp single
    · obtain ⟨one, noneAfter⟩ := List.cons.inj here
      cases one
      have place : Block.under .platform (.text kind.name) = .payload kind := by cases kind <;> rfl
      rw [place] at edit
      obtain ⟨variant, made, rfl⟩ := map_eq_valid.mp (read.symm.trans accepted)
      obtain ⟨variant', also, like⟩ := Variant.stable kind v w edit variant made
      have alone : counting [(.text kind.name, w)] = [(.text kind.name, w)] := by
        simp [counting, second]
      rw [none, noneAfter] at alsoCounted
      refine ⟨_, ?_, like⟩
      rw [ofEntries_congr (alsoCounted.trans alone.symm), ofEntries_single kind second, also]
      rfl
    · cases other

theorem stable : Stable .platform Platform.ofValue Like := by
  intro v w edit
  cases edit with
  | permute _ _ order =>
    -- The order of the counting entries tells no variant from another.
    change Kept Like (ofEntries _) (ofEntries _)
    rw [ofEntries_perm (order.filter _)]
    exact .refl .same _
  | entry edit => exact kept_entry edit
  | extra _ record _ => cases record
  | rename field _ | shadow _ field _ => cases field
  | item | left | right => exact .refused (fun _ => nofun)

end Platform

namespace Manifest

variable {m n : Manifest}

/-- The same manifest, but for the order of its tags. -/
def Like (m n : Manifest) : Prop :=
  ∃ platform, Option.Rel Platform.Like m.platform platform ∧ n = { m with platform := platform }

theorem Like.refl (m : Manifest) : m.Like m := ⟨m.platform, rel_self .same _, rfl⟩

theorem Like.trans {k : Manifest} (first : m.Like n) (second : n.Like k) : m.Like k := by
  obtain ⟨platform, like, rfl⟩ := first
  obtain ⟨other, more, rfl⟩ := second
  exact ⟨other, rel_trans (R := Platform.Like) (fun _ _ _ => .trans) like more, rfl⟩

theorem samePlatform_of_rel {o p : Option Platform} (like : Option.Rel Platform.Like o p) :
    samePlatform o p = true := by
  cases like with
  | none => rfl
  | some like => exact like.same_eq

theorem Like.same_eq (like : m.Like n) : m.same n = true := by
  obtain ⟨platform, like, rfl⟩ := like
  rw [same, samePlatform_of_rel like, Bool.true_and, decide_eq_true_iff]

theorem stable : Stable .manifest ofValue Like := by
  have build : (Eq ⇒ Eq ⇒ Eq ⇒ Eq ⇒ Eq ⇒ Eq ⇒ Option.Rel Platform.Like ⇒ Eq ⇒ Like)
      Manifest.mk Manifest.mk := by
    rintro _ _ rfl _ _ rfl _ _ rfl _ _ rfl _ _ rfl _ _ rfl _ _ platform _ _ rfl
    exact ⟨_, platform, rfl⟩
  exact stable_record (fun _ _ carried =>
    ((((((((Kept.valid build).part
      (carried.optional (by decide) stable_text Eq.refl _)).part
      (carried.optional (by decide) Metadata.stable Eq.refl _)).part
      (carried.optional (by decide) stable_text Eq.refl _)).part
      (carried.optional (by decide) stable_text Eq.refl _)).part
      (carried.orElse (by decide) Networking.stable Eq.refl _)).part
      (carried.orElse (by decide) MachinePool.stable_list Eq.refl _)).part
      (carried.optional (by decide) Platform.stable.orNull (rel_self .same) _)).part
      (carried.optional (by decide) stable_text Eq.refl _))

/-- However often an accepted document is edited, it stays accepted, and as the same manifest. -/
theorem ofValue_edited {v w : Value} (accepted : ofValue v = .valid m)
    (edits : Relation.ReflTransGen (Edit .manifest) v w) :
    ∃ n, ofValue w = .valid n ∧ m.same n = true := by
  have like : ∃ n, ofValue w = .valid n ∧ m.Like n := by
    induction edits with
    | refl => exact ⟨m, accepted, .refl m⟩
    | tail _ edit ih =>
      obtain ⟨n, before, like⟩ := ih
      obtain ⟨k, after, more⟩ := stable _ _ edit n before
      exact ⟨k, after, like.trans more⟩
  obtain ⟨n, read, like⟩ := like
  exact ⟨n, read, like.same_eq⟩

/-- A document of one platform entry. -/
def awsDocument (payload : Value) : Value :=
  .map [(.text "apiVersion", .scalar (.text schemaVersion)),
    (.text "platform", .map [(.text "aws", payload)])]

def taggedPayload (tags : String) (entries : List (Scalar × Value)) (more : List (Scalar × Value)) :
    Value :=
  .map ([(.text "region", .scalar (.text "us-east-1")), (.text tags, .map entries)] ++ more)

def ownerTags : List (Scalar × Value) :=
  [(.text "owner", .scalar (.text "ops")), (.text "stage", .scalar (.text "test"))]

/-- Tags in another order and under their second name, a kind that no platform has, and a second
version that is passed over. -/
theorem tagged_edited : ∃ m n,
    ofValue (awsDocument (taggedPayload "userTags" ownerTags [])) = .valid m ∧
    ofValue (.map [(.text "apiVersion", .scalar (.text schemaVersion)),
      (.text "platform", .map [(.text "aws", taggedPayload "user_tags" ownerTags.reverse
        [(.text "kind", .scalar (.text "azure"))])]),
      (.text "api_version", .scalar .null)]) = .valid n ∧
    m.same n = true := by
  have inPayload {v w : Value} (edit : Edit (.payload .aws) v w) :
      Edit .manifest (awsDocument v) (awsDocument w) :=
    @Edit.entry .manifest [_] [] _ _ _ (@Edit.entry .platform [] [] _ _ _ edit)
  have permuted : Edit (.payload .aws) (taggedPayload "userTags" ownerTags [])
      (taggedPayload "userTags" ownerTags.reverse []) :=
    @Edit.entry (.payload .aws) [_] [] _ _ _
      (.permute (by decide) (fun _ => by simp [ownerTags, Scalar.IsString]) ownerTags.reverse_perm)
  have renamed : Edit (.payload .aws) (taggedPayload "userTags" ownerTags.reverse [])
      (taggedPayload "user_tags" ownerTags.reverse []) :=
    @Edit.rename (.payload .aws) .tags _ "userTags" "user_tags" (by decide) rfl
  have extended : Edit (.payload .aws) (taggedPayload "user_tags" ownerTags.reverse [])
      (taggedPayload "user_tags" ownerTags.reverse
        [(.text "kind", .scalar (.text "azure"))]) :=
    @Edit.extra (.payload .aws) _ (.text "kind") (.scalar (.text "azure")) rfl (by decide)
  have start : (ofValue (awsDocument (taggedPayload "userTags" ownerTags []))).value?.isSome := by
    decide +kernel
  obtain ⟨m, read⟩ := Option.isSome_iff_exists.mp start
  have accepted := Checked.valid_of_value read
  obtain ⟨n, again, same⟩ := ofValue_edited accepted
    (.tail (.tail (.tail (.tail .refl (inPayload permuted)) (inPayload renamed))
      (inPayload extended))
      (@Edit.shadow .manifest .other _ "apiVersion" "api_version" (.scalar .null) (by decide)
        (by decide)))
  exact ⟨m, n, accepted, again, same⟩

end Manifest

end ClusterManifest
