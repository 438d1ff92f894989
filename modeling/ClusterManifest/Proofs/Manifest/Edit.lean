import Mathlib.Logic.Relation
import ClusterManifest.Proofs.Schema.Kept

/-! Edits of a document that change nothing of what it says: mappings in another order, entries that
are passed over, and fields under their second names. What a mapping holds in its fields stays as it
is, or is edited itself. -/

namespace ClusterManifest

open Schema

/-- A place in a document, by what is read there. -/
inductive Block
  | manifest
  | metadata
  | networking
  | pods
  | pod
  | pools
  | pool
  | platform
  | payload (kind : Platform.Kind)
  | bridge
  | tags
  /-- A single value, or what is passed over. -/
  | other
  deriving DecidableEq

namespace Block

/-- The fields of a mapping: the names of each, of which the first counts before the second, and
what is read there. -/
def fields : Block → List (List String × Block)
  | .manifest =>
    [(["apiVersion", "api_version"], .other), (["metadata"], .metadata),
      (["baseDomain", "base_domain"], .other), (["sshKey", "ssh_key"], .other),
      (["networking"], .networking), (["machines"], .pools), (["platform"], .platform),
      (["pullSecret", "pull_secret"], .other)]
  | .metadata => [(["name"], .other)]
  | .networking =>
    [(["machineCIDR", "machine_cidr"], .other), (["type"], .other),
      (["serviceCIDR", "service_cidr"], .other),
      (["clusterNetworks", "cluster_networks"], .pods)]
  | .pod => [(["cidr"], .other), (["hostSubnetLength", "host_subnet_length"], .other)]
  | .pool => [(["name"], .other), (["replicas"], .other)]
  | .payload .aws => [(["region"], .other), (["userTags", "user_tags"], .tags)]
  | .payload .libvirt => [(["URI", "uri"], .other), (["network"], .bridge)]
  | .payload .openstack =>
    [(["region"], .other), (["cloud"], .other), (["externalNetwork", "external_network"], .other),
      (["baseImage", "base_image"], .other)]
  | .bridge =>
    [(["name"], .other), (["if", "if_name"], .other), (["ipRange", "ip_range"], .other)]
  | .payload .none | .pods | .pools | .platform | .tags | .other => []

/-- A mapping of this kind passes over the entries that are not its fields. -/
def isRecord : Block → Bool
  | .manifest | .metadata | .networking | .pod | .pool | .payload _ | .bridge => true
  | .pods | .pools | .platform | .tags | .other => false

/-- What is read under a key. -/
def under (block : Block) (key : Scalar) : Block :=
  match block, Platform.Kind.ofKey? key with
  | .platform, some kind => .payload kind
  | block, _ =>
    match block.fields.find? (fun field => field.1.any (fun name => key == .text name)) with
    | some field => field.2
    | none => .other

/-- What is read as an item. -/
def item : Block → Block
  | .pods => .pod
  | .pools => .pool
  | _ => .other

end Block

/-- A key that is a text, of whatever code points. -/
def Scalar.IsString : Scalar → Prop
  | .text _ | .illFormed _ => True
  | _ => False

/-- One edit, at its place or further in. -/
inductive Edit : Block → Value → Value → Prop
  /-- The entries of a mapping in another order. No key of a mapping stands in it twice. The keys of
  tags have to be strings, since others are read as strings, and then keys that differ can be read
  as one. -/
  | permute {block : Block} {entries others : List (Scalar × Value)} :
    (entries.map Prod.fst).Nodup → (block = .tags → ∀ entry ∈ entries, entry.1.IsString) →
    others.Perm entries → Edit block (.map entries) (.map others)
  /-- Any value under a key that is not one of a field. -/
  | extra {block : Block} {entries : List (Scalar × Value)} {key : Scalar} (v : Value) :
    block.isRecord = true → (∀ field ∈ block.fields, ∀ name ∈ field.1, key ≠ .text name) →
    Edit block (.map entries) (.map (Value.put entries key v))
  /-- The second name of a field in place of the first one, where it is not there. -/
  | rename {block inner : Block} {entries : List (Scalar × Value)} {first second : String} :
    ([first, second], inner) ∈ block.fields → Value.lookup? second entries = none →
    Edit block (.map entries) (.map (Value.rename first second entries))
  /-- Any value under the second name of a field, where the first one is there. -/
  | shadow {block inner : Block} {entries : List (Scalar × Value)} {first second : String}
    (v : Value) : ([first, second], inner) ∈ block.fields →
    Value.lookup? first entries ≠ none →
    Edit block (.map entries) (.map (Value.put entries (.text second) v))
  | entry {block : Block} {before after : List (Scalar × Value)} {key : Scalar} {v w : Value} :
    Edit (block.under key) v w →
    Edit block (.map (before ++ (key, v) :: after)) (.map (before ++ (key, w) :: after))
  | item {block : Block} {before after : List Value} {v w : Value} : Edit block.item v w →
    Edit block (.list (before ++ v :: after)) (.list (before ++ w :: after))
  | left {block : Block} {before after : List (Value × Value)} {v w other : Value} :
    Edit .other v w → Edit block (.pairs (before ++ (v, other) :: after))
      (.pairs (before ++ (w, other) :: after))
  | right {block : Block} {before after : List (Value × Value)} {v w other : Value} :
    Edit .other v w → Edit block (.pairs (before ++ (other, v) :: after))
      (.pairs (before ++ (other, w) :: after))

namespace Block

variable {block inner deeper : Block} {names others : List String} {name first second : String}

theorem fields_disjoint (block : Block) : ∀ a ∈ block.fields, ∀ b ∈ block.fields,
    ∀ name ∈ a.1, name ∈ b.1 → a = b := by
  cases block with
  | payload kind => cases kind <;> decide
  | _ => decide

theorem fields_distinct (block : Block) : ∀ field ∈ block.fields, field.1.Nodup := by
  cases block with
  | payload kind => cases kind <;> decide
  | _ => decide

theorem under_field (field : (names, inner) ∈ block.fields) (among : name ∈ names) :
    block.under (.text name) = inner := by
  have all : ∀ field ∈ block.fields, ∀ name ∈ field.1, block.under (.text name) = field.2 := by
    cases block with
    | payload kind => cases kind <;> decide
    | _ => decide
  exact all _ field name among

end Block

/-- What two mappings hold in their fields is the same, or an edit of it. -/
def Carried (block : Block) (entries others : List (Scalar × Value)) : Prop :=
  ∀ field ∈ block.fields, Option.Rel (Relation.ReflGen (Edit field.2))
    (value? entries field.1) (value? others field.1)

section

variable {block inner : Block} {entries others : List (Scalar × Value)} {first second : String}

theorem rel_of_eq {r : Value → Value → Prop} {o p : Option Value} (same : p = o) :
    Option.Rel (Relation.ReflGen r) o p := by
  rw [same]
  exact rel_self (fun _ => .refl) o

theorem carried_of_lookup (same : ∀ field ∈ block.fields, ∀ name ∈ field.1,
    Value.lookup? name others = Value.lookup? name entries) : Carried block entries others :=
  fun field among => rel_of_eq (value_congr (same field among))

/-- Where only the names of one field are touched, it is enough to look at that one. -/
theorem carried_of_field (field : ([first, second], inner) ∈ block.fields)
    (here : value? others [first, second] = value? entries [first, second])
    (elsewhere : ∀ name, name ≠ first → name ≠ second →
      Value.lookup? name others = Value.lookup? name entries) : Carried block entries others := by
  intro other among
  by_cases same : other = ([first, second], inner)
  · rw [same]
    exact rel_of_eq here
  · have apart (name : String) (within : name ∈ other.1) : name ∉ [first, second] :=
      fun also => same (block.fields_disjoint other among _ field name within also)
    refine rel_of_eq (value_congr (fun name within => elsewhere name ?_ ?_))
    · exact fun equal => apart name within (by simp [equal])
    · exact fun equal => apart name within (by simp [equal])

theorem names_differ (field : ([first, second], inner) ∈ block.fields) : first ≠ second := by
  have distinct := block.fields_distinct _ field
  simpa using distinct

theorem carried_rename (field : ([first, second], inner) ∈ block.fields)
    (absent : Value.lookup? second entries = none) :
    Carried block entries (Value.rename first second entries) := by
  refine carried_of_field field ?_
    (fun name other another => Value.lookup_rename_other other another entries)
  rw [value_cons, value_cons, value_cons, value_cons,
    Value.lookup_rename_old (names_differ field), Value.lookup_rename_new absent, absent]
  cases Value.lookup? first entries <;> rfl

theorem carried_shadow (v : Value) (field : ([first, second], inner) ∈ block.fields)
    (there : Value.lookup? first entries ≠ none) :
    Carried block entries (Value.put entries (.text second) v) := by
  refine carried_of_field field ?_
    (fun name _ other => Value.lookup_put_other v other entries)
  obtain ⟨w, found⟩ := Option.ne_none_iff_exists'.mp there
  rw [value_cons first, value_cons first, Value.lookup_put_other v (names_differ field), found,
    Option.some_or, Option.some_or]

theorem carried_entry {before after : List (Scalar × Value)} {key : Scalar} {v w : Value}
    (edit : Edit (block.under key) v w) :
    Carried block (before ++ (key, v) :: after) (before ++ (key, w) :: after) := by
  rintro ⟨names, inner⟩ field
  refine value_rel (fun name among => ?_)
  induction before with
  | nil =>
    rw [List.nil_append, List.nil_append, Value.lookup_cons, Value.lookup_cons]
    by_cases here : key = .text name
    · rw [here, Block.under_field field among] at edit
      rw [if_pos here, if_pos here]
      exact .some (.single edit)
    · rw [if_neg here, if_neg here]
      exact rel_of_eq rfl
  | cons entry before ih =>
    rw [List.cons_append, List.cons_append, Value.lookup_cons, Value.lookup_cons]
    by_cases here : entry.1 = .text name
    · rw [if_pos here, if_pos here]
      exact rel_of_eq rfl
    · rw [if_neg here, if_neg here]
      exact ih

end

namespace Edit

variable {block : Block} {v w : Value} {entries : List (Scalar × Value)} {s : Scalar}

theorem not_scalar : ¬Edit block (.scalar s) w := nofun

theorem not_null (edit : Edit block v w) : v.isNull = false ∧ w.isNull = false := by
  cases edit <;> exact ⟨rfl, rfl⟩

/-- One edit leaves what a mapping holds in its fields, or it is an edit of that. -/
theorem carried (edit : Edit block (.map entries) w) :
    ∃ others, w = .map others ∧ Carried block entries others := by
  generalize same : Value.map entries = v at edit
  cases edit with
  | permute distinct _ order =>
    cases same
    exact ⟨_, rfl, carried_of_lookup (fun _ _ name _ => Value.lookup_perm distinct order name)⟩
  | extra v _ other =>
    cases same
    exact ⟨_, rfl, carried_of_lookup
      (fun field among name within => Value.lookup_put_key v (other field among name within) _)⟩
  | rename field absent =>
    cases same
    exact ⟨_, rfl, carried_rename field absent⟩
  | shadow v field there =>
    cases same
    exact ⟨_, rfl, carried_shadow v field there⟩
  | entry inner =>
    cases same
    exact ⟨_, rfl, carried_entry inner⟩
  | item | left | right => cases same

end Edit

end ClusterManifest
