import ClusterManifest.Proofs.Manifest.Fitting
import ClusterManifest.Proofs.Text.Digit

/-! How a mapping chooses a platform: what it says that chooses none, that names an unknown one or
more than one, and how one that it names alone is taken from its fields. The order of its entries
is no matter, and neither are entries that hold null. -/

namespace ClusterManifest

namespace Value

/-- The entries but those under a name. -/
def without (name : String) (entries : List (Scalar × Value)) : List (Scalar × Value) :=
  entries.filter (fun entry => entry.1 != .text name)

theorem lookup_without_self (name : String) (entries : List (Scalar × Value)) :
    lookup? name (without name entries) = none := by
  induction entries with
  | nil => rfl
  | cons entry entries ih =>
    by_cases same : entry.1 = .text name
    · simpa [without, same] using ih
    · simpa [without, same, lookup_cons] using ih

theorem lookup_without_other {name other : String} (differ : name ≠ other)
    (entries : List (Scalar × Value)) :
    lookup? name (without other entries) = lookup? name entries := by
  induction entries with
  | nil => rfl
  | cons entry entries ih =>
    by_cases same : entry.1 = .text other
    · simpa [without, same, lookup_cons, Ne.symm differ] using ih
    · by_cases here : entry.1 = .text name
      · simp [without, here, lookup_cons, differ]
      · simpa [without, same, here, lookup_cons] using ih

end Value

namespace Schema

variable {α : Type} {names : List String} {check : Value → Checked α}
  {entries : List (Scalar × Value)}

theorem required_without {other : String} (others : ∀ name ∈ names, name ≠ other) :
    required names check (Value.without other entries) = required names check entries :=
  required_congr (fun name among => Value.lookup_without_other (others name among) entries)

theorem optional_without {other : String} {fallback : α} (others : ∀ name ∈ names, name ≠ other) :
    optional names check fallback (Value.without other entries) =
      optional names check fallback entries :=
  optional_congr (fun name among => Value.lookup_without_other (others name among) entries)

end Schema

namespace Platform

open Schema

variable {entries others : List (Scalar × Value)} {kind : Kind} {payload : Value}
  {variant : Variant} {problem : Problem}

theorem kindField_without : kindField kind (Value.without "kind" entries) = .valid kind := by
  simp only [kindField, Schema.optional, find?, Value.lookup_without_self]

/-- To name the kind among the fields of a variant comes to the same as to take out what names it
there. -/
theorem Variant.ofEntries_kind :
    Variant.ofEntries kind (Value.put entries (.text "kind") (.scalar (.text kind.name))) =
      Variant.ofEntries kind (Value.without "kind" entries) := by
  cases kind <;>
    simp [Variant.ofEntries, Aws.ofEntries, Libvirt.ofEntries, OpenStack.ofEntries, kindField_put,
      kindField_without, required_put, optional_put, required_without, optional_without]

theorem Variant.kind_of_ofEntries (made : Variant.ofEntries kind entries = .valid variant) :
    variant.kind = kind := by
  cases kind <;>
  · obtain ⟨_, -, rfl⟩ := Checked.map_eq_valid.mp made
    rfl

/-- A payload holds the fields of a variant of a kind, whatever it says of the kind itself. -/
def Makes (kind : Kind) (payload : Value) (variant : Variant) : Prop :=
  ∃ fields, payload = .map fields ∧
    Variant.ofValue kind (.map (Value.without "kind" fields)) = .valid variant

theorem makes_iff :
    Variant.ofPayload kind payload = .valid variant ↔ Makes kind payload variant := by
  cases payload with
  | map fields =>
    simp [Variant.ofPayload, Checked.under_eq_valid, Variant.ofEntries_kind, Makes,
      Variant.ofValue, record, Checked.bind]
  | scalar | list | pairs | set =>
    simp [Variant.ofPayload, Checked.under_eq_valid, Checked.fail, Makes]

theorem kind_of_makes (makes : Makes kind payload variant) : variant.kind = kind := by
  obtain ⟨fields, -, made⟩ := makes
  exact Variant.kind_of_ofEntries made

/-- A platform with a variant and without a problem. -/
def Resolved (result : Checked Platform) (variant : Variant) : Prop :=
  ∃ platform, result = .valid platform ∧ platform.variant? = some variant ∧
    platform.problemText = ""

/-- A platform without a variant, and with a text that says why. -/
def Unresolved (result : Checked Platform) (text : String) : Prop :=
  ∃ platform, result = .valid platform ∧ platform.variant? = Option.none ∧
    platform.problemText = text

/-- What comes of a mapping that is taken for a platform, by those of its entries that count. -/
structure Classified (entries : List (Scalar × Value)) (result : Checked Platform) : Prop where
  noVariant : counting entries = [] →
    Unresolved result "platform must specify exactly one of: aws, libvirt, none, openstack"
  unknown : ∀ name, Unknown entries name → (∀ other, Unknown entries other → ¬other < name) →
    Unresolved result ("unknown platform " ++ String.ofList (Text.quotedCodes name) ++
      ", expected one of: aws, libvirt, none, openstack")
  several : (∀ name, ¬Unknown entries name) → 1 < (counting entries).length →
    ∃ kinds : List Kind, kinds.Pairwise (fun a b => a.name < b.name) ∧
      (∀ kind, kind ∈ kinds ↔ ∃ payload, (.text kind.name, payload) ∈ counting entries) ∧
      Unresolved result ("platform must specify exactly one variant, got: " ++
        ", ".intercalate (kinds.map Kind.name))
  single : ∀ kind payload, counting entries = [(.text kind.name, payload)] →
    (∀ variant, Resolved result variant ↔ Makes kind payload variant) ∧
    (∀ variant, Makes kind payload variant → variant.kind = kind) ∧
    ((¬∃ variant, Makes kind payload variant) → ∃ issues, result = .invalid issues)

theorem resolved_chosen {made : Checked Variant} :
    Resolved (made.map Platform.chosen) variant ↔ made = .valid variant := by
  cases made with
  | valid other => simp [Resolved, Checked.map, variant?, problemText]
  | invalid issues => simp [Resolved, Checked.map]

theorem not_unknown_known (known : ∀ entry ∈ counting entries, ∃ kind : Kind,
    entry.1 = .text kind.name) (name : List Nat) : ¬Unknown entries name := by
  rintro ⟨entry, among, unknown, -⟩
  obtain ⟨kind, named⟩ := known entry among
  exact unknown kind named

theorem classified_single (single : counting entries = [(.text kind.name, payload)]) :
    Classified entries ((Variant.ofPayload kind payload).map .chosen) where
  noVariant := fun none => nomatch none.symm.trans single
  unknown := by
    have known : ∀ entry ∈ counting entries, ∃ kind : Kind, entry.1 = .text kind.name := by
      intro entry among
      rw [single, List.mem_singleton] at among
      exact ⟨kind, congrArg Prod.fst among⟩
    exact fun name unknown _ => absurd unknown (not_unknown_known known name)
  several := by
    intro _ several
    rw [single] at several
    exact absurd several (Nat.lt_irrefl 1)
  single := by
    intro other content same
    rw [single] at same
    simp only [List.cons.injEq, Prod.mk.injEq, Scalar.text.injEq, and_true] at same
    obtain ⟨named, rfl⟩ := same
    have same := kind_of_name named
    subst same
    refine ⟨fun variant => resolved_chosen.trans makes_iff, fun variant => kind_of_makes, ?_⟩
    intro unmade
    cases made : Variant.ofPayload kind payload with
    | valid variant => exact absurd ⟨variant, makes_iff.mp made⟩ unmade
    | invalid issues => exact ⟨issues, rfl⟩

theorem sorted_kinds (p : Kind → Bool) :
    (Kind.all.filter p).Pairwise (fun a b => a.name < b.name) :=
  List.Pairwise.filter p (by decide)

theorem mem_present : kind ∈ Kind.all.filter (present entries) ↔
    ∃ payload, (.text kind.name, payload) ∈ counting entries := by
  have known : kind ∈ Kind.all := by cases kind <;> decide
  simp only [List.mem_filter, known, true_and, present, List.any_eq_true, beq_iff_eq]
  constructor
  · rintro ⟨⟨_, payload⟩, among, rfl⟩
    exact ⟨payload, among⟩
  · rintro ⟨payload, among⟩
    exact ⟨_, among, rfl⟩

/-- There is one reason at most for which a mapping does not single out a variant. -/
theorem Unsingled.unique {other : Problem} (first : Unsingled entries problem)
    (second : Unsingled entries other) : problem = other := by
  cases first with
  | noVariant none =>
    cases second with
    | noVariant _ => rfl
    | unknown known _ => exact absurd known (not_unknown_known (by simp [none]) _)
    | several _ several => simp [none] at several
  | @unknown name known least =>
    cases second with
    | noVariant none => exact absurd known (not_unknown_known (by simp [none]) _)
    | @unknown other also below =>
      rw [List.le_antisymm (List.not_lt.mp (least other also)) (List.not_lt.mp (below name known))]
    | several all _ => exact absurd known (not_unknown_known all _)
  | several all several =>
    cases second with
    | noVariant none => simp [none] at several
    | unknown known _ => exact absurd known (not_unknown_known all _)
    | several _ _ => rfl

theorem noVariant_message :
    Problem.noVariant.message =
      "platform must specify exactly one of: aws, libvirt, none, openstack" := by
  decide +kernel

theorem unknown_message (name : List Nat) :
    (Problem.unknown name).message = "unknown platform " ++ String.ofList (Text.quotedCodes name) ++
      ", expected one of: aws, libvirt, none, openstack" := by
  have expected : ", expected one of: " ++ Kind.names =
      ", expected one of: aws, libvirt, none, openstack" := by decide +kernel
  -- The equation of this case would have the texts compared character by character.
  unfold Problem.message
  dsimp only
  rw [String.append_assoc]
  exact congrArg ("unknown platform " ++ String.ofList (Text.quotedCodes name) ++ ·) expected

theorem unresolved_valid (problem : Problem) :
    Unresolved (.valid (.unresolved problem)) problem.message :=
  ⟨_, rfl, rfl, rfl⟩

theorem classified_unsingled (unsingled : Unsingled entries problem) :
    Classified entries (.valid (.unresolved problem)) where
  noVariant := by
    intro none
    cases unsingled.unique (.noVariant none)
    rw [← noVariant_message]
    exact unresolved_valid _
  unknown := by
    intro name known least
    cases unsingled.unique (.unknown known least)
    rw [← unknown_message]
    exact unresolved_valid _
  several := by
    intro known several
    cases unsingled.unique (.several (known_of_none known) several)
    exact ⟨_, sorted_kinds _, fun kind => mem_present, unresolved_valid _⟩
  single := fun kind payload single => absurd single (unsingled.not_single kind payload)

theorem classified_ofEntries (nameable : Nameable entries) :
    Classified entries (ofEntries entries) := by
  rcases ofEntries_cases nameable with ⟨problem, unsingled, read⟩ | ⟨kind, payload, single, read⟩
  · rw [read]
    exact classified_unsingled unsingled
  · rw [read]
    exact classified_single single

/-- The least of the names that are no variant's, where there is one. -/
theorem least_unknown {name : List Nat} (unknown : Unknown entries name) :
    ∃ least, Unknown entries least ∧ ∀ other, Unknown entries other → ¬other < least := by
  let unknowns := (counting entries).filter (fun entry => (Kind.ofKey? entry.1).isNone)
  have among (other : List Nat) :
      other ∈ unknowns.map (fun entry => entry.1.spelling) ↔ Unknown entries other := by
    simp only [unknowns, List.mem_map, List.mem_filter, Option.isNone_iff_eq_none, ofKey_none,
      Unknown, and_assoc]
  cases found : leastName? (unknowns.map (fun entry => entry.1.spelling)) with
  | none =>
    have none := leastName_none found
    have here := (among name).mpr unknown
    rw [none] at here
    cases here
  | some least =>
    obtain ⟨here, below⟩ := leastName_some found
    exact ⟨least, (among least).mp here, fun other known => below other ((among other).mpr known)⟩

theorem nameable_of_classified (classified : Classified entries (ofEntries entries)) :
    Nameable entries := by
  -- A number is never a variant's name, so the least of such names is to be told.
  intro n v among
  obtain ⟨least, unknown, below⟩ := least_unknown ⟨(.int n, v), among, fun _ => nofun, rfl⟩
  obtain ⟨platform, read, -⟩ := classified.unknown least unknown below
  exact (accepted_iff.mp ⟨platform, read⟩).2 n v among

section Order

/-! Why no variant is singled out depends on the keys of the entries that count, and not on their
order. -/

variable (same : ((counting others).map Prod.fst).Perm ((counting entries).map Prod.fst))
include same

theorem nameable_perm : Nameable others ↔ Nameable entries := by
  have keys (entries : List (Scalar × Value)) : Nameable entries ↔
      ∀ n, .int n ∈ (counting entries).map Prod.fst →
        (Text.decimal n.natAbs).length ≤ Text.Numeral.digitLimit := by
    simp [Nameable]
  simp only [keys, same.mem_iff]

theorem unknown_perm (name : List Nat) : Unknown others name ↔ Unknown entries name := by
  have keys (entries : List (Scalar × Value)) : Unknown entries name ↔
      ∃ key ∈ (counting entries).map Prod.fst, (∀ kind : Kind, key ≠ .text kind.name) ∧
        key.spelling = name := by
    simp [Unknown]
  simp only [keys, same.mem_iff]

theorem present_perm : present others = present entries := by
  funext kind
  have keys (entries : List (Scalar × Value)) : present entries kind =
      ((counting entries).map Prod.fst).any (· == .text kind.name) := by
    rw [List.any_map]
    rfl
  rw [keys, keys, same.any_eq]

theorem Unsingled.of_perm (unsingled : Unsingled entries problem) : Unsingled others problem := by
  cases unsingled with
  | noVariant none =>
    rw [none] at same
    exact .noVariant (List.map_eq_nil_iff.mp same.eq_nil)
  | unknown known least =>
    exact .unknown ((unknown_perm same _).mpr known)
      (fun other also => least other ((unknown_perm same other).mp also))
  | several known several =>
    rw [← present_perm same]
    refine .several (fun entry among => ?_) ?_
    · obtain ⟨other, also, key⟩ :=
        List.mem_map.mp (same.mem_iff.mp (List.mem_map_of_mem (f := Prod.fst) among))
      obtain ⟨kind, named⟩ := known other also
      exact ⟨kind, key ▸ named⟩
    · have lengths := same.length_eq
      rw [List.length_map, List.length_map] at lengths
      rwa [lengths]

end Order

theorem ofEntries_congr (same : counting others = counting entries) :
    ofEntries others = ofEntries entries := by
  rw [ofEntries.eq_1, ofEntries.eq_1]
  simp only [← counting.eq_1, same]

/-- The order of the entries is no matter, and neither are those that hold null. -/
theorem ofEntries_perm (same : (counting others).Perm (counting entries)) :
    ofEntries others = ofEntries entries := by
  have keys := same.map Prod.fst
  by_cases nameable : Nameable entries
  · rcases ofEntries_cases nameable with ⟨problem, unsingled, read⟩ | ⟨kind, payload, single, read⟩
    · rw [read]
      rcases ofEntries_cases ((nameable_perm keys).mpr nameable) with
        ⟨other, also, again⟩ | ⟨kind, payload, single, -⟩
      · rw [again, also.unique (unsingled.of_perm keys)]
      · exact absurd single ((unsingled.of_perm keys).not_single kind payload)
    -- A list of one entry has no other order.
    · have alike := same
      rw [single] at alike
      exact ofEntries_congr ((List.perm_singleton.mp alike).trans single.symm)
  · rw [refused_unnameable nameable, refused_unnameable (mt (nameable_perm keys).mp nameable)]

theorem append_ne_empty {front rest : String} (some : front.toList ≠ [] ∨ rest.toList ≠ []) :
    front ++ rest ≠ "" := by
  intro none
  have empty := congrArg String.toList none
  rw [String.toList_append] at empty
  obtain ⟨noFront, noRest⟩ := List.append_eq_nil_iff.mp empty
  exact some.elim (absurd noFront) (absurd noRest)

theorem message_ne_empty (problem : Problem) : problem.message ≠ "" := by
  have named : Kind.names.toList ≠ [] := by decide +kernel
  cases problem with
  | noVariant => exact append_ne_empty (.inr named)
  | unknown name => exact append_ne_empty (.inr named)
  | several kinds => exact append_ne_empty (.inl (by decide +kernel))

theorem variant_iff (platform : Platform) :
    platform.variant?.isSome = true ↔ platform.problemText = "" := by
  cases platform with
  | chosen variant => simp [variant?, problemText]
  | unresolved problem => simp [variant?, problemText, message_ne_empty]

/-- A mapping is taken for a platform by its entries that count, and not by their order, unless one
of their keys is a number that cannot be written. What is accepted has a variant or a problem, and
never both. -/
theorem ofValue_classified (entries : List (Scalar × Value)) :
    (Classified entries (ofValue (.map entries)) ↔ Nameable entries) ∧
    (∀ platform, ofValue (.map entries) = .valid platform →
      (platform.variant?.isSome ↔ platform.problemText = "")) ∧
    ∀ others, (counting others).Perm (counting entries) →
      ofValue (.map others) = ofValue (.map entries) :=
  ⟨⟨nameable_of_classified, classified_ofEntries⟩, fun platform _ => variant_iff platform,
    fun _ => ofEntries_perm⟩

theorem unnameable_refused (unnameable : ¬Nameable entries) :
    (∃ issues, ofValue (.map entries) = .invalid issues) ∧
      ¬Classified entries (ofValue (.map entries)) :=
  ⟨⟨_, refused_unnameable unnameable⟩,
    fun classified => unnameable (nameable_of_classified classified)⟩

/-- A mapping that names the variant without fields, and another platform with null. The fields try
to make it a third one. -/
def disguised : List (Scalar × Value) :=
  [(.text "gcp", .scalar .null), (.text "none", .map [(.text "kind", .scalar (.text "aws"))])]

theorem disguised_classified :
    Classified disguised (ofValue (.map disguised)) ∧
      Resolved (ofValue (.map disguised)) .none ∧
      ofValue (.map disguised.reverse) = ofValue (.map disguised) := by
  have counted : counting disguised =
      [(.text "none", .map [(.text "kind", .scalar (.text "aws"))])] := rfl
  have nameable : Nameable disguised := by
    intro n v among
    rw [counted, List.mem_singleton] at among
    cases among
  obtain ⟨classified, -, ordered⟩ := ofValue_classified disguised
  have single := (classified.mpr nameable).single .none _ counted
  refine ⟨classified.mpr nameable, (single.1 _).mpr ⟨_, rfl, rfl⟩, ordered _ ?_⟩
  exact (List.reverse_perm disguised).filter _

/-- A mapping whose only key is a power of sixteen. -/
def powerKey (n : Nat) : List (Scalar × Value) :=
  [(.int (Nat.pow 16 n : Int), .scalar (.text "x"))]

theorem powerKey_unnameable {n : Nat}
    (long : Nat.pow 10 Text.Numeral.digitLimit ≤ Nat.pow 16 n) : ¬Nameable (powerKey n) := by
  intro nameable
  have short := nameable _ _ (List.mem_singleton.mpr rfl)
  rw [Int.natAbs_natCast] at short
  exact Nat.not_le.mpr (Text.decimal_long long) short

theorem powerKey_unknown (n : Nat) : ∃ name, Unknown (powerKey n) name ∧
    ∀ other, Unknown (powerKey n) other → ¬other < name :=
  least_unknown ⟨_, List.mem_singleton.mpr rfl, fun _ => nofun, rfl⟩

/-- One with more than four thousand digits is refused, where it should be named. -/
theorem powerKey_refused :
    (∃ name, Unknown (powerKey 3572) name ∧
      ∀ other, Unknown (powerKey 3572) other → ¬other < name) ∧
    (∃ issues, ofValue (.map (powerKey 3572)) = .invalid issues) ∧
    ¬Classified (powerKey 3572) (ofValue (.map (powerKey 3572))) := by
  have unnameable : ¬Nameable (powerKey 3572) := powerKey_unnameable (by decide +kernel)
  exact ⟨powerKey_unknown 3572, unnameable_refused unnameable⟩

end Platform

end ClusterManifest
