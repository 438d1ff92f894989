import ClusterManifest.Proofs.Manifest.Fitting

/-! What a manifest that fits its schema may still lack, and which lack is told first. -/

namespace ClusterManifest

open Schema Checked

def Violation.rank : Violation → Nat
  | .apiVersion => 0
  | .name => 1
  | .baseDomain => 2
  | .platform | .unresolved _ => 3
  | .pullSecret => 4

namespace Manifest

/-- A text that is not there, or empty. -/
def Blank (names : List String) : List (Scalar × Value) → Prop :=
  Optional names (fun v => text v = .valid "")

/-- What the mapping of a manifest may lack: a text that has to be there and to hold something, or
a platform that singles out a variant. -/
def Lacks (entries : List (Scalar × Value)) : Violation → Prop
  | .apiVersion => Blank ["apiVersion", "api_version"] entries
  | .name => Optional ["metadata"] (Mapping (Blank ["name"])) entries
  | .baseDomain => Blank ["baseDomain", "base_domain"] entries
  | .platform => Optional ["platform"] (fun v => v = .scalar .null) entries
  | .unresolved problem =>
    ∃ platform, Named entries ["platform"] (.map platform) ∧ Platform.Unsingled platform problem
  | .pullSecret => Blank ["pullSecret", "pull_secret"] entries

def LacksFirst (entries : List (Scalar × Value)) (violation : Violation) : Prop :=
  Lacks entries violation ∧ ∀ other, Lacks entries other → violation.rank ≤ other.rank

variable {entries : List (Scalar × Value)} {m : Manifest}

theorem blank_iff {names : List String} {phrase : Phrase}
    (read : Schema.optional names text "" entries = .valid phrase) :
    Blank names entries ↔ phrase.isEmpty = true := by
  rw [Phrase.isEmpty_iff]
  rcases optional_cases read with ⟨absent, rfl⟩ | ⟨v, named, accepted⟩
  · exact iff_of_true (fun v named => absurd named (absent v)) rfl
  · constructor
    · intro blank
      exact Checked.valid.inj (accepted.symm.trans (blank v named))
    · rintro rfl w other
      rw [← named_unique named other]
      exact accepted

theorem nameBlank_iff (reads : Reads entries m) :
    Optional ["metadata"] (Mapping (Blank ["name"])) entries ↔
      m.metadata.name.isEmpty = true := by
  rcases optional_cases reads.metadata with ⟨absent, same⟩ | ⟨v, named, accepted⟩
  · rw [same]
    exact iff_of_true (fun v named => absurd named (absent v)) rfl
  · obtain ⟨inner, record, read⟩ := bind_eq_valid.mp accepted
    obtain ⟨name, given, same⟩ := map_eq_valid.mp read
    have mapping := record_eq_valid.mp record
    rw [← same, ← blank_iff given]
    constructor
    · intro lacks
      obtain ⟨other, shape, blank⟩ := lacks v named
      cases mapping.symm.trans shape
      exact blank
    · intro blank w other
      rw [← named_unique named other]
      exact ⟨inner, mapping, blank⟩

/-- The platform of a manifest is none where it is absent or null, unresolved where a mapping does
not single out a variant, and the variant where it does. -/
theorem platform_cases (reads : Reads entries m) :
    (Optional ["platform"] (fun v => v = .scalar .null) entries ∧ m.platform = none) ∨
    (∃ platform problem, Named entries ["platform"] (.map platform) ∧
      Platform.Unsingled platform problem ∧ m.platform = some (.unresolved problem)) ∨
    ∃ platform kind payload variant, Named entries ["platform"] (.map platform) ∧
      Platform.counting platform = [(.text (Platform.Kind.name kind), payload)] ∧
      m.platform = some (.chosen variant) := by
  rcases optional_cases reads.platform with ⟨absent, same⟩ | ⟨v, named, accepted⟩
  · exact .inl ⟨fun v named => absurd named (absent v), same⟩
  · by_cases null : v = .scalar .null
    · subst null
      exact .inl ⟨fun w other => (named_unique named other).symm, (Checked.valid.inj accepted).symm⟩
    · have set : v.isNull = false := by
        cases v with
        | scalar s => cases s <;> first | rfl | exact absurd rfl null
        | list | pairs | set | map => rfl
      simp only [orNull, set, Bool.false_eq_true, if_false] at accepted
      obtain ⟨platform, read, same⟩ := map_eq_valid.mp accepted
      obtain ⟨inner, record, made⟩ := bind_eq_valid.mp read
      rw [record_eq_valid.mp record] at named
      have nameable := (Platform.accepted_iff.mp ⟨platform, made⟩).2
      rcases Platform.ofEntries_cases nameable with
        ⟨problem, unsingled, found⟩ | ⟨kind, payload, single, found⟩
      · cases found.symm.trans made
        exact .inr (.inl ⟨inner, problem, named, unsingled, same.symm⟩)
      · obtain ⟨variant, -, rfl⟩ := map_eq_valid.mp (found.symm.trans made)
        exact .inr (.inr ⟨inner, kind, payload, variant, named, single, same.symm⟩)

/-- Where a variant was singled out, nothing is lacking of the platform. -/
theorem not_lacks_platform (reads : Reads entries m) {variant : Platform.Variant}
    (chosen : m.platform = some (.chosen variant)) {violation : Violation}
    (third : violation.rank = 3) : ¬Lacks entries violation := by
  rcases platform_cases reads with ⟨-, none⟩ | ⟨_, _, -, -, unresolved⟩ |
    ⟨platform, kind, payload, _, named, single, -⟩
  · cases chosen.symm.trans none
  · cases chosen.symm.trans unresolved
  · intro lacks
    cases violation with
    | platform => cases lacks _ named
    | unresolved problem =>
      obtain ⟨other, there, unsingled⟩ := lacks
      cases named_unique named there
      exact unsingled.not_single kind payload single
    | apiVersion | name | baseDomain | pullSecret => cases third

theorem lacksFirst_of {violation : Violation} (lacks : Lacks entries violation)
    (before : ∀ other, other.rank < violation.rank → ¬Lacks entries other) :
    LacksFirst entries violation :=
  ⟨lacks, fun other found => Nat.not_lt.mp (fun less => before other less found)⟩

/-- What the check of a manifest tells is what its mapping lacks first. -/
theorem violation_cases (reads : Reads entries m) :
    (∃ violation, m.violation? = some violation ∧ LacksFirst entries violation) ∨
      (m.violation? = none ∧ ∀ violation, ¬Lacks entries violation) := by
  unfold violation?
  have version : Lacks entries .apiVersion ↔ m.apiVersion.isEmpty = true :=
    blank_iff reads.apiVersion
  have name : Lacks entries .name ↔ m.metadata.name.isEmpty = true := nameBlank_iff reads
  have domain : Lacks entries .baseDomain ↔ m.baseDomain.isEmpty = true :=
    blank_iff reads.baseDomain
  have secret : Lacks entries .pullSecret ↔ m.pullSecret.isEmpty = true :=
    blank_iff reads.pullSecret
  by_cases noVersion : m.apiVersion.isEmpty = true
  · refine .inl ⟨.apiVersion, by simp [noVersion], lacksFirst_of (version.mpr noVersion) ?_⟩
    exact fun other less => absurd less (Nat.not_lt_zero _)
  by_cases noName : m.metadata.name.isEmpty = true
  · refine .inl ⟨.name, by simp [noVersion, noName], lacksFirst_of (name.mpr noName) ?_⟩
    intro other less
    cases other <;> simp_all [Violation.rank]
  by_cases noDomain : m.baseDomain.isEmpty = true
  · refine .inl ⟨.baseDomain, by simp [noVersion, noName, noDomain],
      lacksFirst_of (domain.mpr noDomain) ?_⟩
    intro other less
    cases other <;> simp_all [Violation.rank]
  rcases platform_cases reads with ⟨null, none⟩ |
    ⟨platform, problem, there, unsingled, unresolved⟩ | ⟨_, _, _, variant, -, -, chosen⟩
  · refine .inl ⟨.platform, by simp [noVersion, noName, noDomain, none], lacksFirst_of null ?_⟩
    intro other less
    cases other <;> simp_all [Violation.rank]
  · refine .inl ⟨.unresolved problem, by simp [noVersion, noName, noDomain, unresolved],
      lacksFirst_of ⟨platform, there, unsingled⟩ ?_⟩
    intro other less
    cases other <;> simp_all [Violation.rank]
  have placed {violation : Violation} (third : violation.rank = 3) :=
    not_lacks_platform reads chosen third
  by_cases noSecret : m.pullSecret.isEmpty = true
  · refine .inl ⟨.pullSecret, by simp [noVersion, noName, noDomain, chosen, noSecret],
      lacksFirst_of (secret.mpr noSecret) ?_⟩
    intro other less
    cases other with
    | platform | unresolved _ => exact placed rfl
    | apiVersion | name | baseDomain | pullSecret => simp_all [Violation.rank]
  refine .inr ⟨by simp [noVersion, noName, noDomain, chosen, noSecret], fun violation => ?_⟩
  cases violation with
  | platform | unresolved _ => exact placed rfl
  | apiVersion => exact mt version.mp noVersion
  | name => exact mt name.mp noName
  | baseDomain => exact mt domain.mp noDomain
  | pullSecret => exact mt secret.mp noSecret

end Manifest

end ClusterManifest
