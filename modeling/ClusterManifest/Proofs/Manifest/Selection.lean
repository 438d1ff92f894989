import ClusterManifest.Platform
import ClusterManifest.Proofs.Result
import ClusterManifest.Proofs.Schema.Fitting
import ClusterManifest.Proofs.Yaml.Roundtrip

/-! Which variant a mapping singles out as a platform, and what is said where it does not single out
one. To say it, the keys that are no variant's must be written. -/

namespace ClusterManifest

/-- What a scalar is written as, however many digits that takes. -/
def Scalar.spelling : Scalar → List Nat
  | .int n => plainText.codes (Text.decimalInt n)
  | key => (key.plainText.toOption).getD []

theorem Scalar.plainText_iff {key : Scalar} {name : List Nat} : key.plainText = .ok name ↔
    (∀ n, key = .int n → (Text.decimal n.natAbs).length ≤ Text.Numeral.digitLimit) ∧
      key.spelling = name := by
  cases key with
  | int n =>
    simp only [plainText, spelling, Scalar.int.injEq, forall_eq']
    rw [← Text.Numeral.write_iff]
    constructor
    · intro made
      obtain ⟨w, written, same⟩ := map_ok.mp made
      rw [← (Text.Numeral.write_ok written).1]
      exact ⟨⟨w, written⟩, same⟩
    · rintro ⟨⟨w, written⟩, same⟩
      rw [written, (Text.Numeral.write_ok written).1, ← same]
      rfl
  | null | bool | float | text | illFormed | bytes | date | moment =>
    simp [plainText, spelling, Except.toOption]

theorem Scalar.plainText_error {key : Scalar} {fault : Text.Numeral.Fault}
    (unwritten : key.plainText = .error fault) : fault = .tooLarge := by
  cases key with
  | int n =>
    simp only [plainText, Text.Numeral.write] at unwritten
    split at unwritten <;> cases unwritten
    rfl
  | null | bool | float | text | illFormed | bytes | date | moment => cases unwritten

namespace Platform

/-- The entries that do not hold null. -/
def counting (entries : List (Scalar × Value)) : List (Scalar × Value) :=
  entries.filter (fun entry => !entry.2.isNull)

/-- Each number that is a key has few enough digits to be written. -/
def Nameable (entries : List (Scalar × Value)) : Prop :=
  ∀ n v, (.int n, v) ∈ counting entries →
    (Text.decimal n.natAbs).length ≤ Text.Numeral.digitLimit

/-- A key that counts and is no variant's is written with these code points. -/
def Unknown (entries : List (Scalar × Value)) (name : List Nat) : Prop :=
  ∃ entry ∈ counting entries, (∀ kind : Kind, entry.1 ≠ .text kind.name) ∧
    entry.1.spelling = name

def present (entries : List (Scalar × Value)) (kind : Kind) : Bool :=
  (counting entries).any (fun entry => entry.1 == .text kind.name)

/-- Why a mapping does not single out a variant. -/
inductive Unsingled (entries : List (Scalar × Value)) : Problem → Prop
  | noVariant : counting entries = [] → Unsingled entries .noVariant
  | unknown {name : List Nat} :
    Unknown entries name → (∀ other, Unknown entries other → ¬other < name) →
      Unsingled entries (.unknown name)
  | several :
    (∀ entry ∈ counting entries, ∃ kind : Kind, entry.1 = .text kind.name) →
      1 < (counting entries).length →
      Unsingled entries (.several (Kind.all.filter (present entries)))

variable {entries : List (Scalar × Value)}

theorem Unsingled.not_single {problem : Problem} (unsingled : Unsingled entries problem)
    (kind : Kind) (payload : Value) : counting entries ≠ [(.text kind.name, payload)] := by
  intro single
  cases unsingled with
  | noVariant none => cases none.symm.trans single
  | unknown known _ =>
    obtain ⟨entry, among, unknown, -⟩ := known
    rw [single, List.mem_singleton] at among
    subst among
    exact unknown kind rfl
  | several _ several =>
    rw [single] at several
    exact absurd several (Nat.lt_irrefl 1)

theorem ofKey_iff {key : Scalar} {kind : Kind} :
    Kind.ofKey? key = some kind ↔ key = .text kind.name := by
  constructor
  · intro known
    cases key with
    | text name =>
      have same := List.find?_some known
      rw [beq_iff_eq.mp same]
    | null | bool | int | float | illFormed | bytes | date | moment => cases known
  · rintro rfl
    cases kind <;> rfl

theorem ofEntries_single (kind : Kind) {payload : Value} (set : payload.isNull = false) :
    ofEntries [(.text kind.name, payload)] = (Variant.ofPayload kind payload).map .chosen := by
  have named : Kind.ofKey? (.text kind.name) = some kind := ofKey_iff.mpr rfl
  simp [ofEntries, set, named, leastName?, pure, Except.pure]

theorem ofKey_none {key : Scalar} :
    Kind.ofKey? key = Option.none ↔ ∀ kind : Kind, key ≠ .text kind.name := by
  rw [Option.eq_none_iff_forall_ne_some]
  exact forall_congr' (fun kind => not_congr ofKey_iff)

theorem not_lesser_trans {a b c : List Nat} (first : ¬b < a) (second : ¬c < b) : ¬c < a :=
  List.not_lt.mpr (List.le_trans (List.not_lt.mp first) (List.not_lt.mp second))

theorem lesserName_least (a b : List Nat) :
    (lesserName a b = a ∨ lesserName a b = b) ∧ ¬a < lesserName a b ∧ ¬b < lesserName a b := by
  unfold lesserName
  split
  · next less => exact ⟨.inr rfl, List.not_lt.mpr (List.le_of_lt less), List.lt_irrefl b⟩
  · next notLess => exact ⟨.inl rfl, List.lt_irrefl a, notLess⟩

theorem foldl_lesserName (names : List (List Nat)) (first : List Nat) :
    names.foldl lesserName first ∈ first :: names ∧
      ∀ other ∈ first :: names, ¬other < names.foldl lesserName first := by
  induction names generalizing first with
  | nil => simp
  | cons name names ih =>
    obtain ⟨among, least⟩ := ih (lesserName first name)
    obtain ⟨same, belowFirst, belowName⟩ := lesserName_least first name
    have below := least _ (List.mem_cons_self ..)
    rw [List.foldl_cons]
    constructor
    · rcases List.mem_cons.mp among with here | later
      · rw [here]
        rcases same with same | same <;> simp [same]
      · exact List.mem_cons_of_mem _ (List.mem_cons_of_mem _ later)
    · intro other within
      rcases List.mem_cons.mp within with rfl | within
      · exact not_lesser_trans below belowFirst
      · rcases List.mem_cons.mp within with rfl | later
        · exact not_lesser_trans below belowName
        · exact least other (List.mem_cons_of_mem _ later)

theorem leastName_some {names : List (List Nat)} {name : List Nat}
    (found : leastName? names = some name) : name ∈ names ∧ ∀ other ∈ names, ¬other < name := by
  cases names with
  | nil => cases found
  | cons first names =>
    cases found
    exact foldl_lesserName names first

theorem leastName_none {names : List (List Nat)} (found : leastName? names = Option.none) :
    names = [] := by
  cases names with
  | nil => rfl
  | cons first names => cases found

theorem present_iff (kind : Kind) :
    ((counting entries).filterMap (fun entry => Kind.ofKey? entry.1)).contains kind =
      present entries kind := by
  rw [Bool.eq_iff_iff, List.contains_iff_mem, List.mem_filterMap, present, List.any_eq_true]
  simp only [ofKey_iff, beq_iff_eq]

/-- The keys that are no variant's are written, or one is a number too large for that. -/
theorem names_ok :
    (∃ names, ((counting entries).filter (fun entry => (Kind.ofKey? entry.1).isNone)).mapM
      (fun entry => entry.1.plainText) = .ok names) ↔ Nameable entries := by
  rw [Results.all_ok]
  constructor
  · intro all n v among
    obtain ⟨name, plain⟩ := all (.int n, v) (List.mem_filter.mpr ⟨among, rfl⟩)
    exact (Scalar.plainText_iff.mp plain).1 n rfl
  · rintro nameable ⟨key, v⟩ among
    refine ⟨key.spelling, Scalar.plainText_iff.mpr ⟨?_, rfl⟩⟩
    rintro n rfl
    exact nameable n v (List.mem_filter.mp among).1

theorem unknown_iff {names : List (List Nat)}
    (made : ((counting entries).filter (fun entry => (Kind.ofKey? entry.1).isNone)).mapM
      (fun entry => entry.1.plainText) = .ok names) (name : List Nat) :
    name ∈ names ↔ Unknown entries name := by
  have nameable := names_ok.mp ⟨names, made⟩
  rw [Results.mem_all made]
  constructor
  · rintro ⟨entry, among, plain⟩
    obtain ⟨counts, unknown⟩ := List.mem_filter.mp among
    exact ⟨entry, counts, ofKey_none.mp (Option.isNone_iff_eq_none.mp unknown),
      (Scalar.plainText_iff.mp plain).2⟩
  · rintro ⟨⟨key, v⟩, counts, unknown, spelled⟩
    have short : ∀ n, key = .int n →
        (Text.decimal n.natAbs).length ≤ Text.Numeral.digitLimit := by
      rintro n rfl
      exact nameable n v counts
    exact ⟨(key, v), List.mem_filter.mpr
      ⟨counts, Option.isNone_iff_eq_none.mpr (ofKey_none.mpr unknown)⟩,
      Scalar.plainText_iff.mpr ⟨short, spelled⟩⟩

theorem known_of_none (none : ∀ name, ¬Unknown entries name) :
    ∀ entry ∈ counting entries, ∃ kind : Kind, entry.1 = .text kind.name := by
  intro entry among
  cases known : Kind.ofKey? entry.1 with
  | some kind => exact ⟨kind, ofKey_iff.mp known⟩
  | none => exact absurd ⟨entry, among, ofKey_none.mp known, rfl⟩ (none _)

/-- A mapping singles out a variant with its fields, or it does not for a reason. -/
theorem ofEntries_cases (nameable : Nameable entries) :
    (∃ problem, Unsingled entries problem ∧ ofEntries entries = .valid (.unresolved problem)) ∨
    ∃ kind payload, counting entries = [(.text (Kind.name kind), payload)] ∧
      ofEntries entries = (Variant.ofPayload kind payload).map .chosen := by
  obtain ⟨names, made⟩ := names_ok.mpr nameable
  have unknown := unknown_iff made
  have unfolded : ofEntries entries = _ := ofEntries.eq_1 entries
  simp only [← counting.eq_1, made] at unfolded
  cases least : leastName? names with
  | some name =>
    obtain ⟨among, below⟩ := leastName_some least
    simp only [least] at unfolded
    exact .inl ⟨.unknown name, .unknown ((unknown name).mp among)
      (fun other known => below other ((unknown other).mpr known)), unfolded⟩
  | none =>
    have none := leastName_none least
    have known := known_of_none (fun name unwritten => by
      have among := (unknown name).mpr unwritten
      rw [none] at among
      cases among)
    simp only [least] at unfolded
    cases each : counting entries with
    | nil =>
      simp only [each] at unfolded
      exact .inl ⟨.noVariant, .noVariant each, unfolded⟩
    | cons entry rest =>
      cases rest with
      | nil =>
        obtain ⟨key, payload⟩ := entry
        have among : (key, payload) ∈ counting entries := by simp [each]
        obtain ⟨kind, rfl⟩ := known _ among
        have named : Kind.ofKey? (.text kind.name) = some kind := ofKey_iff.mpr rfl
        simp only [each, named] at unfolded
        exact .inr ⟨kind, payload, rfl, unfolded⟩
      | cons second rest =>
        have several : 1 < (counting entries).length := by simp [each]
        have presents : Kind.all.filter
            ((counting entries).filterMap (fun entry => Kind.ofKey? entry.1)).contains =
            Kind.all.filter (present entries) :=
          List.filter_congr (fun kind _ => present_iff kind)
        rw [each] at presents
        simp only [each, presents] at unfolded
        exact .inl ⟨_, .several known several, unfolded⟩

theorem refused_unnameable (unnameable : ¬Nameable entries) :
    ofEntries entries = .fail (.refused Text.Numeral.Fault.tooLarge.message) := by
  unfold ofEntries
  dsimp only
  split
  · next fault failed =>
    obtain ⟨entry, -, unwritten⟩ := Results.mapM_error failed
    rw [Scalar.plainText_error unwritten]
  · next names made => exact absurd (names_ok.mp ⟨names, made⟩) unnameable

theorem not_accepted_unnameable (unnameable : ¬Nameable entries) :
    ¬(ofEntries entries).Accepted := by
  rw [refused_unnameable unnameable]
  exact Schema.Checked.not_accepted_fail _

end Platform

end ClusterManifest
