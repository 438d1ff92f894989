import ClusterManifest.Proofs.Manifest.Choice
import ClusterManifest.Proofs.Manifest.Lacking
import ClusterManifest.Proofs.Store.Loading
import ClusterManifest.Proofs.Yaml.LongKey

/-! How loading judges a mapping: as no manifest where a field does not fit, as lacking something
where all fields fit and one has to hold more, and as a manifest otherwise. Only a number that is a
key of the platform and too large to be written makes it judge otherwise. -/

namespace ClusterManifest.Store

open Manifest (Fits Lacks LacksFirst Nameable)

structure Judged (entries : List (Scalar × Value)) (result : Except Failure Bool) : Prop where
  misshapen : Reports result .parse ↔ ¬Fits entries
  lacking : Reports result .validation ↔ Fits entries ∧ ∃ violation, Lacks entries violation
  told : ∀ failure, result = .error failure → failure.category? = some .validation →
    ∃ violation, LacksFirst entries violation ∧
      failure.message = "invalid install-config.yaml: " ++ violation.message
  complete : result = .ok true ↔ Fits entries ∧ ∀ violation, ¬Lacks entries violation

variable {store : Store} {data : Text.Bytes} {entries : List (Scalar × Value)}

/-- A mapping whose fields are not accepted is reported as no manifest. -/
theorem load_rejected (store : Store) (read : Yaml.read data = .ok (.map entries))
    (rejected : ¬(Manifest.ofEntries entries).Accepted) :
    ∃ issues, (store.load (.data data)).1 = .error (.unreadable (.schema issues)) := by
  cases made : Manifest.ofEntries entries with
  | valid m => exact absurd ⟨m, made⟩ rejected
  | invalid issues =>
    refine ⟨issues, ?_⟩
    simp only [load, accept, Manifest.read, read, Manifest.ofDocumentValue, made]

theorem load_accepted (read : Yaml.read data = .ok (.map entries)) {m : Manifest}
    (made : Manifest.ofEntries entries = .valid m) :
    (store.load (.data data)).1 = match m.violation? with
      | some violation => .error (.fileLacking violation)
      | none => .ok true := by
  simp only [load, accept, Manifest.read, read, Manifest.ofDocumentValue, made]
  cases m.violation? <;> rfl

theorem judged_rejected {issues : List Schema.Issue} (misfit : ¬Fits entries) :
    Judged entries (.error (.unreadable (.schema issues))) where
  misshapen := iff_of_true (reports_error.mpr rfl) misfit
  lacking := iff_of_false (fun told => nomatch reports_error.mp told) (fun lacks => misfit lacks.1)
  told := by
    intro failure same validation
    cases same
    cases validation
  complete := iff_of_false nofun (fun complete => misfit complete.1)

theorem judged_lacking {violation : Violation} (fits : Fits entries)
    (first : LacksFirst entries violation) :
    Judged entries (.error (.fileLacking violation)) where
  misshapen := iff_of_false (fun told => nomatch reports_error.mp told) (not_not_intro fits)
  lacking := iff_of_true (reports_error.mpr rfl) ⟨fits, violation, first.1⟩
  told := by
    intro failure same _
    cases same
    exact ⟨violation, first, rfl⟩
  complete := iff_of_false nofun (fun complete => complete.2 violation first.1)

theorem judged_complete (fits : Fits entries) (none : ∀ violation, ¬Lacks entries violation) :
    Judged entries (.ok true) where
  misshapen := iff_of_false not_reports_ok (not_not_intro fits)
  lacking := iff_of_false not_reports_ok (fun ⟨_, violation, lacks⟩ => none violation lacks)
  told := nofun
  complete := iff_of_true rfl ⟨fits, none⟩

/-- A mapping that fits is not accepted if a key of its platform cannot be written. -/
theorem not_judged_unnameable (read : Yaml.read data = .ok (.map entries)) (fits : Fits entries)
    (unnameable : ¬Nameable entries) :
    Reports (store.load (.data data)).1 .parse ∧ ¬Judged entries (store.load (.data data)).1 := by
  obtain ⟨issues, result⟩ := load_rejected store read
    (fun accepted => unnameable (Manifest.accepted_iff.mp accepted).2)
  have told : Reports (store.load (.data data)).1 .parse := by
    rw [result]
    exact reports_error.mpr rfl
  exact ⟨told, fun judged => judged.misshapen.mp told fits⟩

/-- What was read as a mapping is judged by its fields, unless they fit and a key of the platform is
a number that cannot be written. -/
theorem load_judged (read : Yaml.read data = .ok (.map entries)) :
    Judged entries (store.load (.data data)).1 ↔ (Fits entries → Nameable entries) := by
  constructor
  · intro judged fits
    by_cases nameable : Nameable entries
    · exact nameable
    · exact absurd judged (not_judged_unnameable read fits nameable).2
  · intro nameable
    by_cases fits : Fits entries
    · obtain ⟨m, made⟩ := Manifest.accepted_iff.mpr ⟨fits, nameable fits⟩
      rw [load_accepted read made]
      rcases Manifest.violation_cases (Manifest.reads_of_valid made) with
        ⟨violation, found, first⟩ | ⟨found, none⟩
      · rw [found]
        exact judged_lacking fits first
      · rw [found]
        exact judged_complete fits none
    · obtain ⟨issues, result⟩ := load_rejected store read
        (fun accepted => fits (Manifest.accepted_iff.mp accepted).1)
      rw [result]
      exact judged_rejected fits

/-- A platform of two variants, the first of which does not have the fields that it needs. -/
def crowdedFields : List (String × Document) :=
  [("platform", .block [("aws", .number 5), ("none", .block [])])]

def crowdedText : String := "platform:\n  aws: 5\n  none: \x7b\x7d\n"

def crowdedData : Text.Bytes := Text.Utf8.encode crowdedText.toList

def crowdedEntries : List (Scalar × Value) :=
  [(.text "platform", .map [(.text "aws", .scalar (.int 5)), (.text "none", .map [])])]

theorem crowded_read : Yaml.read crowdedData = .ok (.map crowdedEntries) := by
  have written : Yaml.write crowdedFields = .ok crowdedText :=
    ok_of_toOption (by decide +kernel)
  have fit : Yaml.KeyFits "platform".toList ∧ Yaml.KeyFits "aws".toList ∧
      Yaml.KeyFits "none".toList := by decide +kernel
  exact (Yaml.read_written written (by decide)).1
    ⟨fit.1, ⟨fit.2.1, trivial, fit.2.2, trivial, trivial⟩, trivial⟩

/-- The second variant keeps the fields of the first from being looked at. -/
theorem crowded_judged :
    Judged crowdedEntries (empty.load (.data crowdedData)).1 ∧
      Reports (empty.load (.data crowdedData)).1 .validation := by
  have accepted : (Manifest.ofEntries crowdedEntries).Accepted := ⟨_, rfl⟩
  obtain ⟨fits, nameable⟩ := Manifest.accepted_iff.mp accepted
  have judged : Judged crowdedEntries (empty.load (.data crowdedData)).1 :=
    (load_judged crowded_read).mpr (fun _ => nameable)
  have lacks : Lacks crowdedEntries .apiVersion :=
    fun v named => absurd named (Schema.not_named rfl)
  exact ⟨judged, judged.lacking.mpr ⟨fits, .apiVersion, lacks⟩⟩

/-- A platform whose only key is a power of sixteen. -/
def powerEntries (n : Nat) : List (Scalar × Value) :=
  [(.text "platform", .map [(.int (Nat.pow 16 n : Int), .scalar (.text "x"))])]

theorem powerEntries_fit (n : Nat) : Fits (powerEntries n) := by
  have absent {names : List String} {fits : Value → Prop}
      (none : Schema.find? (powerEntries n) names = none) :
      Schema.Optional names fits (powerEntries n) :=
    fun v named => absurd named (Schema.not_named none)
  refine ⟨absent rfl, absent rfl, absent rfl, absent rfl, absent rfl, absent rfl, ?_, absent rfl⟩
  intro v named
  cases Schema.named_unique named (.here rfl)
  refine .inr ⟨_, rfl, fun kind payload single => ?_⟩
  cases single

theorem power_unnameable {n : Nat}
    (long : Nat.pow 10 Text.Numeral.digitLimit ≤ Nat.pow 16 n) : ¬Nameable (powerEntries n) := by
  intro nameable
  exact Platform.powerKey_unnameable long (nameable _ (.here rfl))

def longKeyData : Text.Bytes := Text.Utf8.encode (Yaml.longKey 3572)

/-- All fields fit and the version is lacking, but what is reported is the platform's key, which has
more than four thousand digits. -/
theorem load_longKey :
    Yaml.read longKeyData = .ok (.map (powerEntries 3572)) ∧ Fits (powerEntries 3572) ∧
      Lacks (powerEntries 3572) .apiVersion ∧
      Reports (empty.load (.data longKeyData)).1 .parse ∧
      ¬Judged (powerEntries 3572) (empty.load (.data longKeyData)).1 := by
  have read : Yaml.read longKeyData = .ok (.map (powerEntries 3572)) := Yaml.read_longKey 3572
  have fits := powerEntries_fit 3572
  have lacks : Lacks (powerEntries 3572) .apiVersion :=
    fun v named => absurd named (Schema.not_named rfl)
  have unnameable : ¬Nameable (powerEntries 3572) := power_unnameable (by decide +kernel)
  exact ⟨read, fits, lacks, not_judged_unnameable read fits unnameable⟩

end ClusterManifest.Store
