import ClusterManifest.Proofs.Store.Session
import ClusterManifest.Proofs.Yaml.ValueFault

/-! What loading can end with. It tells a file that is not there, one that cannot be had, one that
holds no manifest and one that lacks something apart, as failures that are reported. A single
scalar that stands for nothing slips through. -/

namespace ClusterManifest.Store

/-- The result is a failure of a sort. -/
def Reports (result : Except Failure Bool) (category : Failure.Category) : Prop :=
  ∃ failure, result = .error failure ∧ failure.category? = some category

variable {store : Store}

theorem reports_error {failure : Failure} {category : Failure.Category} :
    Reports (.error failure) category ↔ failure.category? = some category := by
  constructor
  · rintro ⟨other, same, sort⟩
    cases same
    exact sort
  · exact fun sort => ⟨failure, rfl, sort⟩

theorem not_reports_ok {found : Bool} {category : Failure.Category} :
    ¬Reports (.ok found) category := by
  rintro ⟨failure, same, -⟩
  cases same

/-- Bytes are read, and then accepted or found lacking, or they are not read. -/
theorem accept_cases (data : Text.Bytes) :
    (∃ m, Manifest.read data = .ok m ∧
      (accept data = .ok m ∨ ∃ violation, accept data = .error (.fileLacking violation))) ∨
    ∃ fault, Manifest.read data = .error fault ∧ accept data = .error (.unreadable fault) := by
  unfold accept
  cases Manifest.read data with
  | error fault => exact .inr ⟨fault, rfl, rfl⟩
  | ok m =>
    left
    refine ⟨m, rfl, ?_⟩
    cases lack : m.violation? with
    | some violation => exact .inr ⟨violation, by simp only [lack]⟩
    | none => exact .inl (by simp only [lack])

theorem yaml_of_read {data : Text.Bytes} {m : Manifest} (read : Manifest.read data = .ok m) :
    ∃ value, Yaml.read data = .ok value := by
  unfold Manifest.read at read
  split at read
  · cases read
  · next value same => exact ⟨value, same⟩

/-- A fault of reading is reported unless it is that of a single scalar. -/
theorem reported_iff {data : Text.Bytes} {fault : Manifest.ReadFault}
    (failed : Manifest.read data = .error fault) :
    fault.isReported = true ↔ ∀ cause, Yaml.read data = .error cause → cause = .malformed := by
  unfold Manifest.read at failed
  cases read : Yaml.read data with
  | error cause =>
    rw [read] at failed
    cases failed
    constructor
    · intro reported other same
      cases same
      cases cause <;> first | rfl | cases reported
    · intro all
      rw [all cause rfl]
      rfl
  | ok value =>
    rw [read] at failed
    have reported : fault.isReported = true := by
      unfold Manifest.ofDocumentValue at failed
      dsimp only at failed
      split at failed
      · cases failed
        rfl
      · split at failed
        · cases failed
        · cases failed
          rfl
      · cases failed
        rfl
    simp [reported]

/-- A fault that is not reported ends the loading as it is, and leaves the store as it was. -/
theorem load_slipped {data : Text.Bytes} {fault : Yaml.Fault}
    (failed : Yaml.read data = .error fault) :
    store.load (.data data) = (.error (.unreadable (.yaml fault)), store) := by
  have unread : Manifest.read data = .error (.yaml fault) := by
    simp only [Manifest.read, failed]
  simp only [load, accept, unread]

/-- Loading says that there is no file just when there is none, and that it cannot be had just when
fetching it failed. What was fetched is loaded, or reported as no manifest or as one that lacks
something, just when no token and no scalar in it stands for nothing. -/
theorem load_closed (store : Store) :
    (∀ fetched, (store.load fetched).1 = .ok false ↔ fetched = .absent) ∧
    (∀ fetched, Reports (store.load fetched).1 .fetch ↔ ∃ fault, fetched = .failed fault) ∧
    ∀ data, (((store.load (.data data)).1 = .ok true ∨
        Reports (store.load (.data data)).1 .parse ∨
        Reports (store.load (.data data)).1 .validation) ↔
      ∀ fault, Yaml.read data = .error fault → fault = .malformed) ∧
      ∀ fault, Yaml.read data = .error fault → fault ≠ .malformed → fault.OfBytes data ∧
        store.load (.data data) = (.error (.unreadable (.yaml fault)), store) := by
  refine ⟨?_, ?_, fun data => ⟨?_, ?_⟩⟩
  · intro fetched
    cases fetched with
    | absent => simp [load]
    | failed fault => simp [load]
    | data data => cases accepted : accept data <;> simp [load, accepted]
  · intro fetched
    cases fetched with
    | absent => simp [load, not_reports_ok]
    | failed fault => simp [load, reports_error, Failure.category?]
    | data data =>
      rcases accept_cases data with ⟨m, -, accepted | ⟨violation, accepted⟩⟩ | ⟨fault, -, accepted⟩
      · simp [load, accepted, not_reports_ok]
      · simp [load, accepted, reports_error, Failure.category?]
      · cases reported : fault.isReported <;>
          simp [load, accepted, reports_error, Failure.category?, reported]
  · rcases accept_cases data with ⟨m, read, outcome⟩ | ⟨fault, failed, accepted⟩
    · obtain ⟨value, yaml⟩ := yaml_of_read read
      rcases outcome with accepted | ⟨violation, accepted⟩
      · simp [load, accepted, yaml]
      · simp [load, accepted, yaml, reports_error, Failure.category?]
    · rw [← reported_iff failed]
      cases reported : fault.isReported <;>
        simp [load, accepted, reports_error, Failure.category?, reported]
  · intro fault failed other
    exact ⟨(Yaml.read_error failed).resolve_left other, load_slipped failed⟩

/-- A mapping with a day that its month does not have. -/
def impossibleDate : Text.Bytes := Text.Utf8.encode "a: 2001-02-30\n".toList

/-- That there is no such day is not reported, though the file is no manifest in any case. -/
theorem load_impossibleDate :
    (empty.load (.data impossibleDate)).1 ≠ .ok true ∧
      ¬Reports (empty.load (.data impossibleDate)).1 .parse ∧
      ¬Reports (empty.load (.data impossibleDate)).1 .validation := by
  have read : Manifest.read impossibleDate = .error (.yaml (.calendar .noSuchDay)) :=
    error_of_check (by decide +kernel)
  simp [load, accept, read, reports_error, Failure.category?, Manifest.ReadFault.isReported]

end ClusterManifest.Store
