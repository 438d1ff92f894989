import ClusterManifest.Proofs.Command.Course
import ClusterManifest.Proofs.Store.Loading

/-! The codes that commands end with. A manifest that has to be composed fails for what the user has
to supply only, one that is there never does. -/

namespace ClusterManifest

open ClusterManifest.Action

/-- A failure that ends a command with one of some codes, if it is reported. -/
def Failure.EndsWith (codes : List Nat) (failure : Failure) : Prop :=
  ∀ category, failure.category? = some category → category.exitCode ∈ codes

namespace Failure

variable {codes : List Nat} {failure : Failure}

theorem endsWith_unreported (unreported : failure.category? = none) : failure.EndsWith codes := by
  intro category reported
  rw [unreported] at reported
  cases reported

theorem endsWith_category {category : Category} (reported : failure.category? = some category)
    (code : category.exitCode ∈ codes) : failure.EndsWith codes := by
  intro found same
  rw [reported] at same
  cases same
  exact code

theorem endsWith_input (fault : InputFault) : (Failure.input fault).EndsWith [2] :=
  endsWith_category rfl (List.mem_singleton.mpr rfl)

end Failure

namespace Inputs

open Failure

variable {host : Host} {environment : Environment} {files : FileTree}

theorem endsWith_unreadable (setting path : String) (error : FileError) :
    (unreadable setting path error).EndsWith [2] := by
  cases error with
  | zeroCharacter => exact endsWith_unreported rfl
  | system reason place => exact endsWith_input _

theorem endsWith_secretFailure (stop : InputCheck.Stop) : (secretFailure stop).EndsWith [2] := by
  cases stop with
  | fault fault => exact endsWith_input fault
  | numeral fault => exact endsWith_unreported rfl

theorem endsWith_homeFailure (fault : Host.HomeFault) : (homeFailure fault).EndsWith [2] := by
  cases fault <;> exact endsWith_unreported rfl

theorem ends_contentAt (setting path : String) :
    Ends (EndsWith [2]) Any ((contentAt host setting path).run files).result := by
  refine ends_bind (ends_ofExcept (.any _) (fun fault _ => endsWith_homeFailure fault)) ?_
  intro file mid _ _
  change Ends _ _ ((Action.bind _ _).run mid).result
  refine ends_bind (ends_ofExcept (.any _) (fun error _ => endsWith_unreadable _ _ error)) ?_
  intro data mid _ _
  exact ends_ofExcept (.any _) (fun fault _ => endsWith_unreported rfl)

theorem ends_valueOrContent (setting : String) :
    Ends (EndsWith [2]) Any ((valueOrContent host environment setting).run files).result := by
  unfold valueOrContent
  split
  · exact .ok trivial
  · split
    · exact .ok trivial
    · exact ends_bind (ends_contentAt _ _) (fun _ _ _ _ => .ok trivial)

/-- Resolving inputs fails, where it is reported, for what the user has to supply. -/
theorem ends_ofEnvironment :
    Ends (EndsWith [2]) Any ((ofEnvironment host environment).run files).result := by
  refine ends_bind (ends_valueOrContent _) (fun key mid _ _ => ?_)
  refine ends_bind (ends_valueOrContent _) (fun secret mid _ _ => ?_)
  have input {α : Type} (x : Except InputFault α) :
      Ends (EndsWith [2]) Any (x.mapError .input) :=
    .mapError (.any x) (fun fault _ => endsWith_input fault)
  refine ends_ofExcept (?_ : Ends (EndsWith [2]) Any _) (fun _ ends => ends)
  refine .bind (input _) (fun _ _ => .bind (.mapM (fun _ => input _) _) (fun _ _ =>
    .bind (.mapM (fun _ => input _) _) (fun _ _ => .bind (.mapM (fun value => ?_) _) (fun _ _ =>
      .bind (input _) (fun _ _ => .ok trivial)))))
  exact .mapError (.any _) (fun stop _ => endsWith_secretFailure stop)

end Inputs

namespace Command

open Failure

variable {host : Host} {target : Path} {environment : Environment} {files after : FileTree}
  {codes : List Nat} {code : Nat}

/-- There is a manifest in the store that goes with the truth value. -/
def Full (outcome : Bool × Store) : Prop := ∃ m, outcome.2 = ⟨some m⟩

theorem ends_manifestIn (first : Ends (EndsWith codes) Full
    ((loadOrGenerate host target environment).run files).result) :
    Ends (EndsWith codes) Any ((manifestIn host target environment).run files).result := by
  refine ends_bind first ?_
  rintro ⟨loaded, store⟩ mid - ⟨m, rfl⟩
  exact .ok trivial

/-- What keeps a manifest from being composed is something that the user has to supply. -/
theorem ends_composed
    (absent : Directory.fetchedOf (files.readFile (fileIn target)) = .absent) :
    Ends (EndsWith [2]) Full ((loadOrGenerate host target environment).run files).result := by
  have loaded : Ends (EndsWith [2]) (fun outcome => outcome = (false, .empty))
      ((load target).run files).result := by
    rw [load_missing absent]
    exact .ok rfl
  refine ends_bind loaded ?_
  rintro ⟨found, store⟩ mid - same
  cases same
  refine ends_bind Inputs.ends_ofEnvironment (fun inputs mid yields _ => ?_)
  obtain ⟨complete, missed⟩ := (Inputs.resolved_ofEnvironment yields).composes
  cases unset : inputs.unresolved with
  | nil =>
    obtain ⟨m, composed⟩ := complete unset
    have generated : Store.empty.generate inputs .standard = (.ok m, ⟨some m⟩) := by
      simp only [Store.generate, composed]
    rw [generated]
    exact .ok ⟨m, rfl⟩
  | cons name rest =>
    have generated : Store.empty.generate inputs .standard =
        (.error (.missing name), .empty) := by
      simp only [Store.generate, missed name rest unset]
    rw [generated]
    exact .error (endsWith_category rfl (List.mem_singleton.mpr rfl))

theorem ends_accept (data : Text.Bytes) : Ends (EndsWith [1, 3]) Any (Store.accept data) := by
  rcases Store.accept_cases data with ⟨m, -, accepted | ⟨violation, accepted⟩⟩ |
    ⟨fault, -, accepted⟩
  · rw [accepted]
    exact .ok trivial
  · rw [accepted]
    exact .error (endsWith_category rfl (by decide))
  · rw [accepted]
    refine .error (fun category reported => ?_)
    simp only [category?] at reported
    split at reported
    · cases reported
      decide
    · cases reported

theorem ends_load (there : Directory.fetchedOf (files.readFile (fileIn target)) ≠ .absent) :
    Ends (EndsWith [1, 3]) (fun outcome => outcome.1 = true ∧ Full outcome)
      ((load target).run files).result := by
  change Ends _ _ ((stepped (Store.empty.load
    (Directory.fetchedOf (files.readFile (fileIn target))))).run files).result
  cases fetched : Directory.fetchedOf (files.readFile (fileIn target)) with
  | absent => exact absurd fetched there
  | failed fault => exact .error (endsWith_category rfl (by decide))
  | data data =>
    have accepted := ends_accept data
    cases read : Store.accept data with
    | ok m =>
      have loaded : Store.empty.load (.data data) = (.ok true, ⟨some m⟩) := by
        simp only [Store.load, read]
      rw [loaded]
      exact .ok ⟨rfl, m, rfl⟩
    | error failure =>
      have failed : Store.empty.load (.data data) = (.error failure, .empty) := by
        simp only [Store.load, read]
      rw [failed]
      exact .error (accepted.fault read)

/-- What keeps a manifest from being loaded that is there, or may be, is not for the user to
supply. -/
theorem ends_loaded
    (there : Directory.fetchedOf (files.readFile (fileIn target)) ≠ .absent) :
    Ends (EndsWith [1, 3]) Full ((loadOrGenerate host target environment).run files).result := by
  refine ends_bind (ends_load there) ?_
  rintro ⟨found, store⟩ mid - ⟨loaded, full⟩
  cases loaded
  exact .ok full

theorem giveUp_code {report : Failure.Category → Action Unit} {failure : Failure}
    (ends : failure.EndsWith codes) (given : Yields (giveUp report failure) files code after) :
    code ∈ codes := by
  unfold giveUp at given
  cases reported : failure.category? with
  | none =>
    rw [reported] at given
    exact absurd given not_yields_fail
  | some category =>
    rw [reported] at given
    obtain ⟨_, mid, -, done⟩ := yields_bind.mp given
    rw [← (yields_done.mp done).1]
    exact ends category reported

section Ending

variable [Console.LiteralReader]

/-- Creating ends with a code of the failure to have a manifest, or with that of success. -/
theorem create_code {given : Option String}
    (ends : Ends (EndsWith codes) Any
      ((manifestIn host (directory host given) environment).run files).result)
    (created : Yields (create host given environment) files code after) :
    code ∈ successCode :: codes := by
  rcases ends_create created with ⟨failure, tried, gaveUp⟩ | ⟨success, -⟩
  · exact List.mem_cons_of_mem _ (giveUp_code (ends.fault tried) gaveUp)
  · exact List.mem_cons.mpr (.inl success)

theorem preview_code {given : Option String}
    (ends : Ends (EndsWith codes) Any
      ((manifestIn host (directory host given) environment).run files).result)
    (shown : Yields (preview host given environment) files code after) :
    code ∈ successCode :: codes := by
  rw [Yields, run_preview] at shown
  cases tried : ((manifestIn host (directory host given) environment).run files).result with
  | error failure =>
    rw [tried] at shown
    exact List.mem_cons_of_mem _ (giveUp_code (ends.fault tried) shown)
  | ok outcome =>
    rw [tried] at shown
    exact List.mem_cons.mpr (.inl (yields_display.mp shown).1)

/-- From whatever inputs an environment gives, a manifest is composed, or the first one is missed
that is not set. So where a manifest has to be composed a command ends well or for what the user has
to supply, and where one is there, or may be, it never ends for that. -/
theorem ends_for_cause (host : Host) (given : Option String) (environment : Environment)
    (files : FileTree) :
    (∀ inputs after, Yields (Inputs.ofEnvironment host environment) files inputs after →
      (inputs.unresolved = [] → ∃ m, Manifest.compose inputs .standard = .ok m) ∧
      ∀ name rest, inputs.unresolved = name :: rest →
        Manifest.compose inputs .standard = .error (.missing name)) ∧
    ∀ code, ((create host given environment).run files).result = .ok code ∨
        ((preview host given environment).run files).result = .ok code →
      (((Directory.fetchManifest (directory host given)).run files).result = .ok .absent →
        code ∈ [0, 2]) ∧
      (((Directory.fetchManifest (directory host given)).run files).result ≠ .ok .absent →
        code ∈ [0, 1, 3]) := by
  refine ⟨fun inputs after yields => (Inputs.resolved_ofEnvironment yields).composes, ?_⟩
  intro code ended
  have within {codes : List Nat} (ends : Ends (EndsWith codes) Any
      ((manifestIn host (directory host given) environment).run files).result) :
      code ∈ successCode :: codes := by
    rcases ended with created | shown
    · exact create_code ends ⟨created, rfl⟩
    · exact preview_code ends ⟨shown, rfl⟩
  constructor
  · exact fun absent => within (ends_manifestIn (ends_composed (Except.ok.inj absent)))
  · exact fun there =>
      within (ends_manifestIn (ends_loaded (fun absent => there (congrArg Except.ok absent))))

end Ending

open Console.HandlerNames

/-- An environment without a name for the cluster, a secret and a platform. -/
def partEnvironment : Environment := ⟨[(Setting.baseDomain, "example.com")]⟩

theorem part_ends :
    ((create bareHost none partEnvironment).run ⟨[], [], []⟩).result = .ok 2 ∧
      ∃ inputs, Yields (Inputs.ofEnvironment bareHost partEnvironment) ⟨[], [], []⟩ inputs ⟨[], [], []⟩ ∧
        inputs.unresolved = [.clusterName, .pullSecret, .platform] ∧
        Manifest.compose inputs .standard = .error (.missing .clusterName) := by
  have resolved : Yields (Inputs.ofEnvironment bareHost partEnvironment) ⟨[], [], []⟩
      ⟨.given "", .given "example.com", .unset, .unset, .unset⟩ ⟨[], [], []⟩ := by
    constructor
    · exact ok_of_toOption (by decide +kernel)
    · rfl
  have ended := ends_for_cause bareHost none partEnvironment ⟨[], [], []⟩
  exact ⟨ok_of_toOption (by decide +kernel), _, resolved, rfl,
    (ended.1 _ _ resolved).2 _ _ rfl⟩

end Command

end ClusterManifest
