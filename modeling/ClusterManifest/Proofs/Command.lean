import ClusterManifest.Command
import ClusterManifest.Proofs.Console.Line
import ClusterManifest.Proofs.File.Directory
import ClusterManifest.Proofs.Inputs
import ClusterManifest.Proofs.Store.Roundtrip

/-! How commands come to a manifest: the one that a directory holds is loaded, and where there is
none one is composed. What they tell along the way changes no files. -/

namespace ClusterManifest.Command

open ClusterManifest.Action Console.Markup

variable {host : Host} {target : Path} {environment : Environment} {files after : FileTree}
  {m : Manifest}

def fileIn (target : Path) : Path := target.join (Path.ofText Manifest.fileName)

/-- A directory that holds a manifest in its file, which is acceptable. -/
structure Holds (files : FileTree) (target : Path) (data : Text.Bytes) (m : Manifest) : Prop where
  there : files.readFile (fileIn target) = .ok data
  accepted : Store.accept data = .ok m

theorem load_holds {data : Text.Bytes} (holds : Holds files target data m) :
    (load target).run files = ⟨.ok (true, ⟨some m⟩), [], files⟩ := by
  have fetched : files.readFile (target.join (Path.ofText Manifest.fileName)) = .ok data :=
    holds.there
  simp only [load, Directory.fetchManifest, bind_def, Action.bind, run, fetched,
    Directory.fetchedOf, Store.load, holds.accepted, stepped]

theorem manifestIn_holds {data : Text.Bytes} (holds : Holds files target data m) :
    (manifestIn host target environment).run files =
      ⟨.ok (true, ⟨some m⟩, m), [], files⟩ := by
  have loaded := load_holds holds
  simp only [manifestIn, loadOrGenerate, bind_def, run_bind, loaded, if_true, pure_def, run,
    Store.stored, Action.ofExcept, List.append_nil]

theorem asking_stepped {α : Type} (step : Except Failure α × Store) : Asking (stepped step) := by
  obtain ⟨result, store⟩ := step
  cases result <;> trivial

theorem asking_load (target : Path) : Asking (load target) :=
  fun _ => asking_stepped _

theorem asking_manifestIn (host : Host) (target : Path) (environment : Environment) :
    Asking (manifestIn host target environment) := by
  refine asking_bind (asking_bind (asking_load target) ?_) (fun _ =>
    asking_bind asking_ofExcept (fun _ => trivial))
  rintro ⟨found, store⟩
  cases found with
  | true => trivial
  | false =>
    exact asking_bind (Inputs.asking_ofEnvironment host environment) (fun _ =>
      asking_bind (asking_stepped _) (fun _ => trivial))

theorem fileIn_eq (target : Path) :
    fileIn target = ⟨target.start, target.names ++ [Manifest.fileName]⟩ := by
  have file : Path.ofText Manifest.fileName = ⟨.here, [Manifest.fileName]⟩ := by decide +kernel
  rw [fileIn, file]
  rfl

theorem not_giveUp {report : Failure.Category → Action Unit} {failure : Failure} :
    ¬Yields (giveUp report failure) files successCode after := by
  unfold giveUp
  cases failure.category? with
  | none => exact not_yields_fail
  | some category =>
    intro yields
    obtain ⟨_, mid, -, done⟩ := yields_bind.mp yields
    have code := (yields_done.mp done).1
    cases category <;> cases code

theorem yields_stepped {α : Type} {step : Except Failure α × Store} {value : α} {store : Store} :
    Yields (stepped step) files (value, store) after ↔
      step = (.ok value, store) ∧ files = after := by
  obtain ⟨result, kept⟩ := step
  cases result with
  | error failure => simp [stepped, not_yields_fail]
  | ok found => simp [stepped, yields_done]

/-- A directory without a manifest, for which one is composed from the inputs that an environment
gives. -/
structure Composed (host : Host) (target : Path) (environment : Environment) (files : FileTree)
    (inputs : Inputs) (m : Manifest) : Prop where
  absent : Directory.fetchedOf (files.readFile (fileIn target)) = .absent
  resolved : Yields (Inputs.ofEnvironment host environment) files inputs files
  composed : Manifest.compose inputs .standard = .ok m

theorem load_missing
    (absent : Directory.fetchedOf (files.readFile (fileIn target)) = .absent) :
    (load target).run files = ⟨.ok (false, .empty), [], files⟩ := by
  have fetched : Directory.fetchedOf
      (files.readFile (target.join (Path.ofText Manifest.fileName))) = .absent := absent
  simp only [load, Directory.fetchManifest, bind_def, Action.bind, run, fetched, Store.load,
    stepped]

/-- The manifest that is had is the one that is stored. -/
theorem yields_manifestIn {loaded : Bool} {store : Store} :
    Yields (manifestIn host target environment) files (loaded, store, m) after ↔
      store = ⟨some m⟩ ∧
        Yields (loadOrGenerate host target environment) files (loaded, store) after := by
  constructor
  · intro found
    obtain ⟨⟨loaded, store⟩, _, tried, rest⟩ := yields_bind.mp found
    obtain ⟨other, _, kept, last⟩ := yields_bind.mp rest
    obtain ⟨stored, rfl⟩ := yields_ofExcept.mp kept
    obtain ⟨same, rfl⟩ := yields_done.mp last
    cases same
    refine ⟨?_, tried⟩
    obtain ⟨manifest?⟩ := store
    cases manifest? with
    | none => cases stored
    | some _ =>
      cases stored
      rfl
  · rintro ⟨rfl, tried⟩
    exact yields_bind.mpr ⟨_, _, tried, yields_bind.mpr ⟨m, _, yields_ofExcept.mpr ⟨rfl, rfl⟩,
      yields_done.mpr ⟨rfl, rfl⟩⟩⟩

section Telling

variable [Console.LiteralReader]

theorem showing_summarizePools (pools : List MachinePool) : Showing (summarizePools pools) := by
  induction pools with
  | nil => trivial
  | cons pool pools ih =>
    exact showing_bind showing_ofExcept (fun _ => showing_bind showing_tell (fun _ => ih))

theorem showing_summarize (m : Manifest) : Showing (summarize m) :=
  showing_bind showing_tell (fun _ => showing_bind showing_tell (fun _ =>
    showing_bind showing_tell (fun _ => showing_bind showing_tell (fun _ =>
      showing_summarizePools m.machines))))

theorem showing_showWritten (paths : List Path) : Showing (showWritten paths) := by
  induction paths with
  | nil => trivial
  | cons path paths ih => exact showing_bind showing_tell (fun _ => ih)

theorem heading_create : Console.heading "INSTALL CONFIG" = .ok (.text "── INSTALL CONFIG ──") :=
  Console.heading_inert (by decide +kernel)

/-- Where it can be told what was written, it can be told from where it was loaded. The name of the
file after the directory's only adds to what is shown in the styles of that name. -/
theorem success_of_progress
    (told : ∃ item, Console.progress ("Wrote " ++ (fileIn target).text) = .ok item) :
    ∃ item, Console.success (origin target true) = .ok item := by
  obtain ⟨item, shown⟩ := told
  have written : Legible ("Wrote ".toList ++ (fileIn target).text.toList) := by
    rw [← String.toList_append]
    exact (Console.progress_eq.mp shown).1
  have place := (legible_text_append (by decide) _).mp written
  refine ⟨_, Console.success_eq.mpr ⟨?_, rfl⟩⟩
  rw [origin, if_pos rfl, String.toList_append, legible_text_append (by decide +kernel)]
  obtain ⟨start, names⟩ := target
  rw [fileIn_eq] at place
  cases names with
  | nil => cases start <;> exact legible_inert (by decide +kernel)
  | cons name names =>
    rw [Path.text_append (List.cons_ne_nil name names) (List.cons_ne_nil Manifest.fileName []),
      String.toList_append, String.toList_append] at place
    exact legible_of_append (by decide) (legible_of_append (by decide +kernel) place)

end Telling

theorem directory_given (host : Host) {text : String} (nonempty : text.isEmpty = false) :
    directory host (some text) = Path.ofText text := by
  have kept : (some text).filter (fun text => !text.isEmpty) = some text := by
    rw [Option.filter, nonempty]
    rfl
  rw [directory, kept]

/-- A process without an environment, at the top. -/
def bareHost : Host := ⟨⟨[]⟩, none, [], ⟨.top, []⟩⟩

def demoEnvironment : Environment :=
  ⟨[(Setting.baseDomain, "example.com"), (Setting.clusterName, "demo"),
    (Setting.pullSecret, "\x7b\"auths\": \x7b\x7d\x7d"), (Setting.platform, "none")]⟩

end ClusterManifest.Command
