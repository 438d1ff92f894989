import ClusterManifest.Proofs.Command
import ClusterManifest.Proofs.File.Growth

/-! The course of creating and of previewing: both try to have the manifest of a directory first,
and what they do then depends on no more than what came of that. -/

namespace ClusterManifest.Command

open ClusterManifest.Action

variable {host : Host} {given : Option String} {target : Path} {environment : Environment}
  {files after : FileTree} {loaded : Bool} {store : Store} {m : Manifest} {failure : Failure}

/-- The failure to show something. -/
def OfConsole (failure : Failure) : Prop := ∃ fault, failure = .console fault

theorem console_of_tell {item : Except Console.Fault Console.Item}
    (failed : Fails (tell item) files failure after) : OfConsole failure ∧ after = files := by
  obtain ⟨⟨fault, -, same⟩, unchanged⟩ := fails_tell.mp failed
  exact ⟨⟨fault, same.symm⟩, unchanged.symm⟩

/-- The file that a manifest is kept in, with what is written for it. -/
def fileOf (document : String) : NamedFile :=
  ⟨Manifest.fileName, Text.Utf8.encode document.toList⟩

theorem safe_fileOf (document : String) : Directory.isSafe (fileOf document).name = true := by
  have safe : Directory.isSafe Manifest.fileName = true := by decide +kernel
  exact safe

theorem files_ok {named : List NamedFile} : Store.files ⟨some m⟩ = .ok named ↔
    ∃ document, m.write = .ok document ∧ named = [fileOf document] := by
  cases written : m.write with
  | error fault => simp [Store.files, written]
  | ok document => simp [Store.files, written, fileOf, eq_comm]

theorem reading_giveUp {report : Failure.Category → Action Unit}
    (shows : ∀ category, Showing (report category)) : Reading (giveUp report failure) := by
  unfold giveUp
  split
  · trivial
  · next category _ => exact reading_bind (reading_of_showing (shows category)) (fun _ => trivial)

theorem yields_load {found : Bool} : Yields (load target) files (found, store) after ↔
    Store.empty.load (Directory.fetchedOf (files.readFile (fileIn target))) = (.ok found, store) ∧
      files = after :=
  Iff.rfl.trans yields_stepped

/-- Where there is a manifest, or may be, what is loaded is the one that the directory holds. -/
theorem holds_of_load {found : Bool}
    (there : Directory.fetchedOf (files.readFile (fileIn target)) ≠ .absent)
    (loading : Yields (load target) files (found, store) after) :
    found = true ∧ files = after ∧ ∃ data m, store = ⟨some m⟩ ∧ Holds files target data m := by
  obtain ⟨given, rfl⟩ := yields_load.mp loading
  unfold Directory.fetchedOf at given there
  split at given
  · next data read =>
    simp only [Store.load] at given
    split at given
    · next m accepted =>
      cases given
      exact ⟨rfl, rfl, data, m, rfl, read, accepted⟩
    · cases given
  · next missing =>
    rw [missing] at there
    exact absurd rfl there
  · cases given

/-- Nothing but the file of it decides then what is had. -/
theorem loadOrGenerate_there
    (there : Directory.fetchedOf (files.readFile (fileIn target)) ≠ .absent) :
    (loadOrGenerate host target environment).run files = (load target).run files := by
  change ((load target).bind _).run files = _
  rw [run_bind, run_of_asking (asking_load target) files]
  cases ended : ((load target).run files).result with
  | error failure => rfl
  | ok outcome =>
    obtain ⟨found, store⟩ := outcome
    obtain ⟨rfl, -⟩ := holds_of_load there ⟨ended, rfl⟩
    rfl

theorem manifestIn_there
    (there : Directory.fetchedOf (files.readFile (fileIn target)) ≠ .absent)
    (found : Yields (manifestIn host target environment) files (loaded, store, m) after) :
    (loaded = true ∧ store = ⟨some m⟩ ∧ files = after) ∧ ∃ data, Holds files target data m := by
  obtain ⟨rfl, tried⟩ := yields_manifestIn.mp found
  rw [Yields, loadOrGenerate_there there] at tried
  obtain ⟨rfl, rfl, data, _, same, holds⟩ := holds_of_load there tried
  cases same
  exact ⟨⟨rfl, rfl, rfl⟩, data, holds⟩

/-- All numbers in a manifest are small enough to be written. -/
def Writable (m : Manifest) : Prop :=
  (∀ pool ∈ m.machines, ∃ count, countText pool.replicas = .ok count) ∧
    ∃ document, m.write = .ok document

/-- Where creating stops that has a manifest: before it writes, which is for what it shows if the
manifest can be written, or while it writes, or when it tells what it wrote. -/
inductive Stops (target : Path) (m : Manifest) (files : FileTree)
    (failure : Failure) : FileTree → Prop
  | before : (Writable m → OfConsole failure) → Stops target m files failure files
  | writing {document : String} {after : FileTree} : m.write = .ok document →
    Fails (Directory.writeOne target (fileOf document)) files failure after →
      Stops target m files failure after
  | telling {document : String} {after : FileTree} : OfConsole failure →
    m.write = .ok document →
    Yields (Directory.writeOne target (fileOf document)) files (fileIn target) after →
      Stops target m files failure after

/-- Where a manifest is kept already, creating that stops leaves all files, or it wrote the manifest
and could not tell so. -/
theorem Stops.of_holds {data : Text.Bytes} (holds : Holds files target data m)
    (stops : Stops target m files failure after) : after = files ∨
      OfConsole failure ∧ ∃ document, m.write = .ok document ∧
        Yields (Directory.writeOne target (fileOf document)) files (fileIn target) after := by
  cases stops with
  | before _ => exact .inl rfl
  | @writing document _ _ failed =>
    obtain ⟨place, led⟩ := FileTree.readFile_ok.mp holds.there
    exact .inl (Directory.writeOne_there (safe_fileOf document) led nofun failed)
  | telling unshown written filed => exact .inr ⟨unshown, _, written, filed⟩

variable [Console.LiteralReader]

/-- What creating does after it tried to have a manifest. -/
def conclude (target : Path) : Except Failure (Bool × Store × Manifest) → Action Nat
  | .error failure => giveUp (inPanel failure) failure
  | .ok (loaded, store, m) => do
    Action.tell (Console.success (origin target loaded))
    summarize m
    let named ← Action.ofExcept id store.files
    let paths ← Directory.writeAll target named
    showWritten paths
    return successCode

/-- What previewing does after it tried to have a manifest. -/
def display : Except Failure (Bool × Store × Manifest) → Action Nat
  | .error failure => giveUp (inPanel failure) failure
  | .ok (_, _, m) => do
    let text ← Action.ofExcept .numeral m.write
    .present (.document text) (.done successCode)

theorem run_create (host : Host) (given : Option String) (environment : Environment)
    (files : FileTree) :
    (create host given environment).run files =
      (((conclude (directory host given)
        ((manifestIn host (directory host given) environment).run files).result).run files).after
          (.text "── INSTALL CONFIG ──")).after (.text "") := by
  have tried := run_of_asking (asking_manifestIn host (directory host given) environment) files
  have course : create host given environment = (heading "INSTALL CONFIG").bind (fun _ =>
      (manifestIn host (directory host given) environment).attempt.bind
        (conclude (directory host given))) := rfl
  have headed : (heading "INSTALL CONFIG").run files =
      ⟨.ok (), [.text "", .text "── INSTALL CONFIG ──"], files⟩ := by
    rw [heading, heading_create]
    rfl
  rw [course, run_bind, headed]
  dsimp only
  rw [run_bind, run_attempt, tried]
  rfl

theorem run_preview (host : Host) (given : Option String) (environment : Environment)
    (files : FileTree) :
    (preview host given environment).run files =
      (display
        ((manifestIn host (directory host given) environment).run files).result).run files := by
  have tried := run_of_asking (asking_manifestIn host (directory host given) environment) files
  have course : preview host given environment =
      (manifestIn host (directory host given) environment).attempt.bind display := rfl
  rw [course, run_bind, run_attempt, tried]
  rfl

variable {code : Nat}

theorem yields_create : Yields (create host given environment) files code after ↔
    Yields (conclude (directory host given)
      ((manifestIn host (directory host given) environment).run files).result)
        files code after := by
  unfold Yields
  rw [run_create]
  simp only [Outcome.after]

theorem yields_display {outcome : Bool × Store × Manifest} :
    Yields (display (.ok outcome)) files code after ↔
      code = successCode ∧ files = after ∧ ∃ document, outcome.2.2.write = .ok document := by
  obtain ⟨loaded, store, m⟩ := outcome
  constructor
  · intro ended
    obtain ⟨document, _, writing, last⟩ := yields_bind.mp ended
    obtain ⟨written, rfl⟩ := yields_ofExcept.mp writing
    obtain ⟨rfl, rfl⟩ := yields_done.mp (yields_present.mp last)
    exact ⟨rfl, rfl, document, written⟩
  · rintro ⟨rfl, rfl, document, written⟩
    exact yields_bind.mpr ⟨document, files, yields_ofExcept.mpr ⟨written, rfl⟩,
      yields_present.mpr (yields_done.mpr ⟨rfl, rfl⟩)⟩

theorem fails_summarizePools {pools : List MachinePool}
    (counted : ∀ pool ∈ pools, ∃ count, countText pool.replicas = .ok count)
    (failed : Fails (summarizePools pools) files failure after) : OfConsole failure := by
  induction pools with
  | nil => exact absurd failed not_fails_done
  | cons pool pools ih =>
    obtain ⟨count, small⟩ := counted pool (List.mem_cons_self ..)
    rcases fails_bind.mp failed with counting | ⟨_, mid, written, rest⟩
    · obtain ⟨⟨fault, large, -⟩, -⟩ := fails_ofExcept.mp counting
      cases small.symm.trans large
    · obtain ⟨-, rfl⟩ := yields_ofExcept.mp written
      rcases fails_bind.mp rest with telling | ⟨_, mid, told, others⟩
      · exact (console_of_tell telling).1
      · obtain ⟨-, rfl⟩ := yields_tell.mp told
        exact ih (fun other among => counted other (List.mem_cons_of_mem _ among)) others

theorem fails_summarize
    (counted : ∀ pool ∈ m.machines, ∃ count, countText pool.replicas = .ok count)
    (failed : Fails (summarize m) files failure after) : OfConsole failure := by
  rcases fails_bind.mp failed with telling | ⟨_, _, -, rest⟩
  · exact (console_of_tell telling).1
  rcases fails_bind.mp rest with telling | ⟨_, _, -, rest⟩
  · exact (console_of_tell telling).1
  rcases fails_bind.mp rest with telling | ⟨_, _, -, rest⟩
  · exact (console_of_tell telling).1
  rcases fails_bind.mp rest with telling | ⟨_, _, -, rest⟩
  · exact (console_of_tell telling).1
  exact fails_summarizePools counted rest

theorem stops_conclude
    (failed : Fails (conclude target (.ok (loaded, ⟨some m⟩, m))) files failure after) :
    Stops target m files failure after := by
  rcases fails_bind.mp failed with telling | ⟨_, _, told, step1⟩
  · obtain ⟨unshown, rfl⟩ := console_of_tell telling
    exact .before (fun _ => unshown)
  obtain ⟨-, rfl⟩ := yields_tell.mp told
  rcases fails_bind.mp step1 with summing | ⟨_, mid, summed, step2⟩
  · have same := files_of_reading (reading_of_showing (showing_summarize m)) files
    rw [summing.2] at same
    subst same
    exact .before (fun writable => fails_summarize writable.1 summing)
  obtain ⟨-, rfl⟩ := yields_of_showing (showing_summarize m) summed files
  rcases fails_bind.mp step2 with listing | ⟨named, _, listed, step3⟩
  · obtain ⟨⟨fault, wrong, -⟩, rfl⟩ := fails_ofExcept.mp listing
    refine .before (fun writable => ?_)
    obtain ⟨document, written⟩ := writable.2
    cases (files_ok.mpr ⟨document, written, rfl⟩).symm.trans wrong
  obtain ⟨filed, rfl⟩ := yields_ofExcept.mp listed
  obtain ⟨document, written, rfl⟩ := files_ok.mp filed
  rcases fails_bind.mp step3 with writing | ⟨paths, _, wrote, step4⟩
  · exact .writing written (Directory.writeAll_one_fails.mp writing)
  obtain ⟨path, rfl, one⟩ := Directory.writeAll_one.mp wrote
  obtain ⟨-, rfl, -⟩ := Directory.writeOne_yields.mp one
  rcases fails_bind.mp step4 with showing | ⟨_, _, -, last⟩
  · rcases fails_bind.mp showing with telling | ⟨_, _, -, none⟩
    · obtain ⟨unshown, rfl⟩ := console_of_tell telling
      exact .telling unshown written one
    · exact absurd none not_fails_done
  · exact absurd last not_fails_done

/-- All that creating does when it comes to its end with a manifest: it tells of it and writes its
file, and tells that. -/
structure Concludes (target : Path) (loaded : Bool) (m : Manifest) (files : FileTree)
    (document : String) (after : FileTree) : Prop where
  told : ∃ item, Console.success (origin target loaded) = .ok item
  summarized : Yields (summarize m) files () files
  written : m.write = .ok document
  filed : Yields (Directory.writeOne target (fileOf document)) files (fileIn target) after
  progressed : Yields (showWritten [fileIn target]) after () after

theorem yields_conclude : Yields (conclude target (.ok (loaded, ⟨some m⟩, m))) files code after ↔
    code = successCode ∧ ∃ document, Concludes target loaded m files document after := by
  constructor
  · intro ended
    obtain ⟨_, _, telling, step1⟩ := yields_bind.mp ended
    obtain ⟨told, rfl⟩ := yields_tell.mp telling
    obtain ⟨_, _, summing, step2⟩ := yields_bind.mp step1
    obtain ⟨summarized, rfl⟩ := yields_of_showing (showing_summarize m) summing files
    obtain ⟨named, _, listing, step3⟩ := yields_bind.mp step2
    obtain ⟨listed, rfl⟩ := yields_ofExcept.mp listing
    obtain ⟨document, written, rfl⟩ := files_ok.mp listed
    obtain ⟨paths, _, writing, step4⟩ := yields_bind.mp step3
    obtain ⟨path, rfl, filed⟩ := Directory.writeAll_one.mp writing
    obtain ⟨_, _, showing, last⟩ := yields_bind.mp step4
    obtain ⟨progressed, rfl⟩ := yields_of_showing (showing_showWritten [path]) showing _
    obtain ⟨rfl, rfl⟩ := yields_done.mp last
    have place := (Directory.writeOne_yields.mp filed).2.1
    subst place
    exact ⟨rfl, document, told, summarized, written, filed, progressed⟩
  · rintro ⟨rfl, document, told, summarized, written, filed, progressed⟩
    refine yields_bind.mpr ⟨(), files, yields_tell.mpr ⟨told, rfl⟩, ?_⟩
    refine yields_bind.mpr ⟨(), files, summarized, ?_⟩
    refine yields_bind.mpr ⟨[fileOf document], files,
      yields_ofExcept.mpr ⟨files_ok.mpr ⟨document, written, rfl⟩, rfl⟩, ?_⟩
    refine yields_bind.mpr ⟨[fileIn target], after,
      Directory.writeAll_one.mpr ⟨fileIn target, rfl, filed⟩, ?_⟩
    exact yields_bind.mpr ⟨(), after, progressed, yields_done.mpr ⟨rfl, rfl⟩⟩

/-- Creating that ends gave up, or it concluded with the manifest that it had. -/
theorem ends_create (ended : Yields (create host given environment) files code after) :
    (∃ failure,
      ((manifestIn host (directory host given) environment).run files).result = .error failure ∧
      Yields (giveUp (inPanel failure) failure) files code after) ∨
    code = successCode ∧ ∃ loaded m document,
      Yields (manifestIn host (directory host given) environment) files
        (loaded, ⟨some m⟩, m) files ∧
      Concludes (directory host given) loaded m files document after := by
  have came := yields_create.mp ended
  have asks := asking_manifestIn host (directory host given) environment
  cases tried : ((manifestIn host (directory host given) environment).run files).result with
  | error failure =>
    rw [tried] at came
    exact .inl ⟨failure, rfl, came⟩
  | ok outcome =>
    obtain ⟨loaded, store, m⟩ := outcome
    obtain ⟨rfl, -⟩ := yields_manifestIn.mp ⟨tried, rfl⟩
    rw [tried] at came
    obtain ⟨success, document, concludes⟩ := yields_conclude.mp came
    exact .inr ⟨success, loaded, m, document, ⟨tried, files_of_asking asks files⟩, concludes⟩

theorem showing_inPanel (failure : Failure) (category : Failure.Category) :
    Showing (inPanel failure category) :=
  showing_tell

theorem files_giveUp (failure : Failure) (files : FileTree) :
    ((giveUp (inPanel failure) failure).run files).files = files :=
  files_of_reading (reading_giveUp (showing_inPanel failure)) files

end ClusterManifest.Command
