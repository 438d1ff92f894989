import ClusterManifest.Proofs.Command.Code
import ClusterManifest.Proofs.Command.Settled

/-! What commands do to the files. Validating and previewing leave them as they are, and so does
creating that ends with a failure, unless it stops while it puts a composed manifest in its place.
Creating does what previewing showed: it writes that text, in its one file. -/

namespace ClusterManifest.Command

open ClusterManifest.Action

variable {host : Host} {given : Option String} {target : Path} {environment : Environment}
  {files after : FileTree} {inputs : Inputs} {m : Manifest} {failure : Failure} {code : Nat}

section Stopping

variable [Console.LiteralReader]

end Stopping

section Blocked

open Console.HandlerNames

end Blocked

section Predicting

variable [Console.LiteralReader]

/-- A command that gives up with a code shows the failure in a panel and does nothing else. -/
theorem run_giveUp (ended : ((giveUp (inPanel failure) failure).run files).result = .ok code) :
    ∃ title content, (giveUp (inPanel failure) failure).run files =
      ⟨.ok code, [.text "", .panel title content], files⟩ := by
  unfold giveUp at ended ⊢
  split
  · next unreported =>
    rw [unreported] at ended
    cases ended
  · next category reported =>
    rw [reported] at ended
    obtain ⟨_, _, told, done⟩ := yields_bind.mp ⟨ended, rfl⟩
    obtain ⟨⟨item, composed⟩, -⟩ := yields_tell.mp (yields_present.mp told)
    obtain ⟨content, -, rest⟩ := bind_ok.mp composed
    obtain ⟨title, -, same⟩ := bind_ok.mp rest
    cases same
    refine ⟨title, content, ?_⟩
    rw [run_bind, inPanel, composed, ← (yields_done.mp done).1]
    rfl

/-- Previewing that ends without success gave up, and creating gives up as well. -/
theorem preview_gaveUp (other : code ≠ successCode)
    (shown : ((preview host given environment).run files).result = .ok code) :
    ∃ title content,
      (preview host given environment).run files =
        ⟨.ok code, [.text "", .panel title content], files⟩ ∧
      (create host given environment).run files =
        ⟨.ok code, [.text "", .text "── INSTALL CONFIG ──", .text "", .panel title content],
          files⟩ := by
  rw [run_preview] at shown ⊢
  rw [run_create]
  cases tried : ((manifestIn host (directory host given) environment).run files).result with
  | error failure =>
    rw [tried] at shown
    obtain ⟨title, content, gaveUp⟩ := run_giveUp shown
    refine ⟨title, content, gaveUp, ?_⟩
    rw [conclude, gaveUp]
    rfl
  | ok outcome =>
    rw [tried] at shown
    exact absurd (yields_display.mp ⟨shown, rfl⟩).1 other

/-- Previewing that succeeds has a manifest and shows what is written for it. -/
theorem preview_written
    (shown : ((preview host given environment).run files).result = .ok successCode) :
    ∃ loaded store m document,
      ((manifestIn host (directory host given) environment).run files).result =
        .ok (loaded, store, m) ∧
      m.write = .ok document ∧
      (preview host given environment).run files =
        ⟨.ok successCode, [.document document], files⟩ := by
  rw [run_preview] at shown ⊢
  cases tried : ((manifestIn host (directory host given) environment).run files).result with
  | error failure =>
    rw [tried] at shown
    exact absurd ⟨shown, rfl⟩ not_giveUp
  | ok outcome =>
    obtain ⟨loaded, store, m⟩ := outcome
    rw [tried] at shown
    obtain ⟨-, -, document, written⟩ := yields_display.mp ⟨shown, rfl⟩
    refine ⟨loaded, store, m, document, rfl, written, ?_⟩
    rw [display, written]
    rfl

/-- Creating does what previewing shows. Where previewing gives up, creating gives up with the same
code and the same panel. Where it shows a document, creating ends with success if it ends, and then
the file of the manifest holds that document, all else that was there is as it was, and nothing else
is new but directories on the way to the file. -/
theorem preview_predicts (host : Host) (given : Option String) (environment : Environment)
    (files : FileTree) :
    let shown := (preview host given environment).run files
    let created := (create host given environment).run files
    let file := fileIn (directory host given)
    (∀ code, shown.result = .ok code → code ≠ successCode → ∃ title content,
      shown.shown = [.text "", .panel title content] ∧
      created = ⟨.ok code,
        [.text "", .text "── INSTALL CONFIG ──", .text "", .panel title content], files⟩) ∧
    (shown.result = .ok successCode → ∃ document, shown.shown = [.document document] ∧
      (∀ code, created.result = .ok code → code = successCode) ∧
      (created.result = .ok successCode →
        created.files.readFile file = .ok (Text.Utf8.encode document.toList) ∧
        Directory.Wrote file (Text.Utf8.encode document.toList) files created.files)) := by
  intro shown created file
  refine ⟨fun code ended other => ?_, fun ended => ?_⟩
  · obtain ⟨title, content, previewed, gaveUp⟩ := preview_gaveUp other ended
    exact ⟨title, content, congrArg Outcome.shown previewed, gaveUp⟩
  · obtain ⟨loaded, store, m, document, tried, written, previewed⟩ := preview_written ended
    have concluded {code : Nat} (done : created.result = .ok code) : code = successCode ∧
        Concludes (directory host given) loaded m files document created.files := by
      rcases ends_create ⟨done, rfl⟩ with ⟨failure, failed, -⟩ | ⟨success, _, _, _, had, concludes⟩
      · cases tried.symm.trans failed
      · cases tried.symm.trans had.1
        cases written.symm.trans concludes.written
        exact ⟨success, concludes⟩
    refine ⟨document, congrArg Outcome.shown previewed, fun code done => (concluded done).1,
      fun done => ?_⟩
    have filed := (concluded done).2.filed
    obtain ⟨-, -, _, -, kept⟩ := Directory.writeOne_yields.mp filed
    exact ⟨FileTree.readFile_written kept, Directory.writeOne_wrote filed⟩

end Predicting

open Console.HandlerNames

theorem demo_predicted :
    (∃ title content, (create bareHost none partEnvironment).run ⟨[], [], []⟩ =
      ⟨.ok 2, [.text "", .text "── INSTALL CONFIG ──", .text "", .panel title content],
        ⟨[], [], []⟩⟩) ∧
    ∃ document : String,
      ((preview bareHost (some "out") demoEnvironment).run ⟨[], [], []⟩).shown =
        [.document document] ∧
      demoTree.readFile (fileIn (Path.ofText "out")) = .ok (Text.Utf8.encode document.toList) ∧
      Directory.Wrote (fileIn (Path.ofText "out")) (Text.Utf8.encode document.toList)
        ⟨[], [], []⟩ demoTree := by
  have gaveUp := (preview_predicts bareHost none partEnvironment ⟨[], [], []⟩).1 2
    (ok_of_toOption (by decide +kernel)) (by decide)
  obtain ⟨title, content, -, created⟩ := gaveUp
  obtain ⟨document, shown, -, written⟩ :=
    (preview_predicts bareHost (some "out") demoEnvironment ⟨[], [], []⟩).2
      (ok_of_toOption (by decide +kernel))
  rw [directory_given bareHost (by decide)] at written
  exact ⟨⟨title, content, created⟩, document, shown, written demo_created⟩

end ClusterManifest.Command
