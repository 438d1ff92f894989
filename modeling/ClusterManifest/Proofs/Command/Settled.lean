import ClusterManifest.Proofs.Command.Course

/-! What creating leaves behind. Once a manifest was created from an environment, it is valid, it is
shown as it was written, and creating it again changes no file, whatever the environment is then. -/

namespace ClusterManifest.Command

open ClusterManifest.Action

variable {host : Host} {given : Option String} {target : Path} {environment : Environment}
  {files after : FileTree} {m : Manifest} {text : String} {loaded : Bool}

section Settled

variable [Console.LiteralReader]

/-- A tree on which creating comes to nothing new: the directory holds the manifest as it is
written, and what is told about it can be shown. -/
structure Settled (files : FileTree) (target : Path) (m : Manifest) (text : String) : Prop where
  holds : Holds files target (Text.Utf8.encode text.toList) m
  written : m.write = .ok text
  filed : Yields (Directory.writeAll target
    [⟨Manifest.fileName, Text.Utf8.encode text.toList⟩]) files [fileIn target] files
  summarized : Yields (summarize m) files () files
  progressed : Yields (showWritten [fileIn target]) files () files
  loaded : ∃ item, Console.success (origin target true) = .ok item

/-- The file of a manifest that was written settles the tree. -/
theorem Concludes.settled (concludes : Concludes target loaded m files text after)
    (accepted : Store.accept (Text.Utf8.encode text.toList) = .ok m) :
    Settled after target m text := by
  obtain ⟨-, -, mid, -, wrote⟩ := Directory.writeOne_yields.mp concludes.filed
  have named : (fileIn target).names ≠ [] := by
    rw [fileIn_eq]
    exact List.concat_ne_nil _ _
  have again := Directory.writeOne_again named concludes.filed
  obtain ⟨_, _, shown, -⟩ := yields_bind.mp concludes.progressed
  exact {
    holds := ⟨FileTree.readFile_written wrote, accepted⟩
    written := concludes.written
    filed := Directory.writeAll_one.mpr ⟨_, rfl, again⟩
    summarized := (yields_of_showing (showing_summarize m) concludes.summarized after).1
    progressed := concludes.progressed
    loaded := success_of_progress (yields_tell.mp shown).1 }

/-- Creating on a settled tree changes nothing. -/
theorem Settled.create (settled : Settled files (directory host given) m text) :
    Yields (create host given environment) files successCode files := by
  obtain ⟨_, same, filed⟩ := Directory.writeAll_one.mp settled.filed
  cases same
  rw [yields_create, manifestIn_holds settled.holds]
  exact yields_conclude.mpr ⟨rfl, text, {
    told := settled.loaded
    summarized := settled.summarized
    written := settled.written
    filed
    progressed := settled.progressed }⟩

theorem yields_heading {title : String} (headed : ∃ item, Console.heading title = .ok item) :
    Yields (heading title) files () files :=
  yields_present.mpr (yields_tell.mpr ⟨headed, rfl⟩)

theorem heading_validate : Console.heading "VALIDATE" = .ok (.text "── VALIDATE ──") :=
  Console.heading_inert (by decide +kernel)

theorem success_validate : Console.success (Manifest.fileName ++ " is valid") =
    .ok (.text "  ✓ install-config.yaml is valid") := by
  have inert : Console.Markup.Inert (Manifest.fileName ++ " is valid").toList := by decide +kernel
  refine Console.success_eq.mpr ⟨Console.Markup.legible_inert inert, ?_⟩
  rw [Console.Markup.spoken_inert inert]
  decide +kernel

theorem Settled.validate (settled : Settled files (directory host given) m text) :
    Yields (validate host given) files successCode files := by
  have found : (load (directory host given)).run files = _ := load_holds settled.holds
  refine yields_bind.mpr ⟨(), files, yields_heading ⟨_, heading_validate⟩, ?_⟩
  refine yields_bind.mpr ⟨.ok (some m), files, yields_attempt.mpr ?_, ?_⟩
  · exact yields_bind.mpr ⟨(true, ⟨some m⟩), files,
      ⟨congrArg Outcome.result found, congrArg Outcome.files found⟩,
      yields_bind.mpr ⟨m, files, yields_ofExcept.mpr ⟨rfl, rfl⟩, yields_done.mpr ⟨rfl, rfl⟩⟩⟩
  · refine yields_bind.mpr ⟨(), files, yields_tell.mpr ⟨⟨_, success_validate⟩, rfl⟩, ?_⟩
    exact yields_bind.mpr ⟨(), files, settled.summarized, yields_done.mpr ⟨rfl, rfl⟩⟩

theorem Settled.preview (settled : Settled files (directory host given) m text) :
    (preview host given environment).run files = ⟨.ok successCode, [.document text], files⟩ := by
  rw [run_preview, manifestIn_holds settled.holds]
  simp only [display, settled.written, Action.ofExcept, bind_def, Action.bind, run, Outcome.after]

end Settled

open Console.HandlerNames

/-- What creating a manifest from it leaves where there was nothing. -/
def demoTree : FileTree :=
  ((Command.create bareHost (some "out") demoEnvironment).run ⟨[], [], []⟩).files

theorem demo_created :
    ((Command.create bareHost (some "out") demoEnvironment).run ⟨[], [], []⟩).result =
      .ok successCode :=
  ok_of_toOption (by decide +kernel)

end ClusterManifest.Command
