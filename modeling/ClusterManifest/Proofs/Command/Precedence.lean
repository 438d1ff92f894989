import ClusterManifest.Proofs.Command.Course

/-! A manifest in the directory goes before one that could be composed. Unless there certainly is
none, commands do the same whatever the environment is, and no file is replaced but by what is
written for the manifest that it holds. -/

namespace ClusterManifest.Command

open ClusterManifest.Action

variable {host : Host} {target : Path} {files : FileTree} {m : Manifest}

theorem manifestIn_same (there : Directory.fetchedOf (files.readFile (fileIn target)) ≠ .absent)
    (host other : Host) (first second : Environment) :
    (manifestIn host target first).run files = (manifestIn other target second).run files := by
  change ((loadOrGenerate _ _ _).bind _).run files = ((loadOrGenerate _ _ _).bind _).run files
  rw [run_bind, run_bind, loadOrGenerate_there there, loadOrGenerate_there there]

section Precedence

variable [Console.LiteralReader]

/-- Where the directory holds no manifest that is accepted, creating leaves all files. -/
theorem create_refused {given : Option String} {environment : Environment}
    (there : Directory.fetchedOf (files.readFile (fileIn (directory host given))) ≠ .absent)
    (refused : ∀ data m, ¬Holds files (directory host given) data m) :
    ((create host given environment).run files).files = files := by
  rw [run_create]
  cases tried : ((manifestIn host (directory host given) environment).run files).result with
  | error failure => exact files_giveUp failure files
  | ok outcome =>
    obtain ⟨loaded, store, m⟩ := outcome
    obtain ⟨-, data, holds⟩ := manifestIn_there there ⟨tried, rfl⟩
    exact absurd holds (refused data m)

/-- Where it holds one, creating leaves all files or writes that manifest. -/
theorem create_held {given : Option String} {environment : Environment} {data : Text.Bytes}
    (holds : Holds files (directory host given) data m) :
    ((create host given environment).run files).files = files ∨
      ∃ document, m.write = .ok document ∧
        ((create host given environment).run files).files.readFile
          (fileIn (directory host given)) = .ok (Text.Utf8.encode document.toList) := by
  rw [run_create, manifestIn_holds holds]
  change ((conclude _ (.ok (true, ⟨some m⟩, m))).run files).files = files ∨ ∃ document, _ ∧
    ((conclude _ (.ok (true, ⟨some m⟩, m))).run files).files.readFile _ = _
  have read {document : String} {after : FileTree}
      (filed : Yields (Directory.writeOne (directory host given) (fileOf document)) files
        (fileIn (directory host given)) after) :
      after.readFile (fileIn (directory host given)) = .ok (Text.Utf8.encode document.toList) := by
    obtain ⟨-, -, _, -, kept⟩ := Directory.writeOne_yields.mp filed
    exact FileTree.readFile_written kept
  cases ended : ((conclude (directory host given) (.ok (true, ⟨some m⟩, m))).run files).result with
  | error failure =>
    have stops := stops_conclude ⟨ended, rfl⟩
    exact (stops.of_holds holds).imp_right
      (fun ⟨_, document, written, filed⟩ => ⟨document, written, read filed⟩)
  | ok code =>
    obtain ⟨-, document, concludes⟩ := yields_conclude.mp ⟨ended, rfl⟩
    exact .inr ⟨document, concludes.written, read concludes.filed⟩

/-- Unless the manifest of a directory that was named is certainly absent, creating and previewing
come to the same in every environment, and on every host. What cannot be read as a manifest, or is
not accepted, is not replaced, and what is accepted only by its own manifest. -/
theorem persisted_decides {text : String} {files : FileTree} (named : text.isEmpty = false)
    (there : ((Directory.fetchManifest (Path.ofText text)).run files).result ≠ .ok .absent)
    (host other : Host) (first second : Environment) :
    (create host (some text) first).run files = (create other (some text) second).run files ∧
    (preview host (some text) first).run files = (preview other (some text) second).run files ∧
    let after := ((create host (some text) first).run files).files
    ((∀ data m, ¬Holds files (Path.ofText text) data m) → after = files) ∧
    ∀ data m, Holds files (Path.ofText text) data m → after = files ∨
      ∃ document, m.write = .ok document ∧
        after.readFile (fileIn (Path.ofText text)) = .ok (Text.Utf8.encode document.toList) := by
  have present : Directory.fetchedOf (files.readFile (fileIn (Path.ofText text))) ≠ .absent :=
    fun absent => there (congrArg Except.ok absent)
  have here := directory_given host named
  have same := manifestIn_same present host other first second
  refine ⟨?_, ?_, ?_, ?_⟩
  · rw [run_create, run_create, directory_given host named, directory_given other named, same]
  · rw [run_preview, run_preview, directory_given host named, directory_given other named, same]
  · rw [← here] at present ⊢
    exact create_refused present
  · intro data m
    rw [← here]
    exact create_held

end Precedence

open Console.HandlerNames

/-- A tree with a file at the top in which there is no manifest, but some text. -/
def spoiltTree : FileTree :=
  ⟨[], [([Manifest.fileName], .file (Text.Utf8.encode "This is not yaml.".toList))], []⟩

theorem spoilt_stays :
    ((Directory.fetchManifest (Path.ofText ".")).run spoiltTree).result ≠ .ok .absent ∧
      (create bareHost (some ".") demoEnvironment).run spoiltTree =
        (create bareHost (some ".") ⟨[]⟩).run spoiltTree ∧
      ((create bareHost (some ".") demoEnvironment).run spoiltTree).files = spoiltTree := by
  have fetched : ((Directory.fetchManifest (Path.ofText ".")).run spoiltTree).result =
      .ok (.data (Text.Utf8.encode "This is not yaml.".toList)) :=
    ok_of_toOption (by decide +kernel)
  have there : ((Directory.fetchManifest (Path.ofText ".")).run spoiltTree).result ≠
      .ok .absent := by
    rw [fetched]
    nofun
  have refused : ∀ data m, ¬Holds spoiltTree (Path.ofText ".") data m := by
    intro data m holds
    have read : (Store.accept data).toOption = none := by
      have same : (spoiltTree.readFile (fileIn (Path.ofText "."))).toOption = some data :=
        congrArg Except.toOption holds.there
      have kept : (spoiltTree.readFile (fileIn (Path.ofText "."))).toOption =
          some (Text.Utf8.encode "This is not yaml.".toList) := by decide +kernel
      rw [← Option.some.inj (kept.symm.trans same)]
      decide +kernel
    rw [holds.accepted] at read
    cases read
  obtain ⟨created, -, kept, -⟩ :=
    persisted_decides (by decide) there bareHost bareHost demoEnvironment ⟨[]⟩
  exact ⟨there, created, kept refused⟩

end ClusterManifest.Command
