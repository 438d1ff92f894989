import ClusterManifest.File.Directory
import ClusterManifest.Proofs.Action
import ClusterManifest.Proofs.File.Tree

/-! Files below a directory: one that was written is fetched again, and writing the same file once
more changes nothing. -/

namespace ClusterManifest.Directory

open ClusterManifest.Action

variable {files after : FileTree} {directory : Path}

theorem make_again {path : Path} {above : Place}
    (there : files.find path = .ok (above, some .directory)) :
    Yields (make path) files () files := by
  have taken : files.makeDirectory path = .error (.system .exists path) := by
    simp only [FileTree.makeDirectory, there]
  have directory : files.isDirectory path = .ok true := by
    simp [FileTree.isDirectory, there]
  rw [make]
  simp only [Yields, run, answered, taken, tolerate, directory]
  exact ⟨trivial, trivial⟩

theorem yields_writeFile {path result : Path} {data : Text.Bytes} :
    Yields (.writeFile path data (fun answer =>
        (Action.ofExcept .file answer).bind (fun _ => .done path))) files result after ↔
      files.writeFile path data = .ok after ∧ path = result := by
  simp only [Yields, run]
  cases files.writeFile path data with
  | error fault => simp [answered, Action.ofExcept, Action.bind, run]
  | ok changed => simp [answered, Action.ofExcept, Action.bind, run, and_comm]

theorem writeOne_yields {file : NamedFile} {path : Path} :
    Yields (writeOne directory file) files path after ↔
      isSafe file.name = true ∧ path = directory.join (Path.ofText file.name) ∧
        ∃ mid, Yields (make path.parent) files () mid ∧
          mid.writeFile path file.data = .ok after := by
  unfold writeOne
  split
  · next safe =>
    simp only [bind_def, pure_def, yields_bind, yields_writeFile, safe, true_and]
    constructor
    · rintro ⟨⟨⟩, mid, made, wrote, rfl⟩
      exact ⟨rfl, mid, made, wrote⟩
    · rintro ⟨rfl, mid, made, wrote⟩
      exact ⟨(), mid, made, wrote, rfl⟩
  · next other =>
    simp [not_yields_fail, other]

theorem writeAll_one {file : NamedFile} {paths : List Path} :
    Yields (writeAll directory [file]) files paths after ↔
      ∃ path, paths = [path] ∧ Yields (writeOne directory file) files path after := by
  simp only [writeAll, bind_def, pure_def, yields_bind, yields_done]
  constructor
  · rintro ⟨path, mid, wrote, rest, last, ⟨rfl, rfl⟩, rfl, rfl⟩
    exact ⟨path, rfl, wrote⟩
  · rintro ⟨path, rfl, wrote⟩
    exact ⟨path, after, wrote, [], after, ⟨rfl, rfl⟩, rfl, rfl⟩

/-- Writing a file once more leaves all files as they are. -/
theorem writeOne_again {file : NamedFile} {path : Path} (nonempty : path.names ≠ [])
    (wrote : Yields (writeOne directory file) files path after) :
    Yields (writeOne directory file) after path after := by
  obtain ⟨safe, place, mid, -, written⟩ := writeOne_yields.mp wrote
  obtain ⟨above, there⟩ := FileTree.find_parent_written nonempty written
  exact writeOne_yields.mpr
    ⟨safe, place, after, make_again there, FileTree.writeFile_written written⟩

end ClusterManifest.Directory
