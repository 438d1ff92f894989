import ClusterManifest.Proofs.File.Directory

/-! What making directories does to a tree of files, also when it stops half way: all that was there
stays as it is, and what is new are directories on the way to the one that is made. -/

namespace ClusterManifest

namespace FileTree

variable {tree before mid after : FileTree} {start place : Place} {names : List String}
  {path : Path}

/-- Where names lead from a place, whatever is there. -/
def placeFrom (start : Place) (names : List String) : Place := names.foldl next start

def placeOf (tree : FileTree) (path : Path) : Place := placeFrom (tree.startOf path) path.names

theorem place_of_follow {found : Option Entry}
    (led : tree.follow start names = .ok (place, found)) : place = placeFrom start names := by
  induction names generalizing start with
  | nil =>
    cases led
    rfl
  | cons name names ih =>
    rcases follow_cons.mp led with ⟨-, ⟨-, further⟩ | ⟨-, last, same⟩⟩
    · exact ih further
    · cases last
      cases same
      rfl

theorem place_of_find {found : Option Entry} (led : tree.find path = .ok (place, found)) :
    place = tree.placeOf path :=
  place_of_follow (find_ok.mp led).2

theorem get_set (entry : Entry) (inside : place ≠ []) (other : Place) :
    (tree.set place entry).get? other = if other = place then some entry else tree.get? other := by
  split
  · next same =>
    subst same
    exact get?_setEntry_same tree.working tree.entries tree.barred other entry inside
  · next differ => exact get?_setEntry_other tree.working tree.entries tree.barred place other entry differ

theorem ne_nil_of_get {found : Option Entry} (here : tree.get? place = found)
    (other : found ≠ some .directory) : place ≠ [] := by
  rintro rfl
  exact other here.symm

/-- A place that a path comes by, or leads to. -/
def OnWay (tree : FileTree) (path : Path) (place : Place) : Prop :=
  ∃ names, names <+: path.names ∧ place = placeFrom (tree.startOf path) names

/-- A tree with all that was there before, and directories on the way to a path besides. -/
structure Grown (path : Path) (before after : FileTree) : Prop where
  working : after.working = before.working
  barred : after.barred = before.barred
  kept : ∀ place entry, before.get? place = some entry → after.get? place = some entry
  fresh : ∀ place entry, after.get? place = some entry →
    before.get? place = some entry ∨ entry = .directory ∧ before.OnWay path place

namespace Grown

theorem refl (path : Path) (tree : FileTree) : Grown path tree tree where
  working := rfl
  barred := rfl
  kept := fun _ _ there => there
  fresh := fun _ _ there => .inl there

theorem startOf (grown : Grown path before after) (other : Path) :
    after.startOf other = before.startOf other := by
  unfold FileTree.startOf
  rw [grown.working]

theorem onWay (grown : Grown path before after) {other : Path} :
    after.OnWay other place ↔ before.OnWay other place := by
  unfold OnWay
  rw [grown.startOf]

theorem placeOf (grown : Grown path before after) (other : Path) :
    after.placeOf other = before.placeOf other := by
  unfold FileTree.placeOf
  rw [grown.startOf]

theorem trans (first : Grown path before mid) (second : Grown path mid after) :
    Grown path before after where
  working := second.working.trans first.working
  barred := second.barred.trans first.barred
  kept := fun place entry there => second.kept place entry (first.kept place entry there)
  fresh := by
    intro place entry there
    rcases second.fresh place entry there with earlier | ⟨directory, way⟩
    · exact first.fresh place entry earlier
    · exact .inr ⟨directory, first.onWay.mp way⟩

/-- The way to a directory is the beginning of the way to what is in it. -/
theorem of_parent (grown : Grown path.parent before after) : Grown path before after where
  working := grown.working
  barred := grown.barred
  kept := grown.kept
  fresh := by
    intro place entry there
    rcases grown.fresh place entry there with earlier | ⟨directory, names, way, same⟩
    · exact .inl earlier
    · exact .inr ⟨directory, names, way.trans (List.dropLast_prefix path.names), same⟩

end Grown

theorem makeDirectory_ok : tree.makeDirectory path = .ok after ↔
    ∃ place, tree.find path = .ok (place, none) ∧ tree.allows place none = true ∧
      tree.set place .directory = after := by
  unfold makeDirectory
  cases led : tree.find path with
  | error fault => simp
  | ok reached =>
    obtain ⟨place, found⟩ := reached
    cases found <;> simp [ite_ok]

/-- A directory that was made is all that is new. -/
theorem makeDirectory_grown (made : tree.makeDirectory path = .ok after) :
    Grown path tree after := by
  obtain ⟨place, led, -, rfl⟩ := makeDirectory_ok.mp made
  have empty : tree.get? place = none := get_of_follow (find_ok.mp led).2 nofun
  have inside : place ≠ [] := ne_nil_of_get empty nofun
  have way := place_of_find led
  refine ⟨rfl, rfl, ?_, ?_⟩
  · intro other entry there
    rw [get_set _ inside, if_neg, there]
    rintro rfl
    cases empty.symm.trans there
  · intro other entry there
    rw [get_set _ inside] at there
    split at there
    · next same =>
      cases there
      exact .inr ⟨rfl, path.names, List.prefix_refl _, same.trans way⟩
    · exact .inl there

theorem readFile_ok {data : Text.Bytes} : tree.readFile path = .ok data ↔
    ∃ place, tree.find path = .ok (place, some (.file data)) := by
  unfold readFile
  cases led : tree.find path with
  | error fault => simp
  | ok reached =>
    obtain ⟨place, found⟩ := reached
    cases found with
    | none => simp
    | some entry => cases entry <;> simp

end FileTree

namespace Directory

open ClusterManifest.Action FileTree

variable {files after : FileTree} {directory path : Path} {failure : Failure}

theorem files_tolerate (path : Path) (error : FileError) (files : FileTree) :
    ((tolerate path error).run files).files = files := by
  simp only [tolerate, run]
  split <;> rfl

theorem makeLast_grown (path : Path) (files : FileTree) :
    Grown path files ((makeLast path).run files).files := by
  simp only [makeLast, run]
  cases made : files.makeDirectory path with
  | ok changed => exact makeDirectory_grown made
  | error fault =>
    simp only [answered]
    split
    · exact .refl path files
    · exact .refl path files
    · exact .refl path files
    · rw [files_tolerate]
      exact .refl path files

/-- Making a directory, whether it succeeds or stops half way, only adds directories on the way. The
induction is on the way to it: the one that it is in is made first, where that is missing. -/
theorem make_grown (path : Path) (files : FileTree) :
    Grown path files ((make path).run files).files := by
  generalize size : path.names.length = n
  induction n using Nat.strongRecOn generalizing path with
  | _ n ih =>
  subst size
  rw [make]
  simp only [run]
  cases made : files.makeDirectory path with
  | ok changed => exact makeDirectory_grown made
  | error fault =>
    simp only [answered]
    split
    · exact .refl path files
    · split
      · exact .refl path files
      · next up found =>
        obtain rfl := Path.parent_of_some found
        have parent := (ih _ (Path.length_parent_lt found) path.parent rfl).of_parent
        rw [run_bind]
        split
        · exact parent
        · exact parent.trans (makeLast_grown path _)
    · exact .refl path files
    · rw [files_tolerate]
      exact .refl path files

theorem fails_writeFile {result : Path} {data : Text.Bytes} :
    Fails (.writeFile path data (fun answer =>
        (Action.ofExcept .file answer).bind (fun _ => .done result))) files failure after ↔
      (∃ fault, files.writeFile path data = .error fault ∧ .file fault = failure) ∧
        files = after := by
  simp only [Fails, run]
  cases files.writeFile path data with
  | error fault => simp [answered, Action.ofExcept, Action.bind, run]
  | ok changed => simp [answered, Action.ofExcept, Action.bind, run]

/-- Where writing a file fails, no more was done than to make its directory. -/
theorem writeOne_fails {file : NamedFile} (safe : isSafe file.name = true) :
    Fails (writeOne directory file) files failure after ↔
      Fails (make (directory.join (Path.ofText file.name)).parent) files failure after ∨
        ∃ fault, Yields (make (directory.join (Path.ofText file.name)).parent) files () after ∧
          after.writeFile (directory.join (Path.ofText file.name)) file.data = .error fault ∧
          .file fault = failure := by
  unfold writeOne
  simp only [if_pos safe, bind_def, pure_def, fails_bind, fails_writeFile]
  refine or_congr_right ⟨?_, ?_⟩
  · rintro ⟨⟨⟩, mid, made, ⟨fault, wrote, same⟩, rfl⟩
    exact ⟨fault, made, wrote, same⟩
  · rintro ⟨fault, made, wrote, same⟩
    exact ⟨(), after, made, ⟨fault, wrote, same⟩, rfl⟩

theorem writeAll_one_fails {file : NamedFile} :
    Fails (writeAll directory [file]) files failure after ↔
      Fails (writeOne directory file) files failure after := by
  simp only [writeAll, bind_def, pure_def, fails_bind, not_fails_done]
  simp

theorem made_of_fails {file : NamedFile} (safe : isSafe file.name = true)
    (failed : Fails (writeOne directory file) files failure after) :
    ((make (directory.join (Path.ofText file.name)).parent).run files).files = after := by
  rcases (writeOne_fails safe).mp failed with ⟨-, made⟩ | ⟨_, ⟨-, made⟩, -⟩ <;> exact made

/-- Writing a file where there is one changes nothing, where it fails. -/
theorem writeOne_there {file : NamedFile} {place : Place} {entry : Entry}
    (safe : isSafe file.name = true)
    (led : files.find (directory.join (Path.ofText file.name)) = .ok (place, some entry))
    (other : entry ≠ .directory)
    (failed : Fails (writeOne directory file) files failure after) : after = files := by
  have nonempty : (directory.join (Path.ofText file.name)).names ≠ [] := by
    intro none
    have followed := (find_ok.mp led).2
    rw [none] at followed
    cases followed
    exact other rfl
  obtain ⟨above, there⟩ := find_parent nonempty led
  exact (made_of_fails safe failed).symm.trans (make_again there).2

/-- A tree in which a file was written at the end of a path: all else that was there before is as it
was, and what is new besides are directories on the way. -/
structure Wrote (path : Path) (data : Text.Bytes) (before after : FileTree) : Prop where
  holds : after.get? (before.placeOf path) = some (.file data)
  kept : ∀ place entry, place ≠ before.placeOf path → before.get? place = some entry →
    after.get? place = some entry
  fresh : ∀ place entry, place ≠ before.placeOf path → after.get? place = some entry →
    before.get? place = some entry ∨ entry = .directory ∧ before.OnWay path place

theorem writeOne_wrote {file : NamedFile}
    (wrote : Yields (writeOne directory file) files path after) :
    Wrote path file.data files after := by
  obtain ⟨safe, rfl, mid, ⟨-, made⟩, written⟩ := writeOne_yields.mp wrote
  generalize directory.join (Path.ofText file.name) = path at made written
  have grown := make_grown path.parent files
  rw [made] at grown
  obtain ⟨place, found, ⟨led, other⟩, -, rfl⟩ := writeFile_ok.mp written
  have inside := ne_nil_of_get (get_of_follow (find_ok.mp led).2 other) other
  have way := (place_of_find led).trans (grown.placeOf path)
  subst way
  refine ⟨by rw [get_set _ inside, if_pos rfl], ?_, ?_⟩
  · intro place entry differ there
    rw [get_set _ inside, if_neg differ]
    exact grown.kept place entry there
  · intro place entry differ there
    rw [get_set _ inside, if_neg differ] at there
    exact grown.of_parent.fresh place entry there

end Directory

end ClusterManifest
