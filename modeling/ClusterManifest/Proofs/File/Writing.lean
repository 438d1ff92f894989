import ClusterManifest.Proofs.File.Growth

/-! Writing several files below a directory. Whether it comes to its end or stops half way, nothing
is removed. All that changes is below the directory, or a directory that is made on the way to it,
unless a name stands for the directory itself and is written first. -/

namespace ClusterManifest

namespace FileTree

variable {tree before mid after : FileTree} {start place : Place} {names : List String}
  {directory path : Path} {found : Option Entry}

/-- A tree from which nothing was removed, and in which all is of the kind that it was of. -/
structure Kept (before after : FileTree) : Prop where
  working : after.working = before.working
  directory : ∀ place, before.get? place = some .directory → after.get? place = some .directory
  file : ∀ place data, before.get? place = some (.file data) →
    ∃ other, after.get? place = some (.file other)

namespace Kept

theorem refl (tree : FileTree) : Kept tree tree where
  working := rfl
  directory := fun _ there => there
  file := fun _ data there => ⟨data, there⟩

theorem trans (first : Kept before mid) (second : Kept mid after) : Kept before after where
  working := second.working.trans first.working
  directory := fun place there => second.directory place (first.directory place there)
  file := by
    intro place data there
    obtain ⟨other, still⟩ := first.file place data there
    exact second.file place other still

theorem of_grown (grown : Grown path before after) : Kept before after where
  working := grown.working
  directory := fun place there => grown.kept place _ there
  file := fun place data there => ⟨data, grown.kept place _ there⟩

/-- A file takes no directory's place. -/
theorem of_set (data : Text.Bytes) (inside : place ≠ []) (here : tree.get? place = found)
    (other : found ≠ some .directory) : Kept tree (tree.set place (.file data)) where
  working := rfl
  directory := by
    intro elsewhere there
    rw [get_set _ inside, if_neg, there]
    rintro rfl
    exact other (here.symm.trans there)
  file := by
    intro elsewhere old there
    rw [get_set _ inside]
    split
    · exact ⟨data, rfl⟩
    · exact ⟨old, there⟩

theorem startOf (kept : Kept before after) (path : Path) :
    after.startOf path = before.startOf path := by
  unfold FileTree.startOf
  rw [kept.working]

theorem placeOf (kept : Kept before after) (path : Path) :
    after.placeOf path = before.placeOf path := by
  unfold FileTree.placeOf
  rw [kept.startOf]

/-- What names lead to they lead to still, as long as it is there still. -/
theorem follow (kept : Kept before after) (led : before.follow start names = .ok (place, found))
    (there : found = some .directory ∨ after.get? place = found) :
    after.follow start names = .ok (place, found) := by
  induction names generalizing start with
  | nil => exact led
  | cons name names ih =>
    rcases follow_cons.mp led with ⟨short, ⟨directory, further⟩ | ⟨other, last, same⟩⟩
    · exact follow_cons.mpr ⟨short, .inl ⟨kept.directory _ directory, ih further⟩⟩
    · cases same
      have still := there.resolve_left other
      exact follow_cons.mpr ⟨short, .inr ⟨still ▸ other, last, by rw [still]⟩⟩

end Kept

theorem follow_append {more : List String} {reached : Place × Option Entry} (nonempty : more ≠ [])
    (led : tree.follow start (names ++ more) = .ok reached) :
    tree.follow start names = .ok (placeFrom start names, some .directory) := by
  induction names generalizing start with
  | nil => rfl
  | cons name names ih =>
    rcases follow_cons.mp led with ⟨short, ⟨directory, further⟩ | ⟨-, last, -⟩⟩
    · exact follow_cons.mpr ⟨short, .inl ⟨directory, ih further⟩⟩
    · exact absurd last (List.append_ne_nil_of_right_ne_nil names nonempty)

theorem placeFrom_append (start : Place) (names more : List String) :
    placeFrom start (names ++ more) = placeFrom (placeFrom start names) more :=
  List.foldl_append

theorem placeFrom_plain (plain : Path.above ∉ names) : placeFrom start names = start ++ names := by
  induction names generalizing start with
  | nil => exact (List.append_nil start).symm
  | cons name names ih =>
    rw [List.mem_cons, not_or] at plain
    have step : next start name = start ++ [name] := if_neg (Ne.symm plain.1)
    change placeFrom (next start name) names = _
    rw [ih plain.2, step, List.append_assoc]
    rfl

/-- The place of a directory is on the way to a place, and is another one. -/
def Below (tree : FileTree) (directory : Path) (place : Place) : Prop :=
  ∃ names, names ≠ [] ∧ place = tree.placeOf directory ++ names

/-- What is at a place is what was there; or the place is below a directory; or it is on the way to
the directory, and a directory is there where nothing was. -/
def Within (directory : Path) (before after : FileTree) (place : Place) : Prop :=
  after.get? place = before.get? place ∨ before.Below directory place ∨
    (before.OnWay directory place ∧ before.get? place = none ∧
      after.get? place = some .directory)

/-- All that changed is below a directory, or is this directory or one on the way to it, newly
made. -/
def Confined (directory : Path) (before after : FileTree) : Prop :=
  ∀ place, Within directory before after place

theorem Within.trans (kept : Kept before mid) (first : Within directory before mid place)
    (second : Within directory mid after place) : Within directory before after place := by
  unfold Within Below OnWay at second
  rw [kept.placeOf, kept.startOf] at second
  rcases second with same | below | ⟨way, none, made⟩
  · unfold Within
    rwa [same]
  · exact .inr (.inl below)
  · rcases first with same | below | ⟨-, -, there⟩
    · exact .inr (.inr ⟨way, same.symm.trans none, made⟩)
    · exact .inr (.inl below)
    · cases none.symm.trans there

theorem Confined.refl (directory : Path) (tree : FileTree) : Confined directory tree tree :=
  fun _ => .inl rfl

/-- What a path leads to, unless it is a directory, is at its place below the top. -/
theorem find_inside (led : tree.find path = .ok (place, found)) (other : found ≠ some .directory) :
    place ≠ [] ∧ tree.get? place = found := by
  have here := get_of_follow (find_ok.mp led).2 other
  exact ⟨ne_nil_of_get here other, here⟩

theorem not_below_self : ¬tree.Below directory (tree.placeOf directory) := by
  rintro ⟨names, nonempty, same⟩
  exact nonempty (List.self_eq_append_right.mp same)

end FileTree

namespace Directory

open ClusterManifest.Action FileTree

variable {tree before after : FileTree} {directory : Path} {file : NamedFile}
  {files : List NamedFile} {place : Place} {result : Except Failure Path}

/-- The path of a file that is written in a directory. -/
def pathIn (directory : Path) (file : NamedFile) : Path := directory.join (Path.ofText file.name)

theorem safe_names (safe : isSafe file.name = true) :
    (Path.ofText file.name).isAbsolute = false ∧ Path.above ∉ (Path.ofText file.name).names := by
  simp only [isSafe, Bool.and_eq_true, Bool.not_eq_true'] at safe
  refine ⟨safe.1.2, fun among => ?_⟩
  rw [List.contains_iff_mem.mpr among] at safe
  cases safe.2

theorem pathIn_safe (safe : isSafe file.name = true) : pathIn directory file =
    ⟨directory.start, directory.names ++ (Path.ofText file.name).names⟩ := by
  rw [pathIn, Path.join, (safe_names safe).1]
  rfl

/-- A safe name leads straight down from the directory. -/
theorem placeOf_pathIn (safe : isSafe file.name = true) : tree.placeOf (pathIn directory file) =
    tree.placeOf directory ++ (Path.ofText file.name).names := by
  rw [pathIn_safe safe]
  change placeFrom (tree.startOf directory) _ = _
  rw [placeFrom_append, placeFrom_plain (safe_names safe).2]
  rfl

theorem onWay_pathIn (safe : isSafe file.name = true)
    (way : tree.OnWay (pathIn directory file) place) :
    tree.OnWay directory place ∨ tree.Below directory place := by
  rw [pathIn_safe safe] at way
  obtain ⟨names, ⟨rest, whole⟩, same⟩ := way
  rcases List.append_eq_append_iff.mp whole with ⟨more, inside, -⟩ | ⟨more, further, within⟩
  · exact .inl ⟨names, ⟨more, inside.symm⟩, same⟩
  · subst further
    have plain : Path.above ∉ more := fun among =>
      (safe_names safe).2 (within ▸ List.mem_append_left rest among)
    have here : place = tree.placeOf directory ++ more := by
      rw [same]
      change placeFrom (tree.startOf directory) _ = _
      rw [placeFrom_append, placeFrom_plain plain]
      rfl
    by_cases nothing : more = []
    · subst nothing
      exact .inl ⟨directory.names, List.prefix_refl _, here.trans (List.append_nil _)⟩
    · exact .inr ⟨more, nothing, here⟩

/-- What writing one file comes to: its name is refused, or it stops when some directories on the
way were made, or these are made and the file is written. -/
inductive Steps (directory : Path) (file : NamedFile) (tree : FileTree) :
    Except Failure Path → FileTree → Prop
  | refused : isSafe file.name = false →
    Steps directory file tree (.error (.fileName file.name)) tree
  | stopped {failure : Failure} {after : FileTree} : isSafe file.name = true →
    Grown (pathIn directory file).parent tree after →
      Steps directory file tree (.error failure) after
  | wrote {mid : FileTree} {found : Option Entry} : isSafe file.name = true →
    Grown (pathIn directory file).parent tree mid →
    mid.find (pathIn directory file) = .ok (tree.placeOf (pathIn directory file), found) →
    found ≠ some .directory →
      Steps directory file tree (.ok (pathIn directory file))
        (mid.set (tree.placeOf (pathIn directory file)) (.file file.data))

theorem steps_writeOne (directory : Path) (file : NamedFile) (tree : FileTree) :
    Steps directory file tree ((writeOne directory file).run tree).result
      ((writeOne directory file).run tree).files := by
  cases safe : isSafe file.name with
  | false =>
    have refuses : writeOne directory file = .fail (.fileName file.name) := by
      rw [writeOne, if_neg (by simp [safe])]
    rw [refuses]
    exact .refused safe
  | true =>
    cases ended : ((writeOne directory file).run tree).result with
    | error failure =>
      refine .stopped safe ?_
      rw [← made_of_fails safe ⟨ended, rfl⟩]
      exact make_grown _ tree
    | ok path =>
      obtain ⟨-, rfl, mid, ⟨-, made⟩, written⟩ := writeOne_yields.mp ⟨ended, rfl⟩
      obtain ⟨place, found, ⟨led, other⟩, -, wrote⟩ := writeFile_ok.mp written
      have grown := make_grown (pathIn directory file).parent tree
      rw [show ((make (pathIn directory file).parent).run tree).files = mid from made] at grown
      have here := (place_of_find led).trans (grown.placeOf _)
      subst here
      rw [← wrote]
      exact .wrote safe grown led other

theorem Steps.kept (steps : Steps directory file tree result after) : Kept tree after := by
  cases steps with
  | refused => exact .refl tree
  | stopped _ grown => exact .of_grown grown
  | wrote _ grown led other =>
    obtain ⟨inside, here⟩ := find_inside led other
    exact (Kept.of_grown grown).trans (.of_set _ inside here other)

/-- The files that follow are written on what the first one leaves, unless that stops. -/
theorem files_writeAll_cons (directory : Path) (file : NamedFile) (rest : List NamedFile)
    (tree : FileTree) : ((writeAll directory (file :: rest)).run tree).files =
      match ((writeOne directory file).run tree).result with
      | .error _ => ((writeOne directory file).run tree).files
      | .ok _ =>
        ((writeAll directory rest).run ((writeOne directory file).run tree).files).files := by
  rw [writeAll, bind_def, run_bind]
  cases ((writeOne directory file).run tree).result with
  | error failure => rfl
  | ok path =>
    dsimp only
    rw [bind_def, run_bind]
    cases ((writeAll directory rest).run ((writeOne directory file).run tree).files).result <;> rfl

/-- What writing each of the files preserves, writing all of them preserves. -/
theorem writeAll_preserves (directory : Path) {R : FileTree → FileTree → Prop}
    (refl : ∀ tree, R tree tree)
    (trans : ∀ {before mid after}, R before mid → R mid after → R before after)
    (step : ∀ file tree result after, Steps directory file tree result after → R tree after)
    (files : List NamedFile) (tree : FileTree) :
    R tree ((writeAll directory files).run tree).files := by
  induction files generalizing tree with
  | nil => exact refl tree
  | cons file rest ih =>
    rw [files_writeAll_cons]
    split
    · exact step _ _ _ _ (steps_writeOne directory file tree)
    · exact trans (step _ _ _ _ (steps_writeOne directory file tree)) (ih _)

theorem kept_writeAll (directory : Path) (files : List NamedFile) (tree : FileTree) :
    Kept tree ((writeAll directory files).run tree).files :=
  writeAll_preserves directory .refl .trans (fun _ _ _ _ steps => steps.kept) files tree

theorem within_of_grown (safe : isSafe file.name = true)
    (grown : Grown (pathIn directory file).parent tree after) : Confined directory tree after := by
  intro place
  cases there : tree.get? place with
  | some entry => exact .inl ((grown.kept place entry there).trans there.symm)
  | none =>
    cases now : after.get? place with
    | none => exact .inl (now.trans there.symm)
    | some entry =>
      rcases grown.of_parent.fresh place entry now with earlier | ⟨rfl, way⟩
      · cases there.symm.trans earlier
      · rcases onWay_pathIn safe way with above | below
        · exact .inr (.inr ⟨above, there, now⟩)
        · exact .inr (.inl below)

/-- A file whose name is safe and stands for the directory that it is written in. -/
def Itself (file : NamedFile) : Prop :=
  isSafe file.name = true ∧ (Path.ofText file.name).names = []

/-- Writing a file changes nothing elsewhere, but for the place of the directory itself where the
name stands for that one. -/
theorem Steps.within (steps : Steps directory file tree result after)
    (other : place ≠ tree.placeOf directory ∨ ¬Itself file) :
    Within directory tree after place := by
  cases steps with
  | refused => exact .inl rfl
  | stopped safe grown => exact within_of_grown safe grown place
  | @wrote mid found safe grown led differ =>
    unfold Within
    rw [get_set _ (find_inside led differ).1]
    split
    · next same =>
      rw [placeOf_pathIn safe] at same
      refine .inr (.inl ⟨_, ?_, same⟩)
      intro nothing
      rw [nothing, List.append_nil] at same
      exact other.elim (fun away => away same) (fun proper => proper ⟨safe, nothing⟩)
    · exact within_of_grown safe grown place

/-- Where a file is not written, no more than directories were made. -/
theorem confined_of_stopped {failure : Failure}
    (steps : Steps directory file tree (.error failure) after) : Confined directory tree after := by
  cases steps with
  | refused => exact .refl directory tree
  | stopped safe grown => exact within_of_grown safe grown

/-- The directory is there. -/
def There (tree : FileTree) (directory : Path) : Prop :=
  tree.follow (tree.startOf directory) directory.names =
    .ok (tree.placeOf directory, some .directory)

theorem There.kept (there : There before directory) (kept : Kept before after) :
    There after directory := by
  unfold There
  rw [kept.startOf, kept.placeOf]
  exact kept.follow there (.inl rfl)

/-- No file is written in the place of a directory that is there. -/
theorem Steps.confined (steps : Steps directory file tree result after)
    (there : There tree directory) : Confined directory tree after := by
  by_cases itself : Itself file
  · cases steps with
    | refused => exact .refl directory tree
    | stopped safe grown => exact within_of_grown safe grown
    | wrote safe grown led differ =>
      have still := there.kept (.of_grown grown)
      rw [pathIn_safe safe, itself.2, List.append_nil] at led
      have same := Except.ok.inj ((find_ok.mp led).2.symm.trans still)
      exact absurd (congrArg Prod.snd same) differ
  · exact fun place => steps.within (.inr itself)

/-- Where a file is written below a directory, this one is there. -/
theorem there_of_wrote {path : Path} (steps : Steps directory file tree (.ok path) after)
    (proper : ¬Itself file) : There after directory := by
  have kept := steps.kept
  cases steps with
  | @wrote mid found safe grown led differ =>
    have followed := (find_ok.mp led).2
    rw [pathIn_safe safe] at followed
    have there : There mid directory :=
      follow_append (fun nothing => proper ⟨safe, nothing⟩) followed
    obtain ⟨inside, here⟩ := find_inside led differ
    exact there.kept (.of_set _ inside here differ)

/-- A file that stands for the directory is in its place once it was written. -/
theorem file_of_wrote {path : Path} (steps : Steps directory file tree (.ok path) after)
    (itself : Itself file) : after.get? (tree.placeOf directory) = some (.file file.data) := by
  cases steps with
  | @wrote mid found safe grown led differ =>
    have inside := (find_inside led differ).1
    have same : tree.placeOf (pathIn directory file) = tree.placeOf directory := by
      rw [placeOf_pathIn safe, itself.2, List.append_nil]
    rw [same] at inside ⊢
    rw [get_set _ inside, if_pos rfl]

/-- Once the directory is there, all that is written stays below it. -/
theorem confined_writeAll (there : There tree directory) (files : List NamedFile) :
    Confined directory tree ((writeAll directory files).run tree).files := by
  have both := writeAll_preserves directory
    (R := fun before after => Kept before after ∧
      (There before directory → Confined directory before after))
    (fun tree => ⟨.refl tree, fun _ => .refl directory tree⟩)
    (fun first second => ⟨first.1.trans second.1, fun there place =>
      (first.2 there place).trans first.1 (second.2 (there.kept first.1) place)⟩)
    (fun _ _ _ _ steps => ⟨steps.kept, steps.confined⟩) files tree
  exact both.2 there

/-- Writing changes nothing that is neither below the directory nor on the way to it, unless it is
the place of the directory itself. -/
theorem within_writeAll (files : List NamedFile) (away : place ≠ tree.placeOf directory) :
    Within directory tree ((writeAll directory files).run tree).files place := by
  have both := writeAll_preserves directory
    (R := fun before after => Kept before after ∧
      (place ≠ before.placeOf directory → Within directory before after place))
    (fun tree => ⟨.refl tree, fun _ => .inl rfl⟩)
    (fun first second => ⟨first.1.trans second.1, fun away =>
      (first.2 away).trans first.1 (second.2 (by rwa [first.1.placeOf]))⟩)
    (fun _ _ _ _ steps => ⟨steps.kept, fun away => steps.within (.inl away)⟩) files tree
  exact both.2 away

/-- Writing files is confined to their directory, whether it comes to its end or stops: all that
changed is below the directory, or is this directory or one on the way to it, newly made. The place
of the directory itself is the exception, where the first file has a name that stands for the
directory, is written there, and other data is there in the end than before. -/
theorem writing_confined (directory : Path) (files : List NamedFile) (tree : FileTree) :
    let after := ((writeAll directory files).run tree).files
    (∀ place, place ≠ tree.placeOf directory → Within directory tree after place) ∧
    (Confined directory tree after ↔ ∀ file rest path mid, files = file :: rest → Itself file →
      Yields (writeOne directory file) tree path mid →
        after.get? (tree.placeOf directory) = tree.get? (tree.placeOf directory)) := by
  intro after
  refine ⟨fun place away => within_writeAll files away, ?_, ?_⟩
  · rintro confined file rest path mid rfl itself ⟨ended, made⟩
    have steps := steps_writeOne directory file tree
    have course : after = ((writeAll directory rest).run mid).files := by
      rw [← made, show after = _ from files_writeAll_cons directory file rest tree, ended]
    rw [ended, made] at steps
    have kept := kept_writeAll directory rest mid
    obtain ⟨data, there⟩ := kept.file _ _ (file_of_wrote steps itself)
    rw [← course] at there
    rcases confined (tree.placeOf directory) with same | below | ⟨-, -, made⟩
    · exact same
    · exact absurd below not_below_self
    · cases there.symm.trans made
  · intro unchanged place
    by_cases away : place ≠ tree.placeOf directory
    · exact within_writeAll files away
    rw [not_ne_iff] at away
    cases files with
    | nil => exact .inl rfl
    | cons file rest =>
      have steps := steps_writeOne directory file tree
      have course : after = _ := files_writeAll_cons directory file rest tree
      cases ended : ((writeOne directory file).run tree).result with
      | error failure =>
        rw [ended] at course steps
        rw [course]
        exact confined_of_stopped steps place
      | ok path =>
        rw [ended] at course steps
        by_cases itself : Itself file
        · left
          rw [away]
          exact unchanged file rest path _ rfl itself ⟨ended, rfl⟩
        · have first : Within directory tree _ place := steps.within (.inr itself)
          have second := confined_writeAll (there_of_wrote steps itself) rest place
          rw [course]
          exact first.trans steps.kept second

/-- One point for a name stands for the directory: where that is missing, a file takes its place. -/
theorem dot_unconfined :
    ¬Confined (Path.ofText "out") ⟨[], [], []⟩
      ((writeAll (Path.ofText "out") [⟨".", [120]⟩]).run ⟨[], [], []⟩).files := by
  intro confined
  have there : ((writeAll (Path.ofText "out") [⟨".", [120]⟩]).run ⟨[], [], []⟩).files.get? ["out"] =
      some (.file [120]) := by decide +kernel
  have here : (FileTree.mk [] [] []).placeOf (Path.ofText "out") = ["out"] := by decide +kernel
  rcases confined ["out"] with same | below | ⟨-, -, made⟩
  · cases there.symm.trans same
  · rw [← here] at below
    exact not_below_self below
  · cases there.symm.trans made

/-- Two files, of which the second one is refused, in a directory that is missing like one on the
way to it. -/
theorem detour_confined :
    ((writeAll (Path.ofText "a/../out") [⟨"b/c", [120]⟩, ⟨"../d", []⟩]).run ⟨[], [], []⟩).files =
        ⟨[], [(["a"], .directory), (["out"], .directory), (["out", "b"], .directory),
          (["out", "b", "c"], .file [120])], []⟩ ∧
      Confined (Path.ofText "a/../out") ⟨[], [], []⟩ ((writeAll (Path.ofText "a/../out")
        [⟨"b/c", [120]⟩, ⟨"../d", []⟩]).run ⟨[], [], []⟩).files := by
  refine ⟨by decide +kernel, ?_⟩
  refine (writing_confined (Path.ofText "a/../out") _ ⟨[], [], []⟩).2.mpr ?_
  rintro file rest path mid same ⟨-, nothing⟩ -
  cases same
  revert nothing
  decide +kernel

end Directory

end ClusterManifest
