import ClusterManifest.Proofs.File.Writing

/-! Files that were written, all of them. Each is fetched again with what was written for it last,
whatever its name looked like; the other files are as they were, and what is new besides are
directories on the way. -/

namespace ClusterManifest

/-- Of the elements that pass a test there is a last one. -/
theorem exists_last {α : Type} {p : α → Bool} {s : List α} {a : α} (among : a ∈ s)
    (passes : p a = true) :
    ∃ before last after, s = before ++ last :: after ∧ p last = true ∧
      ∀ b ∈ after, p b = false := by
  have some : (s.reverse.find? p).isSome = true :=
    List.find?_isSome.mpr ⟨a, List.mem_reverse.mpr among, passes⟩
  obtain ⟨last, found⟩ := Option.isSome_iff_exists.mp some
  obtain ⟨passed, after, before, turned, none⟩ := List.find?_eq_some_iff_append.mp found
  refine ⟨before.reverse, last, after.reverse, ?_, passed, fun b within => ?_⟩
  · rw [← List.reverse_reverse s, turned]
    simp
  · simpa using none b (List.mem_reverse.mp within)

namespace Directory

open ClusterManifest.Action FileTree

variable {tree before mid after : FileTree} {directory path : Path} {file : NamedFile}
  {files rest : List NamedFile} {paths : List Path}

theorem writeAll_cons_yields : Yields (writeAll directory (file :: rest)) tree paths after ↔
    ∃ path mid others, paths = path :: others ∧ Yields (writeOne directory file) tree path mid ∧
      Yields (writeAll directory rest) mid others after := by
  simp only [writeAll, bind_def, pure_def, yields_bind, yields_done]
  constructor
  · rintro ⟨path, mid, first, others, _, more, rfl, rfl⟩
    exact ⟨path, mid, others, rfl, first, more⟩
  · rintro ⟨path, mid, others, rfl, first, more⟩
    exact ⟨path, mid, first, others, after, more, rfl, rfl⟩

theorem steps_of_yields (wrote : Yields (writeOne directory file) tree path after) :
    Steps directory file tree (.ok path) after := by
  have steps := steps_writeOne directory file tree
  rwa [wrote.1, wrote.2] at steps

/-- A tree in which files were written at the ends of paths, with directories on the way: all else
is as it was. -/
structure WroteAll (paths : List Path) (before after : FileTree) : Prop where
  kept : ∀ place entry, (∀ path ∈ paths, place ≠ before.placeOf path) →
    before.get? place = some entry → after.get? place = some entry
  fresh : ∀ place entry, (∀ path ∈ paths, place ≠ before.placeOf path) →
    after.get? place = some entry →
      before.get? place = some entry ∨ entry = .directory ∧ ∃ path ∈ paths, before.OnWay path place

theorem WroteAll.cons {data : Text.Bytes} (first : Wrote path data before mid)
    (same : Kept before mid) (rest : WroteAll paths mid after) :
    WroteAll (path :: paths) before after where
  kept := by
    intro place entry away there
    rw [List.forall_mem_cons] at away
    refine rest.kept place entry (fun other among => ?_) (first.kept place entry away.1 there)
    rw [same.placeOf]
    exact away.2 other among
  fresh := by
    intro place entry away there
    rw [List.forall_mem_cons] at away
    have others : ∀ other ∈ paths, place ≠ mid.placeOf other := by
      intro other among
      rw [same.placeOf]
      exact away.2 other among
    rcases rest.fresh place entry others there with earlier | ⟨made, other, among, way⟩
    · rcases first.fresh place entry away.1 earlier with old | ⟨made, way⟩
      · exact .inl old
      · exact .inr ⟨made, path, List.mem_cons_self .., way⟩
    · unfold OnWay at way
      rw [same.startOf] at way
      exact .inr ⟨made, other, List.mem_cons_of_mem _ among, way⟩

theorem wroteAll (wrote : Yields (writeAll directory files) tree paths after) :
    WroteAll paths tree after := by
  induction files generalizing tree paths with
  | nil =>
    obtain ⟨rfl, rfl⟩ := yields_done.mp wrote
    exact ⟨fun _ _ _ there => there, fun _ _ _ there => .inl there⟩
  | cons file rest ih =>
    obtain ⟨path, mid, others, rfl, first, more⟩ := writeAll_cons_yields.mp wrote
    exact .cons (writeOne_wrote first) (steps_of_yields first).kept (ih more)

theorem paths_writeAll (wrote : Yields (writeAll directory files) tree paths after) :
    paths = files.map (pathIn directory) ∧ ∀ file ∈ files, isSafe file.name = true := by
  induction files generalizing tree paths with
  | nil =>
    obtain ⟨rfl, rfl⟩ := yields_done.mp wrote
    exact ⟨rfl, fun _ among => absurd among List.not_mem_nil⟩
  | cons file rest ih =>
    obtain ⟨path, mid, others, rfl, first, more⟩ := writeAll_cons_yields.mp wrote
    obtain ⟨safe, rfl, -⟩ := writeOne_yields.mp first
    obtain ⟨same, others⟩ := ih more
    exact ⟨by rw [same]; rfl, List.forall_mem_cons.mpr ⟨safe, others⟩⟩

/-- Names that lead to one place in a directory have the same normal form. -/
theorem sameName_of_place {other : NamedFile} (safe : isSafe file.name = true)
    (otherSafe : isSafe other.name = true)
    (same : tree.placeOf (pathIn directory file) = tree.placeOf (pathIn directory other)) :
    Path.ofText file.name = Path.ofText other.name := by
  rw [placeOf_pathIn safe, placeOf_pathIn otherSafe] at same
  have names := List.append_cancel_left same
  have here {file : NamedFile} (safe : isSafe file.name = true) :
      (Path.ofText file.name).start = .here := by
    simpa [Path.isAbsolute] using (safe_names safe).1
  exact congrArg₂ Path.mk ((here safe).trans (here otherSafe).symm) names

theorem readFile_kept {data : Text.Bytes} (kept : Kept before after)
    (read : before.readFile path = .ok data)
    (still : after.get? (before.placeOf path) = some (.file data)) :
    after.readFile path = .ok data := by
  obtain ⟨place, led⟩ := readFile_ok.mp read
  cases place_of_find led
  obtain ⟨taken, followed⟩ := find_ok.mp led
  have again := kept.follow followed (.inr still)
  rw [← kept.startOf] at again
  exact readFile_ok.mpr ⟨_, find_ok.mpr ⟨taken, again⟩⟩

/-- A file that is not written again is there in the end. -/
theorem readFile_last {earlier later : List NamedFile}
    (wrote : Yields (writeAll directory (earlier ++ file :: later)) tree paths after)
    (last : ∀ other ∈ later, Path.ofText other.name ≠ Path.ofText file.name) :
    after.readFile (pathIn directory file) = .ok file.data := by
  induction earlier generalizing tree paths with
  | cons first earlier ih =>
    obtain ⟨_, _, _, -, -, more⟩ := writeAll_cons_yields.mp wrote
    exact ih more
  | nil =>
    obtain ⟨_, mid, others, rfl, first, more⟩ := writeAll_cons_yields.mp wrote
    obtain ⟨safe, rfl, _, -, written⟩ := writeOne_yields.mp first
    have read : mid.readFile (pathIn directory file) = .ok file.data := readFile_written written
    have kept := kept_writeAll directory later mid
    rw [more.2] at kept
    obtain ⟨rfl, safes⟩ := paths_writeAll more
    have there : mid.get? (mid.placeOf (pathIn directory file)) = some (.file file.data) := by
      rw [(steps_of_yields first).kept.placeOf]
      exact (writeOne_wrote first).holds
    refine readFile_kept kept read ((wroteAll more).kept _ _ ?_ there)
    intro path among same
    obtain ⟨other, within, rfl⟩ := List.mem_map.mp among
    exact last other within (sameName_of_place safe (safes other within) same).symm

theorem fetch_yields {name : String} {data : Text.Bytes}
    (read : tree.readFile (directory.join (Path.ofText name)) = .ok data) :
    Yields (fetch directory name) tree ⟨name, data⟩ tree := by
  simp only [Yields, fetch, run, read]
  exact ⟨rfl, rfl⟩

/-- Writing files that comes to its end gives the paths of all of them. Then each file is fetched
with the data of the last one that was written for the same path. Nothing was removed, and each file
that none of the paths leads to is as it was. New are the files that the paths lead to, and
directories on the way to them. -/
theorem written_fetched (wrote : Yields (writeAll directory files) tree paths after) :
    paths = files.map (fun file => directory.join (Path.ofText file.name)) ∧
    (∀ file ∈ files, ∃ earlier last later, files = earlier ++ last :: later ∧
      Path.ofText last.name = Path.ofText file.name ∧
      (∀ other ∈ later, Path.ofText other.name ≠ Path.ofText file.name) ∧
      Yields (fetch directory file.name) after ⟨file.name, last.data⟩ after) ∧
    Kept tree after ∧
    (∀ place data, (∀ path ∈ paths, place ≠ tree.placeOf path) →
      tree.get? place = some (.file data) → after.get? place = some (.file data)) ∧
    ∀ place, tree.get? place = none →
      (∀ data, after.get? place = some (.file data) → ∃ path ∈ paths, place = tree.placeOf path) ∧
      (after.get? place = some .directory → ∃ path ∈ paths, tree.OnWay path place) := by
  have all := wroteAll wrote
  have kept := kept_writeAll directory files tree
  rw [wrote.2] at kept
  refine ⟨(paths_writeAll wrote).1, ?_, kept, fun place data away => all.kept place _ away, ?_⟩
  · intro file among
    obtain ⟨earlier, last, later, rfl, same, none⟩ := exists_last (p := fun other : NamedFile =>
      decide (Path.ofText other.name = Path.ofText file.name)) among (decide_eq_true rfl)
    have path := of_decide_eq_true same
    have others : ∀ other ∈ later, Path.ofText other.name ≠ Path.ofText file.name :=
      fun other within => of_decide_eq_false (none other within)
    refine ⟨earlier, last, later, rfl, path, others, fetch_yields ?_⟩
    rw [← path]
    exact readFile_last wrote (fun other within => path ▸ others other within)
  · intro place empty
    by_cases away : ∀ path ∈ paths, place ≠ tree.placeOf path
    · refine ⟨fun data there => ?_, fun there => ?_⟩
      · rcases all.fresh place _ away there with old | ⟨directory, -⟩
        · cases empty.symm.trans old
        · cases directory
      · rcases all.fresh place _ away there with old | ⟨-, made⟩
        · cases empty.symm.trans old
        · exact made
    · push Not at away
      obtain ⟨path, among, same⟩ := away
      exact ⟨fun _ _ => ⟨path, among, same⟩,
        fun _ => ⟨path, among, path.names, List.prefix_refl _, same⟩⟩

/-- Three files, of which the last one has the first one's name in other words. -/
def respelled : List NamedFile := [⟨"b/c", [1]⟩, ⟨"./d", [2]⟩, ⟨"b//c", [3]⟩]

theorem respelled_fetched :
    ∃ paths after,
      Yields (writeAll (Path.ofText "a/../out") respelled) ⟨[], [(["e"], .file [0])], []⟩ paths after ∧
      paths.map Path.text = ["a/../out/b/c", "a/../out/d", "a/../out/b/c"] ∧
      (∃ earlier last later, respelled = earlier ++ last :: later ∧
        Path.ofText last.name = Path.ofText "b/c" ∧
        (∀ other ∈ later, Path.ofText other.name ≠ Path.ofText "b/c") ∧
        Yields (fetch (Path.ofText "a/../out") "b/c") after ⟨"b/c", last.data⟩ after) ∧
      after.readFile (Path.ofText "out/b/c") = .ok [3] ∧
      after.get? ["e"] = some (.file [0]) := by
  have wrote : Yields (writeAll (Path.ofText "a/../out") respelled) ⟨[], [(["e"], .file [0])], []⟩
      (respelled.map (pathIn (Path.ofText "a/../out")))
      ((writeAll (Path.ofText "a/../out") respelled).run ⟨[], [(["e"], .file [0])], []⟩).files :=
    ⟨ok_of_toOption (by decide +kernel), rfl⟩
  obtain ⟨-, fetched, -, frame, -⟩ := written_fetched wrote
  refine ⟨_, _, wrote, by decide +kernel, fetched ⟨"b/c", [1]⟩ (by simp [respelled]),
    ok_of_toOption (by decide +kernel), frame ["e"] [0] ?_ rfl⟩
  decide +kernel

end Directory

end ClusterManifest
