import ClusterManifest.File.Tree
import ClusterManifest.Proofs.Result

/-! A file that was written: it is found where it was written, its directory is there, and writing
the same data again changes nothing. -/

namespace ClusterManifest

namespace Path

theorem text_names (start : Start) {names : List String} (nonempty : names ≠ []) :
    text ⟨start, names⟩ = start.text ++ "/".intercalate names := by
  cases names with
  | nil => exact absurd rfl nonempty
  | cons name names => cases start <;> rfl

theorem text_append {start : Start} {names more : List String} (nonempty : names ≠ [])
    (some : more ≠ []) :
    text ⟨start, names ++ more⟩ = text ⟨start, names⟩ ++ "/" ++ "/".intercalate more := by
  rw [text_names start nonempty, text_names start (List.append_ne_nil_of_left_ne_nil nonempty more),
    String.intercalate_append_of_ne_nil nonempty some]
  simp only [String.append_assoc]

theorem text_parent {path : Path} {limit : Nat} (nonempty : path.names ≠ []) (room : 2 ≤ limit)
    (plain : '\x00' ∉ path.text.toList) (short : path.text.utf8ByteSize ≤ limit) :
    '\x00' ∉ path.parent.text.toList ∧ path.parent.text.utf8ByteSize ≤ limit := by
  obtain ⟨start, names⟩ := path
  dsimp only at nonempty
  have parts := List.dropLast_concat_getLast nonempty
  unfold parent
  dsimp only
  generalize names.dropLast = before at parts ⊢
  generalize names.getLast nonempty = last at parts
  subst parts
  cases before with
  | nil =>
    have size : (text ⟨start, []⟩).utf8ByteSize ≤ 2 := by cases start <;> decide +kernel
    exact ⟨by cases start <;> decide +kernel, Nat.le_trans size room⟩
  | cons name before =>
    rw [text_append (List.cons_ne_nil name before) (List.cons_ne_nil last [])] at plain short
    simp only [String.toList_append, List.mem_append, not_or,
      String.utf8ByteSize_append] at plain short
    exact ⟨plain.1.1, by omega⟩

end Path

namespace FileTree

variable {tree : FileTree} {place start : Place} {names : List String}

theorem get_set_same (data : Text.Bytes) (inside : place ≠ []) :
    (tree.set place (.file data)).get? place = some (.file data) :=
  get?_setEntry_same tree.working tree.entries tree.barred place (.file data) inside

theorem get_set_other {other : Place} (data : Text.Bytes) (differ : other ≠ place) :
    (tree.set place (.file data)).get? other = tree.get? other :=
  get?_setEntry_other tree.working tree.entries tree.barred place other (.file data) differ

def next (start : Place) (name : String) : Place :=
  if name = Path.above then start.dropLast else start ++ [name]

theorem follow_cons {name : String} {reached : Place × Option Entry} :
    tree.follow start (name :: names) = .ok reached ↔ ¬nameLimit < name.utf8ByteSize ∧
      ((tree.get? (next start name) = some .directory ∧
          tree.follow (next start name) names = .ok reached) ∨
        (tree.get? (next start name) ≠ some .directory ∧ names = [] ∧
          (next start name, tree.get? (next start name)) = reached)) := by
  conv =>
    lhs
    lhs
    unfold follow
  change (if nameLimit < name.utf8ByteSize then _ else _) = _ ↔ _
  rw [← next]
  split
  · next long => simp [long]
  · next short =>
    cases tree.get? (next start name) with
    | none => cases names <;> simp [short]
    | some entry =>
      cases entry with
      | directory => simp [short]
      | file data => cases names <;> simp [short]

/-- What names lead to, unless it is a directory, is at the place that they lead to. -/
theorem get_of_follow {found : Option Entry}
    (led : tree.follow start names = .ok (place, found)) (other : found ≠ some .directory) :
    tree.get? place = found := by
  induction names generalizing start with
  | nil =>
    cases led
    exact absurd rfl other
  | cons name names ih =>
    rcases follow_cons.mp led with ⟨-, ⟨-, further⟩ | ⟨-, -, same⟩⟩
    · exact ih further
    · cases same
      rfl

theorem follow_set {found : Option Entry} (data : Text.Bytes)
    (led : tree.follow start names = .ok (place, found)) (other : found ≠ some .directory) :
    (tree.set place (.file data)).follow start names = .ok (place, some (.file data)) := by
  have here := get_of_follow led other
  have inside : place ≠ [] := by
    intro top
    subst top
    exact other (here.symm.trans rfl)
  induction names generalizing start with
  | nil =>
    cases led
    exact absurd rfl other
  | cons name names ih =>
    rcases follow_cons.mp led with ⟨short, ⟨directory, further⟩ | ⟨-, last, same⟩⟩
    · have differ : next start name ≠ place := by
        intro same
        rw [same, here] at directory
        exact other directory
      refine follow_cons.mpr ⟨short, .inl ⟨?_, ih further⟩⟩
      rw [get_set_other data differ, directory]
    · cases same
      have written : (tree.set (next start name) (.file data)).get? (next start name) = _ :=
        get_set_same data inside
      refine follow_cons.mpr ⟨short, .inr ⟨?_, last, ?_⟩⟩
      · rw [written]
        simp
      · rw [written]

/-- All names before the last one lead to a directory. -/
theorem follow_dropLast {name : String} {reached : Place × Option Entry}
    (led : tree.follow start (names ++ [name]) = .ok reached) :
    ∃ above, tree.follow start names = .ok (above, some .directory) := by
  induction names generalizing start with
  | nil => exact ⟨start, rfl⟩
  | cons first names ih =>
    rcases follow_cons.mp led with ⟨short, ⟨directory, further⟩ | ⟨-, last, -⟩⟩
    · obtain ⟨above, more⟩ := ih further
      exact ⟨above, follow_cons.mpr ⟨short, .inl ⟨directory, more⟩⟩⟩
    · simp at last

theorem setEntry_setEntry (entries : List (Place × Entry)) (place : Place) (entry : Entry) :
    setEntry (setEntry entries place entry) place entry = setEntry entries place entry := by
  induction entries with
  | nil => simp [setEntry]
  | cons old entries ih =>
    unfold setEntry
    by_cases same : old.1 = place
    · simp [same, setEntry]
    · simp [same, setEntry, ih]

theorem set_set (tree : FileTree) (place : Place) (entry : Entry) :
    (tree.set place entry).set place entry = tree.set place entry :=
  congrArg (FileTree.mk tree.working · tree.barred) (setEntry_setEntry tree.entries place entry)

theorem find_ok {path : Path} {reached : Place × Option Entry} :
    tree.find path = .ok reached ↔ ('\x00' ∉ path.text.toList ∧
      path.text.utf8ByteSize ≤ pathLimit) ∧
        tree.follow (tree.startOf path) path.names = .ok reached := by
  unfold find
  by_cases zero : '\x00' ∈ path.text.toList
  · simp [zero]
  · by_cases long : pathLimit < path.text.utf8ByteSize
    · simp [zero, long, Nat.not_le.mpr long]
    · simp only [List.contains_iff_mem, zero, if_false, long, not_false_eq_true,
        Nat.not_lt.mp long, true_and]
      exact mapError_ok

/-- Where something new may be made, what is there then may be written. -/
theorem allows_found {found : Option Entry} (allowed : tree.allows place found = true)
    (entry : Entry) : tree.allows place (some entry) = true := by
  simp only [allows, Bool.and_eq_true] at allowed ⊢
  exact ⟨allowed.1, rfl⟩

theorem writeFile_ok {path : Path} {data : Text.Bytes} {after : FileTree} :
    tree.writeFile path data = .ok after ↔
      ∃ place found, (tree.find path = .ok (place, found) ∧ found ≠ some .directory) ∧
        tree.allows place found = true ∧ tree.set place (.file data) = after := by
  unfold writeFile
  cases led : tree.find path with
  | error fault => simp
  | ok reached =>
    obtain ⟨place, found⟩ := reached
    rcases found with _ | _ | old <;> simp [ite_ok]

theorem find_written {path : Path} {data : Text.Bytes} {after : FileTree}
    (wrote : tree.writeFile path data = .ok after) :
    ∃ place, after.find path = .ok (place, some (.file data)) ∧
      after.allows place (some (.file data)) = true ∧ after.set place (.file data) = after := by
  obtain ⟨place, found, ⟨led, other⟩, allowed, rfl⟩ := writeFile_ok.mp wrote
  obtain ⟨taken, followed⟩ := find_ok.mp led
  exact ⟨place, find_ok.mpr ⟨taken, follow_set data followed other⟩, allows_found allowed _,
    set_set tree place _⟩

theorem readFile_written {path : Path} {data : Text.Bytes} {after : FileTree}
    (wrote : tree.writeFile path data = .ok after) : after.readFile path = .ok data := by
  obtain ⟨place, found, -⟩ := find_written wrote
  simp only [readFile, found]

theorem writeFile_written {path : Path} {data : Text.Bytes} {after : FileTree}
    (wrote : tree.writeFile path data = .ok after) : after.writeFile path data = .ok after := by
  obtain ⟨place, found, same⟩ := find_written wrote
  exact writeFile_ok.mpr ⟨place, _, ⟨found, nofun⟩, same⟩

theorem find_parent {path : Path} {reached : Place × Option Entry} (nonempty : path.names ≠ [])
    (led : tree.find path = .ok reached) :
    ∃ above, tree.find path.parent = .ok (above, some .directory) := by
  obtain ⟨taken, followed⟩ := find_ok.mp led
  rw [← List.dropLast_concat_getLast nonempty] at followed
  obtain ⟨above, directory⟩ := follow_dropLast followed
  exact ⟨above, find_ok.mpr ⟨Path.text_parent nonempty (by decide) taken.1 taken.2, directory⟩⟩

theorem find_parent_written {path : Path} {data : Text.Bytes} {after : FileTree}
    (nonempty : path.names ≠ []) (wrote : tree.writeFile path data = .ok after) :
    ∃ above, after.find path.parent = .ok (above, some .directory) := by
  obtain ⟨place, found, -⟩ := find_written wrote
  exact find_parent nonempty found

end FileTree

end ClusterManifest
