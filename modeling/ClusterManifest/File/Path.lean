import ClusterManifest.Text.Blank

/-! Paths of files as texts write them: where a path starts, and the names on the way. Empty
names and single points say nothing and are dropped; a double point is kept, since what it
stands for depends on what the names before it are. -/

namespace ClusterManifest

/-- Where a path starts: at the working directory, at the top, or at the place that exactly
two slashes name, which is the top as well but is written apart. -/
inductive Path.Start
  | here
  | top
  | doubleTop
  deriving DecidableEq, Repr

structure Path where
  start : Path.Start
  names : List String
  deriving DecidableEq, Repr

namespace Path

def Start.text : Start → String
  | .here => ""
  | .top => "/"
  | .doubleTop => "//"

def above : String := ".."

/-- The start that the first characters of a text name: three slashes and more are as one. -/
def startOf : List Char → Start
  | '/' :: '/' :: '/' :: _ => .top
  | '/' :: '/' :: _ => .doubleTop
  | '/' :: _ => .top
  | _ => .here

def isName (piece : List Char) : Bool := !piece.isEmpty && piece != ['.']

def namesOf (s : List Char) : List String :=
  ((Text.splitAtChar '/' s).filter isName).map String.ofList

def ofText (text : String) : Path := ⟨startOf text.toList, namesOf text.toList⟩

/-- A path as a text. A path without start and names is the working directory itself. -/
def text (path : Path) : String :=
  match path.start, path.names with
  | .here, [] => "."
  | start, names => start.text ++ "/".intercalate names

def isAbsolute (path : Path) : Bool := path.start != .here

/-- A path that goes on from another: one that starts at the top stays what it is. -/
def join (base next : Path) : Path :=
  if next.isAbsolute then next else ⟨base.start, base.names ++ next.names⟩

/-- The path without its last name; none where there is no name to drop. -/
def parent? (path : Path) : Option Path :=
  if path.names.isEmpty then none else some ⟨path.start, path.names.dropLast⟩

def parent (path : Path) : Path := ⟨path.start, path.names.dropLast⟩

theorem parent_of_some {path up : Path} (h : path.parent? = some up) : up = path.parent := by
  unfold parent? at h
  split at h
  · cases h
  · exact (Option.some.inj h).symm

theorem length_parent_lt {path up : Path} (h : path.parent? = some up) :
    up.names.length < path.names.length := by
  unfold parent? at h
  split at h
  · simp at h
  · next nonempty =>
    have : path.names ≠ [] := by simpa using nonempty
    have positive := List.length_pos_iff.mpr this
    cases Option.some.inj h
    simp only [List.length_dropLast]
    omega

example : (ofText "a//./b/").text = "a/b" := by decide +kernel
example : (ofText "//a").text = "//a" ∧ (ofText "///a").text = "/a" := by decide +kernel
example : ((ofText "a").join (ofText "../b")).text = "a/../b" := by decide +kernel

end Path

end ClusterManifest
