import ClusterManifest.File.Error

/-! A tree of files and directories without links. An entry is known by its place, the names
on the way to it from the top; the top itself is always a directory. A path is followed name
by name, through directories that are there, as the operating system does. All that is there
can be found and read, while some places may be barred from being written to; what is written
at all is written whole. -/

namespace ClusterManifest

abbrev Place := List String

inductive Entry
  | directory
  | file (data : Text.Bytes)
  deriving DecidableEq, Repr

/-- The entries of a tree, and the place that paths start from which do not start at the
top. At a barred place nothing is made or written, nor is anything new in a directory there. -/
structure FileTree where
  working : Place
  entries : List (Place × Entry)
  barred : List Place
  deriving DecidableEq, Repr

namespace FileTree

open FileError (Reason)

def get? (tree : FileTree) (place : Place) : Option Entry :=
  if place.isEmpty then some .directory
  else (tree.entries.find? (fun entry => entry.1 == place)).map Prod.snd

/-- Entries with one of them set, in its place when it is there and at the end if not. -/
def setEntry (entries : List (Place × Entry)) (place : Place) (entry : Entry) :
    List (Place × Entry) :=
  match entries with
  | [] => [(place, entry)]
  | old :: rest =>
    if old.1 == place then (place, entry) :: rest else old :: setEntry rest place entry

def set (tree : FileTree) (place : Place) (entry : Entry) : FileTree :=
  { tree with entries := setEntry tree.entries place entry }

def nameLimit : Nat := 255

def pathLimit : Nat := 4095

/-- Follows names from a directory: the place of what they lead to, and what is there, if
anything; all names but the last must lead to directories. -/
def follow (tree : FileTree) (place : Place) : List String →
    Except Reason (Place × Option Entry)
  | [] => .ok (place, some .directory)
  | name :: names =>
    let next := if name = Path.above then place.dropLast else place ++ [name]
    if nameLimit < name.utf8ByteSize then .error .nameTooLong
    else
      match tree.get? next, names with
      | some .directory, names => follow tree next names
      | found, [] => .ok (next, found)
      | some (.file _), _ => .error .notDirectory
      | none, _ => .error .notFound

def startOf (tree : FileTree) (path : Path) : Place :=
  if path.isAbsolute then [] else tree.working

def find (tree : FileTree) (path : Path) : Except FileError (Place × Option Entry) :=
  if path.text.toList.contains '\x00' then .error .zeroCharacter
  else if pathLimit < path.text.utf8ByteSize then .error (.system .nameTooLong path)
  else (tree.follow (tree.startOf path) path.names).mapError (FileError.system · path)

def readFile (tree : FileTree) (path : Path) : Except FileError Text.Bytes :=
  match tree.find path with
  | .error fault => .error fault
  | .ok (_, some (.file data)) => .ok data
  | .ok (_, some .directory) => .error (.system .isDirectory path)
  | .ok (_, none) => .error (.system .notFound path)

/-- What is at a place may be written, or made there in a directory that takes it. -/
def allows (tree : FileTree) (place : Place) (found : Option Entry) : Bool :=
  !tree.barred.contains place && (found.isSome || !tree.barred.contains place.dropLast)

def writeFile (tree : FileTree) (path : Path) (data : Text.Bytes) : Except FileError FileTree :=
  match tree.find path with
  | .error fault => .error fault
  | .ok (_, some .directory) => .error (.system .isDirectory path)
  | .ok (place, found) =>
    if tree.allows place found then .ok (tree.set place (.file data))
    else .error (.system .denied path)

def makeDirectory (tree : FileTree) (path : Path) : Except FileError FileTree :=
  match tree.find path with
  | .error fault => .error fault
  | .ok (_, some _) => .error (.system .exists path)
  | .ok (place, none) =>
    if tree.allows place none then .ok (tree.set place .directory)
    else .error (.system .denied path)

/-- Whether a path leads to a directory. That something on the way is missing or no
directory means no; other errors are passed on. -/
def isDirectory (tree : FileTree) (path : Path) : Except FileError Bool :=
  match tree.find path with
  | .ok (_, found) => .ok (found == some .directory)
  | .error (.system .nameTooLong path) => .error (.system .nameTooLong path)
  | .error _ => .ok false

theorem get?_setEntry_same (working : Place) (entries : List (Place × Entry))
    (barred : List Place) (place : Place) (entry : Entry) (inside : place ≠ []) :
    (FileTree.mk working (setEntry entries place entry) barred).get? place = some entry := by
  induction entries with
  | nil => simp [get?, setEntry, inside]
  | cons old rest ih =>
    simp only [get?, setEntry] at ih ⊢
    by_cases h : old.1 = place
    · simp [h, inside]
    · simpa [h, inside] using ih

theorem get?_setEntry_other (working : Place) (entries : List (Place × Entry))
    (barred : List Place) (place other : Place) (entry : Entry) (differ : other ≠ place) :
    (FileTree.mk working (setEntry entries place entry) barred).get? other =
      (FileTree.mk working entries barred).get? other := by
  induction entries with
  | nil => simp [get?, setEntry, differ.symm]
  | cons old rest ih =>
    simp only [get?, setEntry] at ih ⊢
    by_cases h : old.1 = place
    · simp [h, differ.symm]
    · by_cases g : old.1 = other
      · simp [g, differ]
      · simpa [h, g] using ih

end FileTree

end ClusterManifest
