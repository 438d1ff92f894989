import ClusterManifest.Action
import ClusterManifest.Store

/-! Files kept in a directory: fetching one by its name, and writing several below it, with
the directories on the way made where they are missing. -/

namespace ClusterManifest.Directory

def tolerate (path : Path) (error : FileError) : Action Unit :=
  .isDirectory path (fun
    | .ok true => .done ()
    | .ok false => .fail (.file error)
    | .error fault => .fail (.file fault))

/-- Makes a directory in one that is there, unless it is there as well. -/
def makeLast (path : Path) : Action Unit :=
  .makeDirectory path (fun
    | .ok () => .done ()
    | .error (.system .notFound missing) => .fail (.file (.system .notFound missing))
    | .error .zeroCharacter => .fail (.file .zeroCharacter)
    | .error error => tolerate path error)

/-- Makes a directory and all on the way to it, as far as they are missing. -/
def make (path : Path) : Action Unit :=
  .makeDirectory path (fun
    | .ok () => .done ()
    | .error (.system .notFound missing) =>
      match h : path.parent? with
      | none => .fail (.file (.system .notFound missing))
      | some up =>
        have := Path.length_parent_lt h
        (make up).bind (fun _ => makeLast path)
    | .error .zeroCharacter => .fail (.file .zeroCharacter)
    | .error error => tolerate path error)
termination_by path.names.length

def fetch (directory : Path) (name : String) : Action NamedFile :=
  .readFile (directory.join (Path.ofText name)) (fun answer => do
    let data ← Action.ofExcept .file answer
    return ⟨name, data⟩)

def fetchedOf : Except FileError Text.Bytes → Fetched
  | .ok data => .data data
  | .error (.system .notFound _) => .absent
  | .error error => .failed ⟨error.kindName, error.message⟩

def fetchManifest (directory : Path) : Action Fetched :=
  .readFile (directory.join (Path.ofText Manifest.fileName)) (fun answer =>
    .done (fetchedOf answer))

/-- A name that does not lead out of the directory it is used in. -/
def isSafe (name : String) : Bool :=
  let path := Path.ofText name
  !name.isEmpty && !path.isAbsolute && !path.names.contains Path.above

def writeOne (directory : Path) (file : NamedFile) : Action Path :=
  if isSafe file.name then do
    let path := directory.join (Path.ofText file.name)
    make path.parent
    .writeFile path file.data (fun answer => do
      Action.ofExcept .file answer
      return path)
  else .fail (.fileName file.name)

def writeAll (directory : Path) : List NamedFile → Action (List Path)
  | [] => .done []
  | file :: files => do
    let path ← writeOne directory file
    let paths ← writeAll directory files
    return path :: paths

end ClusterManifest.Directory
