import ClusterManifest.File.Path
import ClusterManifest.Text.Quoted

/-! What the operating system answers when a file cannot be used. -/

namespace ClusterManifest

inductive FileError.Reason
  | notFound
  | denied
  | exists
  | notDirectory
  | isDirectory
  | nameTooLong
  deriving DecidableEq, Repr

/-- Why a file could not be used: the system's reason with the path, or a path that is no
path at all, since it holds a zero character. -/
inductive FileError
  | system (reason : FileError.Reason) (path : Path)
  | zeroCharacter
  deriving DecidableEq, Repr

namespace FileError

def Reason.number : Reason → Nat
  | .notFound => 2
  | .denied => 13
  | .exists => 17
  | .notDirectory => 20
  | .isDirectory => 21
  | .nameTooLong => 36

def Reason.text : Reason → String
  | .notFound => "No such file or directory"
  | .denied => "Permission denied"
  | .exists => "File exists"
  | .notDirectory => "Not a directory"
  | .isDirectory => "Is a directory"
  | .nameTooLong => "File name too long"

def kindName : FileError → String
  | .system .notFound _ => "FileNotFoundError"
  | .system .denied _ => "PermissionError"
  | .system .exists _ => "FileExistsError"
  | .system .notDirectory _ => "NotADirectoryError"
  | .system .isDirectory _ => "IsADirectoryError"
  | .system .nameTooLong _ => "OSError"
  | .zeroCharacter => "ValueError"

def message : FileError → String
  | .system reason path =>
    "[Errno " ++ toString reason.number ++ "] " ++ reason.text ++ ": " ++
      Text.quotedString path.text
  | .zeroCharacter => "embedded null byte"

end FileError

end ClusterManifest
