import ClusterManifest.File.Path
import ClusterManifest.Environment

/-! What a run is told of the machine besides its files: the environment of the process, the
home directories, and where the process works. -/

namespace ClusterManifest

structure Host where
  environment : Environment
  /-- The home directory of whoever runs the process, where one is known. -/
  home? : Option String
  /-- The home directories of the accounts of the machine. -/
  accounts : List (String × String)
  working : Path
  deriving DecidableEq, Repr

namespace Host

/-- The home directory of an account; of the running one when no name is given. -/
def homeOf? (host : Host) (account : String) : Option String :=
  if account.isEmpty then host.home?
  else (host.accounts.find? (fun entry => entry.1 == account)).map Prod.snd

inductive HomeFault
  | unknown
  /-- The name after the tilde holds a zero character. -/
  | zeroCharacter
  deriving DecidableEq, Repr

/-- A home directory as the start of a path: without slashes at its end, and the top when
nothing is left. -/
def homePath (home : String) : Path :=
  let body := (home.toList.reverse.dropWhile (· == '/')).reverse
  if body.isEmpty then ⟨.top, []⟩ else Path.ofText (String.ofList body)

/-- The path with a home directory in place of a tilde, or of a tilde and the name of an
account, at its start. A home directory that starts with a tilde itself is none. -/
def expand (host : Host) (path : Path) : Except HomeFault Path :=
  match path.start, path.names with
  | .here, first :: rest =>
    match first.toList with
    | '~' :: account =>
      if account.contains '\x00' then .error .zeroCharacter
      else
        match host.homeOf? (String.ofList account) with
        | none => .error .unknown
        | some home =>
          if home.toList.head? == some '~' then .error .unknown
          else .ok ((homePath home).join ⟨.here, rest⟩)
    | _ => .ok path
  | _, _ => .ok path

end Host

end ClusterManifest
