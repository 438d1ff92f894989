import ClusterManifest.CommandLine

/-! The program: its words are read, and what they ask for is done on the files of the
machine. -/

open ClusterManifest ClusterManifest.Console.HandlerNames

namespace ClusterManifest.Main

def numberOf : IO.Error → Nat
  | .alreadyExists _ code _ | .noFileOrDirectory _ code _ | .permissionDenied _ code _
  | .inappropriateType _ code _ | .invalidArgument _ code _ | .resourceExhausted _ code _ =>
    code.toNat
  | .otherError code _ => code.toNat
  | _ => 0

def reasons : List FileError.Reason :=
  [.notFound, .denied, .exists, .notDirectory, .isDirectory, .nameTooLong]

/-- The answer to a step on the files of the machine. Errors that no command knows of end the
program. -/
def answer {α : Type} (path : Path) (step : IO α) : IO (Except FileError α) := do
  if path.text.toList.contains '\x00' then return .error .zeroCharacter
  try return .ok (← step)
  catch error =>
    match reasons.find? (fun reason => reason.number == numberOf error) with
    | some reason => return .error (.system reason path)
    | none => throw error

def dataOf (path : Path) : IO Text.Bytes := do
  let data ← IO.FS.readBinFile path.text
  return data.toList

/-- Whether a path leads to a directory: such a one is there but cannot be read as a file. -/
def isDirectory (path : Path) : IO (Except FileError Bool) := do
  match ← answer path (dataOf path) with
  | .error (.system .isDirectory _) => return .ok true
  | .error (.system .nameTooLong path) => return .error (.system .nameTooLong path)
  | _ => return .ok false

def perform {α : Type} : Action α → IO (Except Failure α)
  | .done value => return .ok value
  | .fail failure => return .error failure
  | .readFile path next => do perform (next (← answer path (dataOf path)))
  | .isDirectory path next => do perform (next (← isDirectory path))
  | .makeDirectory path next => do perform (next (← answer path (IO.FS.createDir path.text)))
  | .writeFile path data next => do
    perform (next (← answer path (IO.FS.writeBinFile path.text ⟨data.toArray⟩)))
  | .present item next => do
    for line in item.lines do IO.println line
    perform next

/-- The home directories in the table of accounts, whose lines have seven fields. -/
def accountsOf (table : String) : List (String × String) :=
  (Text.splitAtChar '\n' table.toList).filterMap (fun line =>
    match Text.splitAtChar ':' line with
    | [name, _, _, _, _, home, _] => some (String.ofList name, String.ofList home)
    | _ => none)

def host : IO Host := do
  let names := Setting.all ++ Region.«variables»
  let settings ← names.filterMapM (fun name => do
    return (← IO.getEnv name).map (name, ·))
  let table ← try IO.FS.readFile "/etc/passwd" catch _ => pure ""
  return {
    environment := ⟨settings⟩
    home? := ← IO.getEnv "HOME"
    accounts := accountsOf table
    working := Path.ofText (← IO.currentDir).toString }

end ClusterManifest.Main

def main (words : List String) : IO UInt32 := do
  match ← Main.perform (CommandLine.perform (← Main.host) (CommandLine.read words)) with
  | .ok code => return code.toUInt32
  | .error failure =>
    IO.eprintln failure.message
    return 1
