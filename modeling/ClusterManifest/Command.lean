import ClusterManifest.File.Directory
import ClusterManifest.Inputs.Resolution

/-! The commands. All of them work on the manifest in a directory: one that is there is
loaded, and only where there is none is one composed from the environment. A command ends with
a code; failures that are reported decide it, all others end the run. -/

namespace ClusterManifest.Command

def successCode : Nat := 0

def invalidCode : Nat := 1

/-- The directory to work in: the one that is given, else the one that the environment of the
process names, else the working directory. An empty text gives and names nothing. -/
def directory (host : Host) (given : Option String) : Path :=
  match given.filter (fun text => !text.isEmpty), host.environment.value? Setting.directory with
  | some text, _ => Path.ofText text
  | none, some text => Path.ofText text
  | none, none => host.working

def stepped {α : Type} (step : Except Failure α × Store) : Action (α × Store) :=
  match step with
  | (.ok value, store) => .done (value, store)
  | (.error failure, _) => .fail failure

/-- Loads the manifest in a directory. The truth value tells whether there was one. -/
def load (target : Path) : Action (Bool × Store) := do
  let fetched ← Directory.fetchManifest target
  stepped (Store.empty.load fetched)

/-- Loads the manifest in a directory, or composes one where there is none. The truth value
tells which: true stands for loaded. -/
def loadOrGenerate (host : Host) (target : Path) (environment : Environment) :
    Action (Bool × Store) := do
  let (found, store) ← load target
  if found then return (true, store)
  else
    let inputs ← Inputs.ofEnvironment host environment
    let (_, store) ← stepped (store.generate inputs .standard)
    return (false, store)

def manifestIn (host : Host) (target : Path) (environment : Environment) :
    Action (Bool × Store × Manifest) := do
  let (loaded, store) ← loadOrGenerate host target environment
  let manifest ← Action.ofExcept id store.stored
  return (loaded, store, manifest)

/-- Ends a command on a failure: one of a sort is told in its way and gives the sort's code,
another one ends the run. -/
def giveUp (report : Failure.Category → Action Unit) (failure : Failure) : Action Nat :=
  match failure.category? with
  | none => .fail failure
  | some category => (report category).bind (fun _ => .done category.exitCode)

variable [Console.LiteralReader]

def inPanel (failure : Failure) (category : Failure.Category) : Action Unit :=
  .present (.text "") (Action.tell (Console.errorPanel category.title failure.message))

def inLine (failure : Failure) (_ : Failure.Category) : Action Unit :=
  Action.tell (Console.failure failure.message)

def heading (title : String) : Action Unit :=
  .present (.text "") (Action.tell (Console.heading title))

def countText : Option Nat → Except Text.Numeral.Fault String
  | none => .ok "unset"
  | some count => (Text.Numeral.write count).map String.ofList

def summarizePools : List MachinePool → Action Unit
  | [] => .done ()
  | pool :: pools => do
    let count ← Action.ofExcept .numeral (countText pool.replicas)
    Action.tell (Console.detail (pool.name.followedBy " replicas") count)
    summarizePools pools

def platformShown (manifest : Manifest) : String :=
  match manifest.platform with
  | some platform => platform.name
  | none => "-"

def summarize (manifest : Manifest) : Action Unit := do
  Action.tell (Console.detail "cluster" manifest.name)
  Action.tell (Console.detail "base domain" manifest.baseDomain)
  Action.tell (Console.detail "platform" (platformShown manifest))
  Action.tell (Console.detail "network type" manifest.networking.type)
  summarizePools manifest.machines

def showWritten : List Path → Action Unit
  | [] => .done ()
  | path :: paths => do
    Action.tell (Console.progress ("Wrote " ++ path.text))
    showWritten paths

def origin (target : Path) (loaded : Bool) : String :=
  if loaded then "Loaded " ++ Manifest.fileName ++ " from " ++ target.text
  else "Generated install config from inputs"

def create (host : Host) (given : Option String) (environment : Environment) : Action Nat := do
  let target := directory host given
  heading "INSTALL CONFIG"
  match ← (manifestIn host target environment).attempt with
  | .error failure => giveUp (inPanel failure) failure
  | .ok (loaded, store, manifest) =>
    Action.tell (Console.success (origin target loaded))
    summarize manifest
    let files ← Action.ofExcept id store.files
    let paths ← Directory.writeAll target files
    showWritten paths
    return successCode

def validate (host : Host) (given : Option String) : Action Nat := do
  let target := directory host given
  heading "VALIDATE"
  let loading : Action (Option Manifest) := do
    let (found, store) ← load target
    if found then
      let manifest ← Action.ofExcept id store.stored
      return some manifest
    else return none
  match ← loading.attempt with
  | .error failure => giveUp (inLine failure) failure
  | .ok none =>
    Action.tell (Console.failure ("No " ++ Manifest.fileName ++ " in " ++ target.text))
    return invalidCode
  | .ok (some manifest) =>
    Action.tell (Console.success (Manifest.fileName ++ " is valid"))
    summarize manifest
    return successCode

def preview (host : Host) (given : Option String) (environment : Environment) : Action Nat := do
  let target := directory host given
  match ← (manifestIn host target environment).attempt with
  | .error failure => giveUp (inPanel failure) failure
  | .ok (_, _, manifest) =>
    let text ← Action.ofExcept .numeral manifest.write
    .present (.document text) (.done successCode)

end ClusterManifest.Command
