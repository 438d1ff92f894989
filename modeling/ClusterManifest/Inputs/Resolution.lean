import ClusterManifest.Action
import ClusterManifest.Inputs
import ClusterManifest.Inputs.Selection

/-! Inputs from an environment: each from its variable, the public key and the pull secret
also from a file that a second variable names. What is set is checked; what is not set is left
open, but for the public key, which is empty then. -/

namespace ClusterManifest

def Text.unifiedLineEnds : List Char → List Char
  | '\r' :: '\n' :: rest => '\n' :: unifiedLineEnds rest
  | '\r' :: rest => '\n' :: unifiedLineEnds rest
  | c :: rest => c :: unifiedLineEnds rest
  | [] => []

namespace Inputs

def contentOf (data : Text.Bytes) : Except Text.Utf8.Fault String :=
  (Text.Utf8.decode data).map (fun text =>
    String.ofList (Text.trim (Text.unifiedLineEnds text)))

def homeFailure : Host.HomeFault → Failure
  | .unknown => .noHome
  | .zeroCharacter => .file .zeroCharacter

def unreadable (setting path : String) : FileError → Failure
  | .zeroCharacter => .file .zeroCharacter
  | error => .input (.unreadable setting path error.message)

def contentAt (host : Host) (setting path : String) : Action String := do
  let file ← Action.ofExcept homeFailure (host.expand (Path.ofText path))
  .readFile file (fun answer => do
    let data ← Action.ofExcept (unreadable setting path) answer
    Action.ofExcept .notText (contentOf data))

/-- The value of a variable, or the content of the file that its second variable names;
nothing when neither is set. -/
def valueOrContent (host : Host) (environment : Environment) (setting : String) :
    Action (Option String) :=
  match environment.value? setting with
  | some value => .done (some value)
  | none =>
    match environment.value? (Setting.pathOf setting) with
    | none => .done none
    | some path => (contentAt host (Setting.pathOf setting) path).bind (fun s => .done (some s))

def secretFailure : InputCheck.Stop → Failure
  | .fault fault => .input fault
  | .numeral fault => .numeral fault

def ofEnvironment (host : Host) (environment : Environment) : Action Inputs := do
  let key ← valueOrContent host environment Setting.sshPublicKey
  let secret ← valueOrContent host environment Setting.pullSecret
  Action.ofExcept id (do
    let key ← (InputCheck.publicKey (key.getD "")).mapError .input
    let baseDomain ← (environment.value? Setting.baseDomain).mapM (fun value =>
      (InputCheck.baseDomain value).mapError .input)
    let clusterName ← (environment.value? Setting.clusterName).mapM (fun value =>
      (InputCheck.clusterName value).mapError .input)
    let secret ← (secret.filter (fun value => !value.isEmpty)).mapM (fun value =>
      (InputCheck.pullSecret value).mapError secretFailure)
    let platform ← (Platform.ofEnvironment environment).mapError .input
    return ⟨.given (.text key), .ofOption (baseDomain.map .text),
      .ofOption (clusterName.map .text), .ofOption (secret.map .text), .ofOption platform⟩)

end Inputs

end ClusterManifest
