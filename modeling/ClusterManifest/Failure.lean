import ClusterManifest.Console
import ClusterManifest.File.Error
import ClusterManifest.Host
import ClusterManifest.Inputs.Check
import ClusterManifest.Manifest.File

/-! All that can stop a run, in words and sorted. Failures of a sort are reported to the user
and end a command with the sort's exit code; those without a sort end the whole run. -/

namespace ClusterManifest

inductive InputName
  | sshPublicKey
  | baseDomain
  | clusterName
  | pullSecret
  | platform
  deriving DecidableEq, Repr

def InputName.text : InputName → String
  | .sshPublicKey => "ssh public key"
  | .baseDomain => "base domain"
  | .clusterName => "cluster name"
  | .pullSecret => "pull secret"
  | .platform => "platform"

/-- The failure of a transport: what kind it is, and what it says. -/
structure TransportFault where
  kind : String
  message : String
  deriving DecidableEq, Repr

inductive Failure
  /-- A required input is not there. -/
  | missing (input : InputName)
  /-- A required input is of another kind than it has to be. -/
  | mistyped (input : InputName) (kind expected : String)
  | input (fault : InputFault)
  /-- The manifest's file is there, or may be, and cannot be had. -/
  | fetch (fault : TransportFault)
  /-- The manifest's file holds no manifest. -/
  | unreadable (fault : Manifest.ReadFault)
  /-- A composed manifest lacks something. -/
  | lacking (violation : Violation)
  /-- A manifest that was read lacks something. -/
  | fileLacking (violation : Violation)
  /-- There is no manifest yet. -/
  | nothingStored
  /-- A record does not have the shape that it must have. -/
  | rejected (rejection : Schema.Rejection)
  | numeral (fault : Text.Numeral.Fault)
  /-- An input's file is no text. -/
  | notText (fault : Text.Utf8.Fault)
  /-- The home directory that a path starts with is not known. -/
  | noHome
  | file (error : FileError)
  | console (fault : Console.Fault)
  /-- A file name that does not stay below the directory it is meant for. -/
  | fileName (name : String)

namespace Failure

inductive Category
  | missingInput
  | invalidInput
  | fetch
  | parse
  | validation
  | other
  deriving DecidableEq, Repr

namespace Category

def all : List Category := [.missingInput, .invalidInput, .fetch, .parse, .validation, .other]

def title : Category → String
  | .missingInput => "MissingDependencyError"
  | .invalidInput => "InvalidInputError"
  | .fetch => "FetchError"
  | .parse => "ParseError"
  | .validation => "ValidationError"
  | .other => "InstallConfigError"

/-- The code that a command ends with: one for what the user has to supply, one for what
cannot be reached, and one for all that is wrong with a manifest. -/
def exitCode : Category → Nat
  | .missingInput | .invalidInput => 2
  | .fetch => 3
  | .parse | .validation | .other => 1

end Category

def category? : Failure → Option Category
  | .missing _ | .mistyped .. => some .missingInput
  | .input _ => some .invalidInput
  | .fetch _ => some .fetch
  | .unreadable fault => if fault.isReported then some .parse else none
  | .lacking _ | .fileLacking _ => some .validation
  | .nothingStored => some .other
  | .rejected _ | .numeral _ | .notText _ | .noHome | .file _ | .console _ | .fileName _ => none

def requirement (name reason : String) : String :=
  "required input " ++ Text.quotedString name ++ " " ++ reason

def missingReason : String := "is missing"

def message : Failure → String
  | .missing name => requirement name.text missingReason
  | .mistyped name kind expected =>
    requirement name.text ("has type " ++ kind ++ ", expected " ++ expected)
  | .input fault => fault.message
  | .fetch fault => "failed to fetch " ++ Manifest.fileName ++ ": " ++ fault.message
  | .unreadable fault => fault.message
  | .lacking violation => violation.message
  | .fileLacking violation => "invalid " ++ Manifest.fileName ++ ": " ++ violation.message
  | .nothingStored => "no install config has been generated or loaded"
  | .rejected rejection => rejection.record
  | .numeral fault => fault.message
  | .notText fault => fault.message
  | .noHome => "Could not determine home directory."
  | .file error => error.message
  | .console fault => fault.message
  | .fileName name => "invalid asset filename: " ++ Text.quotedString name

end Failure

end ClusterManifest
