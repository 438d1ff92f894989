import ClusterManifest.Base64
import ClusterManifest.Inputs.DomainName
import ClusterManifest.Inputs.Fault
import ClusterManifest.Text.Blank

/-! The checks that single inputs must pass. An input that passes is used as it is. -/

namespace ClusterManifest.InputCheck

/-- Why a check does not pass: the input is wrong, or a number in it is too long to be
looked at. -/
inductive Stop
  | fault (fault : InputFault)
  | numeral (fault : Text.Numeral.Fault)

def baseDomain (value : String) : Except InputFault String :=
  if DomainName.isName value.toList then .ok value else .error (.baseDomain value)

def clusterName (value : String) : Except InputFault String :=
  if DomainName.isLabel value.toList then .ok value else .error (.clusterName value)

def credentials : String := "auths"

def pullSecret (value : String) : Except Stop String :=
  match Json.read value.toList with
  | .error fault =>
    match fault.cause with
    | .numeral numeral => .error (.numeral numeral)
    | _ => .error (.fault (.secretSyntax fault))
  | .ok secret =>
    if secret.hasMember credentials then .ok value else .error (.fault .secretShape)

def keyTypes : List String :=
  ["ecdsa-sha2-nistp256", "ecdsa-sha2-nistp384", "ecdsa-sha2-nistp521", "ssh-dss",
    "ssh-ed25519", "ssh-rsa"]

/-- A public key is empty, or has a type and a body in base 64 as its first two words. -/
def publicKey (value : String) : Except InputFault String :=
  if value.isEmpty then .ok value
  else
    match Text.words value.toList with
    | type :: body :: _ =>
      if !keyTypes.contains (String.ofList type) then .error .keyFormat
      else if Base64.isStrict body then .ok value
      else .error .keyBody
    | _ => .error .keyFormat

def region (value : String) : Except InputFault String :=
  if value.isEmpty then .error .emptyRegion
  else if Region.known.contains value then .ok value
  else .error (.unknownRegion value)

end ClusterManifest.InputCheck
