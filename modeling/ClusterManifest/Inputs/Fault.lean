import ClusterManifest.Inputs.Region
import ClusterManifest.Json.Reader
import ClusterManifest.Platform
import ClusterManifest.Text.Quoted

/-! What can be wrong with an input that is set. -/

namespace ClusterManifest

inductive InputFault
  | baseDomain (value : String)
  | clusterName (value : String)
  /-- The pull secret is no JSON. -/
  | secretSyntax (fault : Json.Fault)
  /-- The pull secret is no object, or has no credentials in it. -/
  | secretShape
  | keyFormat
  | keyBody
  | emptyRegion
  | unknownRegion (value : String)
  /-- A variable that the platform cannot do without is not set. -/
  | regionRequired (setting : String)
  | unknownPlatform (value : String)
  /-- The file that a variable names cannot be read. -/
  | unreadable (setting : String) (path : String) (reason : String)

namespace InputFault

def message : InputFault → String
  | .baseDomain value =>
    "invalid base domain " ++ Text.quotedString value ++ ": must be a lowercase DNS name"
  | .clusterName value =>
    "invalid cluster name " ++ Text.quotedString value ++ ": must be a lowercase DNS label"
  | .secretSyntax fault => "pull secret is not valid JSON: " ++ fault.message
  | .secretShape => "pull secret must be a JSON object with an 'auths' key"
  | .keyFormat => "SSH public key is not in authorized_keys format"
  | .keyBody => "SSH public key body is not valid base64"
  | .emptyRegion => "AWS region must not be empty"
  | .unknownRegion value =>
    "unknown AWS region " ++ Text.quotedString value ++ "; expected one of: " ++
      ", ".intercalate Region.known
  | .regionRequired setting => setting ++ " is required for the openstack platform"
  | .unknownPlatform value =>
    "unknown platform " ++ Text.quotedString value ++ ", expected one of: " ++
      Platform.Kind.names
  | .unreadable setting path reason =>
    "cannot read " ++ setting ++ "=" ++ path ++ ": " ++ reason

end InputFault

end ClusterManifest
