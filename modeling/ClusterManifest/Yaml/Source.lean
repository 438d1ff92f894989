import ClusterManifest.Text.Utf16
import ClusterManifest.Yaml.Character
import ClusterManifest.Yaml.Fault

/-! The text of a YAML file: UTF-8, or UTF-16 when a byte order mark says so, of characters
that YAML allows. The mark stays in the text. -/

namespace ClusterManifest.Yaml

def decodeSource? : Text.Bytes → Option (List Char)
  | 0xFF :: 0xFE :: rest => Text.Utf16.decode? .little (0xFF :: 0xFE :: rest)
  | 0xFE :: 0xFF :: rest => Text.Utf16.decode? .big (0xFE :: 0xFF :: rest)
  | bytes => (Text.Utf8.decode bytes).toOption

def source (bytes : Text.Bytes) : Except Fault (List Char) :=
  match decodeSource? bytes with
  | some s => if s.all isAllowed then .ok s else .error .malformed
  | none => .error .malformed

end ClusterManifest.Yaml
