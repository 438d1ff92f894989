import ClusterManifest.Manifest
import ClusterManifest.Yaml.Meaning
import ClusterManifest.Yaml.Printer

/-! The manifest as a file: its name, reading it from bytes and writing it as text. -/

namespace ClusterManifest.Manifest

def fileName : String := "install-config.yaml"

inductive ReadFault
  /-- The bytes are no YAML, or a scalar in them stands for nothing. -/
  | yaml (fault : Yaml.Fault)
  | empty
  /-- The document is of another kind than a mapping. -/
  | notMapping (kind : String)
  | schema (issues : List Schema.Issue)
  deriving DecidableEq, Repr

/-- What is said of a fault. After "is not valid YAML" and "does not match the install config
schema" stands what the libraries say of it in detail, which is left out. -/
def ReadFault.message : ReadFault → String
  | .yaml .malformed => fileName ++ " is not valid YAML"
  | .yaml fault => fault.message
  | .empty => fileName ++ " is empty"
  | .notMapping kind => fileName ++ " must be a mapping, got " ++ kind
  | .schema _ => fileName ++ " does not match the install config schema"

/-- A fault that is reported as one of the file. A scalar that stands for nothing is not. -/
def ReadFault.isReported : ReadFault → Bool
  | .yaml .malformed => true
  | .yaml _ => false
  | _ => true

def ofDocumentValue : Value → Except ReadFault Manifest
  | .scalar .null => .error .empty
  | .map entries =>
    match ofEntries entries with
    | .valid manifest => .ok manifest
    | .invalid issues => .error (.schema issues)
  | value => .error (.notMapping value.kindName)

/-- The manifest that bytes hold, whether or not it lacks anything. -/
def read (data : Text.Bytes) : Except ReadFault Manifest :=
  match Yaml.read data with
  | .error fault => .error (.yaml fault)
  | .ok value => ofDocumentValue value

/-- The text of a manifest; none when a number in it is too large to be written. -/
def write (manifest : Manifest) : Except Text.Numeral.Fault String :=
  Yaml.write (Document.fieldsWithoutNulls manifest.allFields)

end ClusterManifest.Manifest
