import ClusterManifest.Inputs

/-! The store of one manifest, which is composed from inputs or loaded from what was fetched.
A step that does not succeed leaves the store as it was. -/

namespace ClusterManifest

structure NamedFile where
  name : String
  data : Text.Bytes
  deriving DecidableEq, Repr

inductive Fetched
  | data (data : Text.Bytes)
  /-- There is no such file. -/
  | absent
  | failed (fault : TransportFault)
  deriving DecidableEq, Repr

structure Store where
  manifest? : Option Manifest
  deriving DecidableEq, Repr

namespace Store

def title : String := "Install Config"

def empty : Store := ⟨none⟩

def generate (store : Store) (inputs : Inputs) (defaults : Defaults) :
    Except Failure Manifest × Store :=
  match Manifest.compose inputs defaults with
  | .ok manifest => (.ok manifest, ⟨some manifest⟩)
  | .error failure => (.error failure, store)

/-- The manifest that a file's data holds, if it lacks nothing. -/
def accept (data : Text.Bytes) : Except Failure Manifest :=
  match Manifest.read data with
  | .error fault => .error (.unreadable fault)
  | .ok manifest =>
    match manifest.violation? with
    | some violation => .error (.fileLacking violation)
    | none => .ok manifest

/-- Stores the manifest that was fetched. False means that there was none to be fetched. -/
def load (store : Store) : Fetched → Except Failure Bool × Store
  | .absent => (.ok false, store)
  | .failed fault => (.error (.fetch fault), store)
  | .data data =>
    match accept data with
    | .ok manifest => (.ok true, ⟨some manifest⟩)
    | .error failure => (.error failure, store)

def stored (store : Store) : Except Failure Manifest :=
  match store.manifest? with
  | some manifest => .ok manifest
  | none => .error .nothingStored

def files (store : Store) : Except Failure (List NamedFile) :=
  match store.manifest? with
  | none => .ok []
  | some manifest =>
    match manifest.write with
    | .ok text => .ok [⟨Manifest.fileName, Text.Utf8.encode text.toList⟩]
    | .error fault => .error (.numeral fault)

end Store

end ClusterManifest
