import ClusterManifest.Failure

/-! The inputs that a manifest is composed from. Whoever supplies them may leave one out, or
put something of another kind in its place; composing a manifest requires each of them. -/

namespace ClusterManifest

inductive Input (α : Type)
  | unset
  | given (value : α)
  /-- Something of another kind, of which only the name of its kind is known. -/
  | mistyped (kind : String)
  deriving DecidableEq, Repr

structure Inputs where
  sshPublicKey : Input Phrase
  baseDomain : Input Phrase
  clusterName : Input Phrase
  pullSecret : Input Phrase
  platform : Input Platform
  deriving DecidableEq, Repr

namespace Input

def ofOption {α : Type} : Option α → Input α
  | some value => .given value
  | none => .unset

def require {α : Type} (name : InputName) (expected : String) : Input α → Except Failure α
  | .unset => .error (.missing name)
  | .mistyped kind => .error (.mistyped name kind expected)
  | .given value => .ok value

def textKind : String := "str"

def platformKind : String := "Platform"

theorem require_eq_ok {α : Type} {name : InputName} {expected : String} {input : Input α}
    {value : α} : input.require name expected = .ok value ↔ input = .given value := by
  cases input <;> simp [require]

end Input

namespace Manifest

/-- The manifest with the given inputs and, for all else, the given defaults. The inputs are
required in the order of their fields, and the manifest must lack nothing. -/
def compose (inputs : Inputs) (defaults : Defaults) : Except Failure Manifest := do
  let sshKey ← inputs.sshPublicKey.require .sshPublicKey Input.textKind
  let baseDomain ← inputs.baseDomain.require .baseDomain Input.textKind
  let clusterName ← inputs.clusterName.require .clusterName Input.textKind
  let pullSecret ← inputs.pullSecret.require .pullSecret Input.textKind
  let platform ← inputs.platform.require .platform Input.platformKind
  let networking ← (Networking.ofDefaults defaults).mapError Failure.rejected
  let machines ← (MachinePool.ofDefaults defaults).mapError Failure.rejected
  let manifest := Manifest.mk schemaVersion ⟨clusterName⟩ baseDomain sshKey networking machines
    (some platform) pullSecret
  match manifest.violation? with
  | some violation => .error (.lacking violation)
  | none => .ok manifest

end Manifest

end ClusterManifest
