import ClusterManifest.Proofs.Manifest.Fitting
import ClusterManifest.Store

/-! What composing a manifest comes to: the first input that is not there decides, then the table of
defaults, then what the inputs leave blank. Otherwise the manifest has the inputs as they are, and
all else from the table. -/

namespace ClusterManifest

open Schema Checked

namespace Schema

variable {α : Type} {checked : Checked α} {record : String}

end Schema

/-- The values of a table of defaults are of the kinds that are asked of them. The count of machines
is looked at with each pool. -/
structure Defaults.Fit (defaults : Defaults) : Prop where
  clusterNetworkCidr : Passes network defaults.clusterNetworkCidr
  hostSubnetLength : Passes count defaults.hostSubnetLength
  machineCidr : Passes network defaults.machineCidr
  networkType : Passes Schema.text defaults.networkType
  serviceCidr : Passes network defaults.serviceCidr
  pools : ∀ name ∈ defaults.poolNames,
    Passes Schema.text name ∧ NullOr (Passes count) defaults.replicas

/-- A layout has the values of the table, as they are read. -/
structure Networking.Laid (defaults : Defaults) (layout : Networking) : Prop where
  machineCidr : network defaults.machineCidr = .valid layout.machineCidr
  type : text defaults.networkType = .valid layout.type
  serviceCidr : network defaults.serviceCidr = .valid layout.serviceCidr
  clusterNetworks : ∃ pods, layout.clusterNetworks = [pods] ∧
    network defaults.clusterNetworkCidr = .valid pods.cidr ∧
    count defaults.hostSubnetLength = .valid pods.hostSubnetLength

/-- There is one pool for each name of the table, in order, and each has the table's count. -/
def MachinePool.Pooled (defaults : Defaults) (pools : List MachinePool) : Prop :=
  List.Forall₂ (fun name pool => text name = .valid pool.name ∧
    orNull count defaults.replicas = .valid pool.replicas) defaults.poolNames pools

namespace ClusterNetwork

variable {defaults : Defaults}

end ClusterNetwork

namespace Networking

variable {defaults : Defaults}

end Networking

namespace MachinePool

variable {defaults : Defaults}

end MachinePool

namespace Defaults

variable {defaults : Defaults}

end Defaults

/-- An input that cannot be used fails as one that is not there, or as one of another kind. -/
inductive Input.Wants {α : Type} (name : InputName) (expected : String) : Input α → Failure → Prop
  | unset : Wants name expected .unset (.missing name)
  | mistyped {kind : String} :
    Wants name expected (.mistyped kind) (.mistyped name kind expected)

/-- The inputs before one that cannot be used are there, whatever those after it are. -/
inductive Inputs.Wanting (inputs : Inputs) : Failure → Prop
  | sshPublicKey {failure : Failure} :
    inputs.sshPublicKey.Wants .sshPublicKey "str" failure → Wanting inputs failure
  | baseDomain {key : Phrase} {failure : Failure} : inputs.sshPublicKey = .given key →
    inputs.baseDomain.Wants .baseDomain "str" failure → Wanting inputs failure
  | clusterName {key domain : Phrase} {failure : Failure} : inputs.sshPublicKey = .given key →
    inputs.baseDomain = .given domain →
    inputs.clusterName.Wants .clusterName "str" failure → Wanting inputs failure
  | pullSecret {key domain name : Phrase} {failure : Failure} :
    inputs.sshPublicKey = .given key → inputs.baseDomain = .given domain →
    inputs.clusterName = .given name →
    inputs.pullSecret.Wants .pullSecret "str" failure → Wanting inputs failure
  | platform {key domain name secret : Phrase} {failure : Failure} :
    inputs.sshPublicKey = .given key → inputs.baseDomain = .given domain →
    inputs.clusterName = .given name → inputs.pullSecret = .given secret →
    inputs.platform.Wants .platform "Platform" failure → Wanting inputs failure

theorem Input.Wants.category {α : Type} {name : InputName} {expected : String} {input : Input α}
    {failure : Failure} (wants : input.Wants name expected failure) :
    failure.category? = some .missingInput := by
  cases wants <;> rfl

theorem Input.require_wants {α : Type} {name : InputName} {expected : String} {input : Input α}
    {failure : Failure} (wants : input.Wants name expected failure) :
    input.require name expected = .error failure := by
  cases wants <;> rfl

namespace Manifest

/-- What inputs that are all there leave blank, the first of it in the order in which a manifest is
checked. -/
inductive LeavesBlank (domain name secret : Phrase) (platform : Platform) : String → Prop
  | name : name = "" → LeavesBlank domain name secret platform "metadata.name must not be empty"
  | baseDomain : name ≠ "" → domain = "" →
    LeavesBlank domain name secret platform "baseDomain must not be empty"
  | platform : name ≠ "" → domain ≠ "" → platform.variant? = none →
    LeavesBlank domain name secret platform platform.problemText
  | pullSecret {variant : Platform.Variant} : name ≠ "" → domain ≠ "" →
    platform.variant? = some variant → secret = "" →
    LeavesBlank domain name secret platform "pullSecret must not be empty"

/-- A manifest has the inputs as they were given, and all else from the table. -/
structure Composed (key domain name secret : Phrase) (platform : Platform) (defaults : Defaults)
    (m : Manifest) : Prop where
  apiVersion : m.apiVersion = "v1beta1"
  name : m.metadata.name = name
  baseDomain : m.baseDomain = domain
  sshKey : m.sshKey = key
  pullSecret : m.pullSecret = secret
  platform : m.platform = some platform
  networking : m.networking.Laid defaults
  machines : MachinePool.Pooled defaults m.machines

/-- What comes of inputs that are all there. -/
structure Judged (key domain name secret : Phrase) (platform : Platform) (defaults : Defaults)
    (result : Except Failure Manifest) : Prop where
  rejected : (∃ rejection, result = .error (.rejected rejection)) ↔ ¬defaults.Fit
  blank : defaults.Fit → ∀ message, LeavesBlank domain name secret platform message →
    ∃ failure, result = .error failure ∧ failure.category? = some .validation ∧
      failure.message = message
  composed : defaults.Fit → (∀ message, ¬LeavesBlank domain name secret platform message) →
    ∃ m, result = .ok m ∧ Composed key domain name secret platform defaults m

variable {key domain name secret : Phrase} {platform : Platform} {defaults : Defaults}
  {layout : Networking} {pools : List MachinePool}

theorem LeavesBlank.unique {message other : String}
    (first : LeavesBlank domain name secret platform message)
    (second : LeavesBlank domain name secret platform other) : message = other := by
  cases first <;> cases second <;> simp_all

end Manifest

namespace Inputs

variable {inputs : Inputs} {defaults : Defaults} {failure : Failure}

/-- The first input that cannot be used decides, whatever comes after it. -/
theorem Wanting.compose (wanting : inputs.Wanting failure) :
    Manifest.compose inputs defaults = .error failure := by
  cases wanting with
  | sshPublicKey wants =>
    simp only [Manifest.compose, Input.textKind, Input.require_wants wants]
    rfl
  | baseDomain key wants =>
    simp only [Manifest.compose, Input.textKind, key, Input.require_wants wants]
    rfl
  | clusterName key domain wants =>
    simp only [Manifest.compose, Input.textKind, key, domain, Input.require_wants wants]
    rfl
  | pullSecret key domain name wants =>
    simp only [Manifest.compose, Input.textKind, key, domain, name, Input.require_wants wants]
    rfl
  | platform key domain name secret wants =>
    simp only [Manifest.compose, Input.platformKind, key, domain, name, secret,
      Input.require_wants wants]
    rfl

theorem Wanting.category (wanting : inputs.Wanting failure) :
    failure.category? = some .missingInput := by
  cases wanting with
  | sshPublicKey wants | baseDomain _ wants | clusterName _ _ wants | pullSecret _ _ _ wants
  | platform _ _ _ _ wants => exact wants.category

end Inputs

namespace Store

end Store

end ClusterManifest
