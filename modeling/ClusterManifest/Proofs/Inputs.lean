import ClusterManifest.Inputs.Resolution
import ClusterManifest.Proofs.Action
import ClusterManifest.Proofs.Manifest.Fields

/-! Inputs from an environment: resolving them only reads files, the platform that they name has a
variant without tags, and only an input that is not set keeps a manifest from being composed. -/

namespace ClusterManifest

open ClusterManifest.Action

namespace Platform

def Untagged : Platform → Prop
  | .chosen (.aws fields) => fields.userTags = []
  | _ => True

theorem Untagged.wellFormed {platform : Platform} (untagged : platform.Untagged) :
    platform.WellFormed := by
  unfold WellFormed
  split
  · next fields =>
    have none : fields.userTags = [] := untagged
    rw [none]
    exact List.nodup_nil
  · trivial

theorem Untagged.tags {m : Manifest} {platform : Platform} (untagged : platform.Untagged)
    (chosen : m.platform = some platform) : m.tags = [] := by
  unfold Manifest.tags
  split
  · next fields same =>
    cases chosen.symm.trans same
    exact untagged
  · rfl

theorem chosen_ofEnvironment {environment : Environment} {platform : Platform}
    (selected : ofEnvironment environment = .ok (some platform)) :
    ∃ variant, platform = .chosen variant := by
  unfold ofEnvironment at selected
  split at selected
  · cases selected
  · split at selected
    · cases selected
    · obtain ⟨variant, -, same⟩ := bind_ok.mp selected
      cases same
      exact ⟨variant, rfl⟩

end Platform

namespace Inputs

theorem asking_valueOrContent (host : Host) (environment : Environment) (setting : String) :
    Asking (valueOrContent host environment setting) := by
  unfold valueOrContent
  split
  · trivial
  · split
    · trivial
    · refine asking_bind ?_ (fun _ => trivial)
      unfold contentAt
      exact asking_bind asking_ofExcept (fun file answer =>
        asking_bind asking_ofExcept (fun _ => asking_ofExcept))

theorem asking_ofEnvironment (host : Host) (environment : Environment) :
    Asking (ofEnvironment host environment) :=
  asking_bind (asking_valueOrContent host environment _) (fun _ =>
    asking_bind (asking_valueOrContent host environment _) (fun _ => asking_ofExcept))

/-- A text that was left open, or one that is not empty. -/
def Filled (input : Input Phrase) : Prop :=
  input = .unset ∨ ∃ value : Phrase, input = .given value ∧ value.isEmpty = false

/-- Inputs as an environment gives them: texts that are not empty where they are set, and the
platform that it selects. -/
structure Resolved (environment : Environment) (inputs : Inputs) : Prop where
  key : ∃ key, inputs.sshPublicKey = .given key
  baseDomain : Filled inputs.baseDomain
  clusterName : Filled inputs.clusterName
  pullSecret : Filled inputs.pullSecret
  platform : ∃ platform?, Platform.ofEnvironment environment = .ok platform? ∧
    inputs.platform = .ofOption platform?

/-- A check that lets a text through lets it through as it is, so that it is not empty after the
check if it was not before. -/
theorem filled_ofOption {ε : Type} {toFailure : ε → Failure} {value? result : Option String}
    {check : String → Except ε String} (same : ∀ value r, check value = .ok r → r = value)
    (nonempty : ∀ value, value? = some value → value.isEmpty = false)
    (checked : value?.mapM (fun value => (check value).mapError toFailure) = .ok result) :
    Filled (.ofOption (result.map .text)) := by
  rcases mapM_ok.mp checked with ⟨-, rfl⟩ | ⟨value, r, set, passed, rfl⟩
  · exact .inl rfl
  · refine .inr ⟨.text r, rfl, ?_⟩
    rw [same value r (mapError_ok.mp passed)]
    exact nonempty value set

theorem baseDomain_same (value r : String) (passed : InputCheck.baseDomain value = .ok r) :
    r = value := by
  unfold InputCheck.baseDomain at passed
  split at passed <;> cases passed
  rfl

theorem clusterName_same (value r : String) (passed : InputCheck.clusterName value = .ok r) :
    r = value := by
  unfold InputCheck.clusterName at passed
  split at passed <;> cases passed
  rfl

theorem pullSecret_same (value r : String) (passed : InputCheck.pullSecret value = .ok r) :
    r = value := by
  unfold InputCheck.pullSecret at passed
  split at passed
  · split at passed <;> cases passed
  · split at passed <;> cases passed
    rfl

theorem nonempty_value {environment : Environment} {name : String} (value : String)
    (set : environment.value? name = some value) : value.isEmpty = false := by
  simp only [Environment.value?] at set
  split at set
  · cases set
  · next full =>
    cases set
    exact Bool.eq_false_iff.mpr full

theorem resolved_ofEnvironment {host : Host} {environment : Environment} {files after : FileTree}
    {inputs : Inputs} (yields : Yields (ofEnvironment host environment) files inputs after) :
    Resolved environment inputs := by
  obtain ⟨key, mid, -, rest⟩ := yields_bind.mp yields
  obtain ⟨secret, mid', -, checked⟩ := yields_bind.mp rest
  obtain ⟨made, -⟩ := yields_ofExcept.mp checked
  obtain ⟨key, -, step1⟩ := bind_ok.mp made
  obtain ⟨baseDomain, domainChecked, step2⟩ := bind_ok.mp step1
  obtain ⟨clusterName, nameChecked, step3⟩ := bind_ok.mp step2
  obtain ⟨passed, secretChecked, step4⟩ := bind_ok.mp step3
  obtain ⟨platform?, selected, step5⟩ := bind_ok.mp step4
  cases step5
  have full (value : String) (kept : secret.filter (fun value => !value.isEmpty) = some value) :
      value.isEmpty = false := by
    have notEmpty := (Option.filter_eq_some_iff.mp kept).2
    exact (Bool.not_eq_true' _).mp notEmpty
  exact {
    key := ⟨.text key, rfl⟩
    baseDomain := filled_ofOption baseDomain_same nonempty_value domainChecked
    clusterName := filled_ofOption clusterName_same nonempty_value nameChecked
    pullSecret := filled_ofOption pullSecret_same full secretChecked
    platform := ⟨platform?, mapError_ok.mp selected, rfl⟩ }

def isUnset {α : Type} : Input α → Bool
  | .unset => true
  | _ => false

/-- The inputs that are not set, in the order in which they are required. A public key always is. -/
def unresolved (inputs : Inputs) : List InputName :=
  (if isUnset inputs.baseDomain then [.baseDomain] else []) ++
  (if isUnset inputs.clusterName then [.clusterName] else []) ++
  (if isUnset inputs.pullSecret then [.pullSecret] else []) ++
  (if isUnset inputs.platform then [.platform] else [])

variable {environment : Environment} {inputs : Inputs}

theorem Resolved.chosen (resolved : Resolved environment inputs) :
    inputs.platform = .unset ∨ ∃ variant, inputs.platform = .given (.chosen variant) := by
  obtain ⟨platform?, selected, given⟩ := resolved.platform
  cases platform? with
  | none => exact .inl given
  | some platform =>
    obtain ⟨variant, rfl⟩ := Platform.chosen_ofEnvironment selected
    exact .inr ⟨variant, given⟩

/-- A manifest is composed from the inputs, unless one is not set: then the first of those is
missed. -/
def Composes (inputs : Inputs) : Prop :=
  (inputs.unresolved = [] → ∃ m, Manifest.compose inputs .standard = .ok m) ∧
    ∀ name rest, inputs.unresolved = name :: rest →
      Manifest.compose inputs .standard = .error (.missing name)

theorem compose_missing {name : InputName} {rest : List InputName}
    (first : inputs.unresolved = name :: rest)
    (missed : Manifest.compose inputs .standard = .error (.missing name)) : inputs.Composes := by
  rw [Composes, first]
  refine ⟨fun none => absurd none (List.cons_ne_nil name rest), fun other others same => ?_⟩
  cases same
  exact missed

theorem Resolved.composes (resolved : Resolved environment inputs) : inputs.Composes := by
  have chosen := resolved.chosen
  obtain ⟨⟨key, hasKey⟩, domain, name, secret, -⟩ := resolved
  obtain ⟨sshPublicKey, baseDomain, clusterName, pullSecret, platform⟩ := inputs
  dsimp only at hasKey domain name secret chosen
  subst hasKey
  -- The inputs are required one after another, so the first one that is not set decides.
  rcases domain with rfl | ⟨domain, rfl, domainFull⟩
  · exact compose_missing rfl rfl
  rcases name with rfl | ⟨name, rfl, nameFull⟩
  · exact compose_missing rfl rfl
  rcases secret with rfl | ⟨secret, rfl, secretFull⟩
  · exact compose_missing rfl rfl
  rcases chosen with rfl | ⟨variant, rfl⟩
  · exact compose_missing rfl rfl
  · refine ⟨fun _ => ⟨_, Manifest.compose_given ?_⟩, fun _ _ first => nomatch first⟩
    have version : (Phrase.text Manifest.schemaVersion).isEmpty = false := by decide +kernel
    simp [Manifest.composed, Manifest.violation?, version, domainFull, nameFull, secretFull]

end Inputs

end ClusterManifest
