import ClusterManifest.Proofs.Command.Refusal

/-! What resolving inputs depends on. A text from a variable hides the file of its second variable,
and the variables of a platform count only where it is selected. Of several faults the one that is
met first is told, in an order that does not depend on the inputs. -/

namespace ClusterManifest

open ClusterManifest.Action

theorem Environment.get_eq (environment : Environment) (name : String) :
    environment.get name = (environment.value? name).getD "" := by
  unfold value?
  dsimp only
  split
  · next empty => exact String.isEmpty_iff.mp empty
  · rfl

/-- Hosts with the same home directories, of all accounts and of the running one. -/
def Host.SameHomes (host other : Host) : Prop :=
  ∀ account, host.homeOf? account = other.homeOf? account

theorem Host.SameHomes.expand {host other : Host} (homes : host.SameHomes other) (path : Path) :
    host.expand path = other.expand path := by
  unfold Host.expand
  split
  · split
    · rw [homes]
    · rfl
  · rfl

theorem Platform.Kind.name_of_ofName {name : String} {kind : Kind}
    (found : Kind.ofName? name = some kind) : name = kind.name := by
  have named := List.find?_some (p := fun kind : Kind => kind.name == name) found
  exact (beq_iff_eq.mp named).symm

namespace Inputs

/-- The same text comes from a variable; or, where that is not set, from the file that the second
variable names. -/
structure TextAlike (host : Host) (first second : Environment) (files others : FileTree)
    (setting : String) : Prop where
  value : first.value? setting = second.value? setting
  path : first.value? setting = none →
    first.value? (Setting.pathOf setting) = second.value? (Setting.pathOf setting)
  content : ∀ path file, Names first setting path → host.expand (Path.ofText path) = .ok file →
    files.readFile file = others.readFile file

/-- The variables of a platform are the same, as far as they count: of those for a region only the
first that is set, and the others of a cloud only beside its region. -/
def VariantAlike (first second : Environment) : Platform.Kind → Prop
  | .aws => first.first? Region.«variables» = second.first? Region.«variables»
  | .libvirt => first.value? Setting.libvirtUri = second.value? Setting.libvirtUri
  | .openstack =>
    first.value? Setting.openStackRegion = second.value? Setting.openStackRegion ∧
      (first.value? Setting.openStackRegion ≠ none →
        ∀ setting ∈ [Setting.openStackCloud, Setting.openStackNetwork, Setting.openStackImage],
          first.value? setting = second.value? setting)
  | .none => True

/-- Environments and files that are the same as far as inputs are taken from them. -/
structure Alike (host : Host) (first second : Environment) (files others : FileTree) : Prop where
  key : TextAlike host first second files others Setting.sshPublicKey
  baseDomain : first.value? Setting.baseDomain = second.value? Setting.baseDomain
  clusterName : first.value? Setting.clusterName = second.value? Setting.clusterName
  secret : TextAlike host first second files others Setting.pullSecret
  platform : first.value? Setting.platform = second.value? Setting.platform
  variant : ∀ kind : Platform.Kind, first.value? Setting.platform = some kind.name →
    VariantAlike first second kind

variable {host other : Host} {first second environment : Environment} {files others : FileTree}
  {setting : String}

theorem contentAt_alike (homes : host.SameHomes other) {path : String}
    (same : ∀ file, host.expand (Path.ofText path) = .ok file →
      files.readFile file = others.readFile file) :
    ((contentAt host setting path).run files).result =
      ((contentAt other setting path).run others).result := by
  rw [run_contentAt, run_contentAt, ← homes.expand]
  cases expanded : host.expand (Path.ofText path) with
  | error fault => rfl
  | ok file =>
    dsimp only
    rw [← same file expanded]
    cases files.readFile file <;> rfl

theorem valueOrContent_alike (homes : host.SameHomes other)
    (alike : TextAlike host first second files others setting) :
    ((valueOrContent host first setting).run files).result =
      ((valueOrContent other second setting).run others).result := by
  unfold valueOrContent
  rw [← alike.value]
  cases unset : first.value? setting with
  | some value => rfl
  | none =>
    dsimp only
    rw [← alike.path unset]
    cases named : first.value? (Setting.pathOf setting) with
    | none => rfl
    | some path =>
      have read : ((contentAt host (Setting.pathOf setting) path).run files).result =
          ((contentAt other (Setting.pathOf setting) path).run others).result :=
        contentAt_alike homes
          (fun file expanded => alike.content path file ⟨unset, named⟩ expanded)
      dsimp only
      rw [run_bind, run_bind, ← read]
      cases ((contentAt host (Setting.pathOf setting) path).run files).result <;> rfl

theorem variant_alike {kind : Platform.Kind} (alike : VariantAlike first second kind) :
    Platform.Variant.ofEnvironment first kind = Platform.Variant.ofEnvironment second kind := by
  cases kind with
  | none => rfl
  | aws =>
    have same : first.first? Region.«variables» = second.first? Region.«variables» := alike
    simp only [Platform.Variant.ofEnvironment, Region.ofEnvironment, same]
  | libvirt =>
    have same : first.value? Setting.libvirtUri = second.value? Setting.libvirtUri := alike
    simp only [Platform.Variant.ofEnvironment, same]
  | openstack =>
    obtain ⟨region, fields⟩ := alike
    simp only [Platform.Variant.ofEnvironment, ← region]
    cases set : first.value? Setting.openStackRegion with
    | none => rfl
    | some value =>
      have same := fields (set ▸ Option.some_ne_none value)
      simp only [Environment.get_eq, same Setting.openStackCloud (by simp),
        same Setting.openStackNetwork (by simp), same Setting.openStackImage (by simp)]

theorem platform_alike
    (selected : first.value? Setting.platform = second.value? Setting.platform)
    (variants : ∀ kind : Platform.Kind, first.value? Setting.platform = some kind.name →
      VariantAlike first second kind) :
    Platform.ofEnvironment first = Platform.ofEnvironment second := by
  unfold Platform.ofEnvironment
  rw [← selected]
  cases set : first.value? Setting.platform with
  | none => rfl
  | some name =>
    dsimp only
    cases found : Platform.Kind.ofName? name with
    | none => rfl
    | some kind =>
      have alike := variants kind (by rw [set, Platform.Kind.name_of_ofName found])
      dsimp only
      rw [variant_alike alike]

theorem run_resolving : ((ofEnvironment host environment).run files).result =
    (do
      let key? ← ((valueOrContent host environment Setting.sshPublicKey).run files).result
      let secret? ← ((valueOrContent host environment Setting.pullSecret).run files).result
      checked environment key? secret?) := by
  have keyFiles := files_of_asking (asking_valueOrContent host environment Setting.sshPublicKey)
    files
  rw [course_ofEnvironment, run_bind]
  cases ((valueOrContent host environment Setting.sshPublicKey).run files).result with
  | error failure => rfl
  | ok key? =>
    dsimp only
    rw [keyFiles, run_bind]
    cases ((valueOrContent host environment Setting.pullSecret).run files).result with
    | error failure => rfl
    | ok secret? =>
      change ((Action.ofExcept id (checked environment key? secret?)).run _).result =
        checked environment key? secret?
      cases checked environment key? secret? <;> rfl

/-- Where the inputs are alike, resolving them comes to the same. -/
theorem resolving_alike (homes : host.SameHomes other)
    (alike : Alike host first second files others) :
    ((ofEnvironment host first).run files).result =
      ((ofEnvironment other second).run others).result := by
  have same (key? secret? : Option String) :
      checked first key? secret? = checked second key? secret? := by
    unfold checked
    rw [alike.baseDomain, alike.clusterName, platform_alike alike.platform alike.variant]
  rw [run_resolving, run_resolving, valueOrContent_alike homes alike.key,
    valueOrContent_alike homes alike.secret]
  simp only [same]

/-- Where a fault of the inputs can be found. -/
inductive Part
  | keyFile
  | secretFile
  | key
  | baseDomain
  | clusterName
  | secret
  | platform
  deriving DecidableEq, Repr

/-- The parts in the order in which they are looked at. -/
def Part.order : List Part :=
  [.keyFile, .secretFile, .key, .baseDomain, .clusterName, .secret, .platform]

def failureOf {α : Type} : Except Failure α → Option Failure
  | .ok _ => none
  | .error failure => some failure

/-- The text that is read for a setting, if one can be read. -/
def textOf (host : Host) (environment : Environment) (files : FileTree) (setting : String) :
    Option String :=
  (((valueOrContent host environment setting).run files).result.toOption).join

/-- What is wrong with one part of the inputs, whatever the others are. -/
def failureIn (host : Host) (environment : Environment) (files : FileTree) :
    Part → Option Failure
  | .keyFile =>
    failureOf ((valueOrContent host environment Setting.sshPublicKey).run files).result
  | .secretFile =>
    failureOf ((valueOrContent host environment Setting.pullSecret).run files).result
  | .key =>
    failureOf ((InputCheck.publicKey
      ((textOf host environment files Setting.sshPublicKey).getD "")).mapError .input)
  | .baseDomain =>
    (environment.value? Setting.baseDomain).bind (fun value =>
      failureOf ((InputCheck.baseDomain value).mapError .input))
  | .clusterName =>
    (environment.value? Setting.clusterName).bind (fun value =>
      failureOf ((InputCheck.clusterName value).mapError .input))
  | .secret =>
    ((textOf host environment files Setting.pullSecret).filter (fun value => !value.isEmpty)).bind
      (fun value => failureOf ((InputCheck.pullSecret value).mapError secretFailure))
  | .platform => failureOf ((Platform.ofEnvironment environment).mapError .input)

/-- A step that is followed by others fails as it does, or else as they do. -/
theorem failureOf_bind {α β : Type} {x : Except Failure α} {f : α → Except Failure β}
    {rest : Option Failure} (more : ∀ value, failureOf (f value) = rest) :
    failureOf (x >>= f) = (failureOf x).or rest := by
  cases x with
  | error failure => rfl
  | ok value => exact more value

theorem failureOf_mapM {α β : Type} (o : Option α) (f : α → Except Failure β) :
    failureOf (o.mapM f) = o.bind (fun value => failureOf (f value)) := by
  cases o with
  | none => rfl
  | some value =>
    rw [Option.mapM_some]
    cases made : f value <;> simp [made, failureOf, Functor.map, Except.map]

theorem findSome_cons {α β : Type} (f : α → Option β) (a : α) (s : List α) :
    (a :: s).findSome? f = (f a).or (s.findSome? f) := by
  rw [List.findSome?_cons]
  cases f a <;> rfl

variable {key? secret? : Option String}

/-- The checks tell the first of their faults. -/
theorem failureOf_checked
    (keyRead : textOf host environment files Setting.sshPublicKey = key?)
    (secretRead : textOf host environment files Setting.pullSecret = secret?) :
    failureOf (checked environment key? secret?) =
      [Part.key, .baseDomain, .clusterName, .secret, .platform].findSome?
        (failureIn host environment files) := by
  simp only [findSome_cons, List.findSome?_nil, failureIn, keyRead, secretRead, ← failureOf_mapM]
  refine failureOf_bind (fun _ => ?_)
  refine failureOf_bind (fun _ => ?_)
  refine failureOf_bind (fun _ => ?_)
  refine failureOf_bind (fun _ => ?_)
  exact failureOf_bind (fun _ => rfl)

/-- What resolving fails with is what is wrong with the first part that is not in order. -/
theorem failureOf_resolving (host : Host) (environment : Environment) (files : FileTree) :
    failureOf ((ofEnvironment host environment).run files).result =
      Part.order.findSome? (failureIn host environment files) := by
  have keyPart : failureIn host environment files .keyFile =
    failureOf ((valueOrContent host environment Setting.sshPublicKey).run files).result := rfl
  have secretPart : failureIn host environment files .secretFile =
    failureOf ((valueOrContent host environment Setting.pullSecret).run files).result := rfl
  rw [run_resolving, Part.order, findSome_cons, findSome_cons, keyPart, secretPart]
  cases keyRead : ((valueOrContent host environment Setting.sshPublicKey).run files).result with
  | error failure => rfl
  | ok key? =>
    cases secretRead : ((valueOrContent host environment Setting.pullSecret).run files).result with
    | error failure => rfl
    | ok secret? =>
      have key : textOf host environment files Setting.sshPublicKey = key? := by
        rw [textOf, keyRead]
        rfl
      have secret : textOf host environment files Setting.pullSecret = secret? := by
        rw [textOf, secretRead]
        rfl
      exact failureOf_checked key secret

/-- Resolving inputs depends on no more than the inputs themselves: where two environments, with the
files that they name, are alike in these, it comes to the same inputs or to the same failure, as
long as the homes are the same. And of all that is wrong with the inputs it fails with what comes
first in one order, and with nothing else. -/
theorem resolving_confined (host : Host) :
    (∀ other first second files others, host.SameHomes other →
      Alike host first second files others →
        ((ofEnvironment host first).run files).result =
          ((ofEnvironment other second).run others).result) ∧
    ∀ environment files failure,
      ((ofEnvironment host environment).run files).result = .error failure ↔
        Part.order.findSome? (failureIn host environment files) = some failure := by
  refine ⟨fun _ _ _ _ _ => resolving_alike, fun environment files failure => ?_⟩
  rw [← failureOf_resolving]
  cases ((ofEnvironment host environment).run files).result <;> simp [failureOf]

open Command (bareHost)

/-- A machine of libvirt, with a region of another platform, a cloud and a file for a secret that is
given. -/
def crowdedEnvironment : Environment :=
  ⟨[(Setting.platform, "libvirt"), ("AWS_REGION", "moon"), (Setting.openStackCloud, "stray"),
    (Setting.pathOf Setting.sshPublicKey, "key"), (Setting.pullSecret, "\x7b\"auths\": 1\x7d"),
    (Setting.pathOf Setting.pullSecret, "missing")]⟩

/-- The same without what does not count. -/
def sparseEnvironment : Environment :=
  ⟨[(Setting.sshPublicKey, ""), (Setting.pathOf Setting.sshPublicKey, "key"),
    (Setting.pullSecret, "\x7b\"auths\": 1\x7d"), (Setting.platform, "libvirt")]⟩

def crowdedTree : FileTree := ⟨[], [(["key"], .file [10])], []⟩

def sparseTree : FileTree :=
  ⟨["b"], [(["b"], .directory), (["b", "key"], .file [10]), (["missing"], .file [255])], []⟩

theorem crowded_alike :
    Alike bareHost crowdedEnvironment sparseEnvironment crowdedTree sparseTree where
  key := {
    value := by decide +kernel
    path := fun _ => by decide +kernel
    content := by
      rintro path file ⟨-, named⟩ expanded
      have key : crowdedEnvironment.value? (Setting.pathOf Setting.sshPublicKey) = some "key" := by
        decide +kernel
      cases Option.some.inj (key.symm.trans named)
      have here : (bareHost.expand (Path.ofText "key")).toOption = some (Path.ofText "key") := by
        decide +kernel
      cases (ok_of_toOption here).symm.trans expanded
      have first : (crowdedTree.readFile (Path.ofText "key")).toOption = some [10] := by
        decide +kernel
      have second : (sparseTree.readFile (Path.ofText "key")).toOption = some [10] := by
        decide +kernel
      rw [ok_of_toOption first, ok_of_toOption second] }
  baseDomain := by decide +kernel
  clusterName := by decide +kernel
  secret := {
    value := by decide +kernel
    path := by decide +kernel
    content := by
      rintro path file ⟨unset, -⟩ -
      have given : crowdedEnvironment.value? Setting.pullSecret ≠ none := by decide +kernel
      exact absurd unset given }
  platform := by decide +kernel
  variant := by
    intro kind selected
    have libvirt : crowdedEnvironment.value? Setting.platform = some "libvirt" := by decide +kernel
    have named := Option.some.inj (libvirt.symm.trans selected)
    cases kind with
    | libvirt =>
      change crowdedEnvironment.value? _ = sparseEnvironment.value? _
      decide +kernel
    | aws | openstack | none => exact absurd named (by decide)

/-- An environment in which neither of the names is one, and the platform is not known. -/
def faultyEnvironment : Environment :=
  ⟨[(Setting.platform, "moon"), (Setting.clusterName, "Demo"), (Setting.baseDomain, "Example")]⟩

theorem crowded_confined :
    ((ofEnvironment bareHost crowdedEnvironment).run crowdedTree).result =
        ((ofEnvironment bareHost sparseEnvironment).run sparseTree).result ∧
      ((ofEnvironment bareHost crowdedEnvironment).run crowdedTree).result =
        .ok ⟨.given "", .unset, .unset, .given "\x7b\"auths\": 1\x7d",
          .given (.chosen (.libvirt ⟨Platform.Libvirt.standardUri, .standard⟩))⟩ ∧
      ((ofEnvironment bareHost faultyEnvironment).run ⟨[], [], []⟩).result =
        .error (.input (.baseDomain "Example")) := by
  have confined := resolving_confined bareHost
  refine ⟨confined.1 bareHost _ _ _ _ (fun _ => rfl) crowded_alike, ?_, ?_⟩
  · exact ok_of_toOption (by decide +kernel)
  · exact (confined.2 _ _ _).mpr rfl

end Inputs

end ClusterManifest
