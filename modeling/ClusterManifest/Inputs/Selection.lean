import ClusterManifest.Environment
import ClusterManifest.Inputs.Check
import ClusterManifest.Inputs.Setting

/-! The platform that an environment selects. Only the variables of the selected variant are
looked at. -/

namespace ClusterManifest

def Region.ofEnvironment (environment : Environment) : Except InputFault String :=
  match environment.first? Region.«variables» with
  | some region => InputCheck.region region
  | none => .ok Region.standard

namespace Platform

def Variant.ofEnvironment (environment : Environment) : Kind → Except InputFault Variant
  | .aws => do
    let region ← Region.ofEnvironment environment
    return .aws ⟨region, []⟩
  | .libvirt =>
    let uri := (environment.value? Setting.libvirtUri).getD Libvirt.standardUri
    .ok (.libvirt ⟨uri, .standard⟩)
  | .openstack =>
    match environment.value? Setting.openStackRegion with
    | Option.none => .error (.regionRequired Setting.openStackRegion)
    | some region =>
      .ok (.openstack ⟨region, environment.get Setting.openStackCloud,
        environment.get Setting.openStackNetwork, environment.get Setting.openStackImage⟩)
  | .none => .ok .none

def ofEnvironment (environment : Environment) : Except InputFault (Option Platform) :=
  match environment.value? Setting.platform with
  | Option.none => .ok Option.none
  | some name =>
    match Kind.ofName? name with
    | Option.none => .error (.unknownPlatform name)
    | some kind => do
      let variant ← Variant.ofEnvironment environment kind
      return some (.chosen variant)

end Platform

end ClusterManifest
