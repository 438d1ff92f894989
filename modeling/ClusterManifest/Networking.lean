import ClusterManifest.Defaults
import ClusterManifest.Document
import ClusterManifest.Schema.Field

/-! The network layout of a cluster: the ranges of its machines and services, the kind of
network, and the ranges that pods are addressed from. -/

namespace ClusterManifest

open Schema (Checked Rejection)

/-- A range for pods, and how many bits of it each host is given. -/
structure ClusterNetwork where
  cidr : Cidr
  hostSubnetLength : Nat
  deriving DecidableEq, Repr

structure Networking where
  machineCidr : Cidr
  type : Phrase
  serviceCidr : Cidr
  clusterNetworks : List ClusterNetwork
  deriving DecidableEq, Repr

namespace ClusterNetwork

open Schema in
def ofEntries (entries : List (Scalar × Value)) : Checked ClusterNetwork :=
  ((Checked.valid ClusterNetwork.mk).part (required ["cidr"] network entries)).part
    (required ["hostSubnetLength", "host_subnet_length"] count entries)

def ofValue (v : Value) : Checked ClusterNetwork :=
  (Schema.record "ClusterNetwork" v).bind ofEntries

def ofDefaults (defaults : Defaults) : Except Rejection ClusterNetwork :=
  (ofEntries [(.text "cidr", defaults.clusterNetworkCidr),
    (.text "host_subnet_length", defaults.hostSubnetLength)]).orReject "ClusterNetwork"

def toDocument (network : ClusterNetwork) : Document :=
  .block [("cidr", .text (String.ofList network.cidr.text)),
    ("hostSubnetLength", .number network.hostSubnetLength)]

end ClusterNetwork

namespace Networking

/-- A layout all of whose fields come from the defaults. The range for pods is checked
before the others. -/
def ofDefaults (defaults : Defaults) : Except Rejection Networking := do
  let pods ← ClusterNetwork.ofDefaults defaults
  let layout := (((Checked.valid (fun m t s => Networking.mk m t s [pods])).part
    ((Schema.network defaults.machineCidr).under (.key "machine_cidr"))).part
    ((Schema.text defaults.networkType).under (.key "type"))).part
    ((Schema.network defaults.serviceCidr).under (.key "service_cidr"))
  layout.orReject "Networking"

def standardClusterNetworks : Checked (List ClusterNetwork) :=
  match ClusterNetwork.ofDefaults .standard with
  | .ok network => .valid [network]
  | .error rejection => .invalid rejection.issues

open Schema in
def ofEntries (entries : List (Scalar × Value)) : Checked Networking :=
  let pods :=
    match find? entries ["clusterNetworks", "cluster_networks"] with
    | some (name, value) => (list ClusterNetwork.ofValue value).under (.key name)
    | none => standardClusterNetworks
  ((((Checked.valid Networking.mk).part
    (optionalChecked ["machineCIDR", "machine_cidr"] network Defaults.standard.machineCidr
      entries)).part
    (optionalChecked ["type"] text Defaults.standard.networkType entries)).part
    (optionalChecked ["serviceCIDR", "service_cidr"] network Defaults.standard.serviceCidr
      entries)).part
    pods

def ofValue (v : Value) : Checked Networking :=
  (Schema.record "Networking" v).bind ofEntries

def standard : Checked Networking :=
  match ofDefaults .standard with
  | .ok layout => .valid layout
  | .error rejection => .invalid rejection.issues

def toDocument (layout : Networking) : Document :=
  .block [("machineCIDR", .text (String.ofList layout.machineCidr.text)),
    ("type", .text layout.type),
    ("serviceCIDR", .text (String.ofList layout.serviceCidr.text)),
    ("clusterNetworks", .list (layout.clusterNetworks.map ClusterNetwork.toDocument))]

end Networking

end ClusterManifest
