import ClusterManifest.Value

/-! The table that fills in what nobody asks for: the layout of the network and the machine
pools. The same table serves a manifest that is composed and one that is read with fields
left out. An entry may hold any value; it is checked where it is used. -/

namespace ClusterManifest

structure Defaults where
  machineCidr : Value
  serviceCidr : Value
  networkType : Value
  clusterNetworkCidr : Value
  hostSubnetLength : Value
  replicas : Value
  /-- The names of the machine pools, in order. -/
  poolNames : List Value

namespace Defaults

def text (s : String) : Value := .scalar (.text s)

def number (n : Int) : Value := .scalar (.int n)

def standard : Defaults where
  machineCidr := text "10.0.0.0/16"
  serviceCidr := text "172.30.0.0/16"
  networkType := text "OpenshiftSDN"
  clusterNetworkCidr := text "10.128.0.0/14"
  hostSubnetLength := number 9
  replicas := number 3
  poolNames := [text "master", text "worker"]

end Defaults

end ClusterManifest
