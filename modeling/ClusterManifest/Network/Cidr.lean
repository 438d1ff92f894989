import ClusterManifest.Network.Address
import ClusterManifest.Text.Numeral
import ClusterManifest.Text.Utf8

/-! Networks: an address with its host bits cleared and the length of the part that is
left. A network is read from a text with a length, a netmask or a host mask, from a whole
number or from the bytes of an address; host bits that are set are masked off. -/

namespace ClusterManifest

/-- A range of addresses. The zone belongs to a link-local address of version 6 and is
empty in all others. -/
structure Cidr where
  version : Network.Version
  address : Nat
  length : Nat
  zone : String
  deriving DecidableEq, Repr

namespace Cidr

open Network

def networkPart (version : Version) (length address : Nat) : Nat :=
  address >>> (version.bits - length) <<< (version.bits - length)

/-- The network that an address lies in. The zone stays only with an address that is the
network's own. -/
def containing (version : Version) (address length : Nat) (zone : String) : Cidr :=
  let network := networkPart version length address
  ⟨version, network, length, if network = address then zone else ""⟩

def lengthNumber? (version : Version) (s : List Char) : Option Nat :=
  let n := Text.ofDigits 10 (s.map Text.asciiDigitValue)
  if s.isEmpty || !s.all Text.isAsciiDigit || Text.Numeral.digitLimit < s.length then none
  else if version.bits < n then none
  else some n

def netmask (length : Nat) : Nat := 0x100000000 - 1 <<< (32 - length)

def hostmask (length : Nat) : Nat := 1 <<< (32 - length) - 1

/-- The length that a mask of version 4 stands for: as a netmask if it is one, else as a
host mask. -/
def maskLength? (s : List Char) : Option Nat := do
  let mask ← Address.v4? s
  match (List.range 33).find? (fun length => netmask length == mask) with
  | some length => some length
  | none => (List.range 33).find? (fun length => hostmask length == mask)

/-- An address text cut at the sign before its zone; none when the zone is empty or cut
again. -/
def splitZone? (s : List Char) : Option (List Char × List Char) :=
  match Text.splitAtChar '%' s with
  | [address] => some (address, [])
  | [address, zone] => if zone.isEmpty then none else some (address, zone)
  | _ => none

def v4? (address : List Char) (mask : Option (List Char)) : Option Cidr := do
  let n ← Address.v4? address
  let length ←
    match mask with
    | none => some 32
    | some mask =>
      match lengthNumber? .v4 mask with
      | some length => some length
      | none => maskLength? mask
  some (containing .v4 n length "")

def v6? (address : List Char) (mask : Option (List Char)) : Option Cidr := do
  let (address, zone) ← splitZone? address
  let n ← Address.v6? address
  let length ←
    match mask with
    | none => some 128
    | some mask => lengthNumber? .v6 mask
  some (containing .v6 n length (String.ofList zone))

def ofText? (s : List Char) : Option Cidr :=
  match Text.splitAtChar '/' s with
  | [address] => (v4? address none).or (v6? address none)
  | [address, mask] => (v4? address (some mask)).or (v6? address (some mask))
  | _ => none

/-- The network of one address, given as a number: of version 4 when it is small enough. -/
def ofNumber? (n : Int) : Option Cidr :=
  if n < 0 then none
  else if n < 0x100000000 then some (containing .v4 n.toNat 32 "")
  else if n < 0x100000000000000000000000000000000 then some (containing .v6 n.toNat 128 "")
  else none

def ofBytes? (data : Text.Bytes) : Option Cidr :=
  let n := Text.ofDigits 256 (data.map UInt8.toNat)
  if data.length = 4 then some (containing .v4 n 32 "")
  else if data.length = 16 then some (containing .v6 n 128 "")
  else none

/-- The text of a network: its address, its zone if it has one, and its length. -/
def text (network : Cidr) : List Char :=
  Address.text network.version network.address ++
    (if network.zone = "" then [] else '%' :: network.zone.toList) ++
    '/' :: Text.decimal network.length

end Cidr

end ClusterManifest
