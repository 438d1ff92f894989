import ClusterManifest.Defaults
import ClusterManifest.Document
import ClusterManifest.Schema.Field

/-! Machine pools: named groups of machines. A pool may leave its count open, which is not
the same as a count of zero. -/

namespace ClusterManifest

open Schema (Checked Rejection)

structure MachinePool where
  name : Phrase
  replicas : Option Nat
  deriving DecidableEq, Repr

namespace MachinePool

open Schema in
def ofEntries (entries : List (Scalar × Value)) : Checked MachinePool :=
  ((Checked.valid MachinePool.mk).part (required ["name"] text entries)).part
    (optional ["replicas"] (orNull count) none entries)

def ofValue (v : Value) : Checked MachinePool :=
  (Schema.record "MachinePool" v).bind ofEntries

def ofDefaults (defaults : Defaults) : Except Rejection (List MachinePool) :=
  defaults.poolNames.mapM (fun name =>
    (ofEntries [(.text "name", name), (.text "replicas", defaults.replicas)]).orReject
      "MachinePool")

def standard : Checked (List MachinePool) :=
  match ofDefaults .standard with
  | .ok pools => .valid pools
  | .error rejection => .invalid rejection.issues

def toDocument (pool : MachinePool) : Document :=
  .block [("name", .text pool.name),
    ("replicas",
      match pool.replicas with
      | some n => .number n
      | none => .null)]

end MachinePool

end ClusterManifest
