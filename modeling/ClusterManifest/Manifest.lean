import ClusterManifest.MachinePool
import ClusterManifest.Networking
import ClusterManifest.Platform

/-! The cluster manifest: everything that an installer is told about a cluster. Reading one
fills in what a document leaves out; that names, platform and secret are there at all is
checked apart, so that a document with empty fields can still be read. -/

namespace ClusterManifest

open Schema (Checked)

structure Metadata where
  name : Phrase
  deriving DecidableEq, Repr

structure Manifest where
  apiVersion : Phrase
  metadata : Metadata
  baseDomain : Phrase
  sshKey : Phrase
  networking : Networking
  machines : List MachinePool
  platform : Option Platform
  pullSecret : Phrase
  deriving DecidableEq, Repr

namespace Metadata

open Schema in
def ofEntries (entries : List (Scalar × Value)) : Checked Metadata :=
  (optional ["name"] text "" entries).map Metadata.mk

def ofValue (v : Value) : Checked Metadata :=
  (Schema.record "ClusterMetadata" v).bind ofEntries

def toDocument (metadata : Metadata) : Document := .block [("name", .text metadata.name)]

end Metadata

namespace Manifest

def schemaVersion : String := "v1beta1"

def name (manifest : Manifest) : Phrase := manifest.metadata.name

open Schema in
def orElse {α : Type} (names : List String) (check : Value → Checked α)
    (fallback : Checked α) (entries : List (Scalar × Value)) : Checked α :=
  match find? entries names with
  | some (name, value) => (check value).under (.key name)
  | none => fallback

open Schema in
def ofEntries (entries : List (Scalar × Value)) : Checked Manifest :=
  ((((((((Checked.valid Manifest.mk).part
    (optional ["apiVersion", "api_version"] text "" entries)).part
    (optional ["metadata"] Metadata.ofValue ⟨""⟩ entries)).part
    (optional ["baseDomain", "base_domain"] text "" entries)).part
    (optional ["sshKey", "ssh_key"] text "" entries)).part
    (orElse ["networking"] Networking.ofValue Networking.standard entries)).part
    (orElse ["machines"] (list MachinePool.ofValue) MachinePool.standard entries)).part
    (optional ["platform"] (orNull Platform.ofValue) none entries)).part
    (optional ["pullSecret", "pull_secret"] text "" entries)

def ofValue (v : Value) : Checked Manifest :=
  (Schema.record "InstallConfig" v).bind ofEntries

/-- All fields of a manifest. Those that are not set hold null. -/
def allFields (m : Manifest) : List (String × Document) :=
  [("apiVersion", .text m.apiVersion),
    ("metadata", m.metadata.toDocument),
    ("baseDomain", .text m.baseDomain),
    ("sshKey", .text m.sshKey),
    ("networking", m.networking.toDocument),
    ("machines", .list (m.machines.map MachinePool.toDocument)),
    ("platform",
      match m.platform with
      | some platform => platform.toDocument
      | none => .null),
    ("pullSecret", .text m.pullSecret)]

def toFullDocument (m : Manifest) : Document := .block m.allFields

/-- A manifest as it is written: fields that are not set are left out. -/
def toDocument (m : Manifest) : Document := m.toFullDocument.withoutNulls

def samePlatform : Option Platform → Option Platform → Bool
  | some a, some b => a.same b
  | none, none => true
  | _, _ => false

def same (a b : Manifest) : Bool :=
  samePlatform a.platform b.platform && decide ({ a with platform := b.platform } = b)

end Manifest

inductive Violation
  | apiVersion
  | name
  | baseDomain
  | platform
  /-- The platform is unresolved. -/
  | unresolved (problem : Platform.Problem)
  | pullSecret
  deriving DecidableEq, Repr

namespace Violation

def message : Violation → String
  | .apiVersion => "apiVersion must not be empty"
  | .name => "metadata.name must not be empty"
  | .baseDomain => "baseDomain must not be empty"
  | .platform => "platform must specify exactly one variant"
  | .unresolved problem => problem.message
  | .pullSecret => "pullSecret must not be empty"

end Violation

namespace Manifest

def violation? (m : Manifest) : Option Violation :=
  if m.apiVersion.isEmpty then some .apiVersion
  else if m.metadata.name.isEmpty then some .name
  else if m.baseDomain.isEmpty then some .baseDomain
  else
    match m.platform with
    | none => some .platform
    | some (.unresolved problem) => some (.unresolved problem)
    | some (.chosen _) => if m.pullSecret.isEmpty then some .pullSecret else none

end Manifest

end ClusterManifest
