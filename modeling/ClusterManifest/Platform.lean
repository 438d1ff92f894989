import ClusterManifest.Document
import ClusterManifest.Schema.Field

/-! The platform that a cluster is installed on: one of four variants, each with fields of
its own. A document names it as a mapping with one entry, the variant's name with its
fields; an entry that holds null does not count. A mapping that does not single out a known
variant is still a platform, an unresolved one that says why. -/

namespace ClusterManifest

open Schema (Checked)

namespace Platform

/-- Amazon Web Services: a region, and tags for what is created there. -/
structure Aws where
  region : Phrase
  userTags : List (Phrase × Phrase)
  deriving DecidableEq, Repr

structure LibvirtNetwork where
  name : Phrase
  interface : Phrase
  ipRange : Phrase
  deriving DecidableEq, Repr

structure Libvirt where
  uri : Phrase
  network : LibvirtNetwork
  deriving DecidableEq, Repr

structure OpenStack where
  region : Phrase
  cloud : Phrase
  externalNetwork : Phrase
  baseImage : Phrase
  deriving DecidableEq, Repr

inductive Kind
  | aws
  | libvirt
  | none
  | openstack
  deriving DecidableEq, Repr

namespace Kind

def all : List Kind := [.aws, .libvirt, .none, .openstack]

def name : Kind → String
  | .aws => "aws"
  | .libvirt => "libvirt"
  | .none => "none"
  | .openstack => "openstack"

def ofName? (name : String) : Option Kind := all.find? (fun kind => kind.name == name)

def ofKey? : Scalar → Option Kind
  | .text name => ofName? name
  | _ => Option.none

def names : String := ", ".intercalate (all.map name)

end Kind

inductive Variant
  | aws (fields : Aws)
  | libvirt (fields : Libvirt)
  | openstack (fields : OpenStack)
  /-- No platform integration. -/
  | none
  deriving DecidableEq, Repr

def Variant.kind : Variant → Kind
  | .aws _ => .aws
  | .libvirt _ => .libvirt
  | .openstack _ => .openstack
  | .none => .none

/-- Why a mapping does not single out a variant. -/
inductive Problem
  /-- No entry counts. -/
  | noVariant
  /-- The least name, in code points, that is no variant's. -/
  | unknown (name : List Nat)
  /-- More than one variant, in alphabetical order. -/
  | several (kinds : List Kind)
  deriving DecidableEq, Repr

def Problem.message : Problem → String
  | .noVariant => "platform must specify exactly one of: " ++ Kind.names
  | .unknown name =>
    "unknown platform " ++ String.ofList (Text.quotedCodes name) ++ ", expected one of: " ++
      Kind.names
  | .several kinds =>
    "platform must specify exactly one variant, got: " ++
      ", ".intercalate (kinds.map Kind.name)

end Platform

inductive Platform
  | chosen (variant : Platform.Variant)
  | unresolved (problem : Platform.Problem)
  deriving DecidableEq, Repr

namespace Platform

def variant? : Platform → Option Variant
  | .chosen variant => some variant
  | .unresolved _ => Option.none

/-- The variant's name, empty when there is none. -/
def name : Platform → String
  | .chosen variant => variant.kind.name
  | .unresolved _ => ""

def problemText : Platform → String
  | .chosen _ => ""
  | .unresolved problem => problem.message

/-- The same tags in some order: each name has the same value in both. -/
def sameTags (a b : List (Phrase × Phrase)) : Bool :=
  a.length == b.length && a.all (fun tag => b.contains tag)

def same : Platform → Platform → Bool
  | .chosen (.aws a), .chosen (.aws b) =>
    a.region == b.region && sameTags a.userTags b.userTags
  | a, b => a == b

def LibvirtNetwork.standard : LibvirtNetwork := ⟨"tectonic", "tt0", "192.168.126.0/24"⟩

def Libvirt.standardUri : String := "qemu+tcp://192.168.122.1/system"

open Schema in
def kindField (kind : Kind) (entries : List (Scalar × Value)) : Checked Kind :=
  optional ["kind"]
    (fun v =>
      match v with
      | .scalar (.text name) =>
        if name = kind.name then .valid kind else .fail (.otherThan kind.name)
      | .scalar (.illFormed _) => .fail .notUnicode
      | _ => .fail (.otherThan kind.name))
    kind entries

open Schema in
def Aws.ofEntries (entries : List (Scalar × Value)) : Checked Aws :=
  (((Checked.valid (fun (_ : Kind) => Aws.mk)).part (kindField .aws entries)).part
    (required ["region"] text entries)).part
    (optional ["userTags", "user_tags"] textMapping [] entries)

open Schema in
def LibvirtNetwork.ofEntries (entries : List (Scalar × Value)) : Checked LibvirtNetwork :=
  (((Checked.valid LibvirtNetwork.mk).part
    (optional ["name"] text LibvirtNetwork.standard.name entries)).part
    (optional ["if", "if_name"] text LibvirtNetwork.standard.interface entries)).part
    (optional ["ipRange", "ip_range"] text LibvirtNetwork.standard.ipRange entries)

open Schema in
def LibvirtNetwork.ofValue (v : Value) : Checked LibvirtNetwork :=
  (record "LibvirtNetwork" v).bind LibvirtNetwork.ofEntries

open Schema in
def Libvirt.ofEntries (entries : List (Scalar × Value)) : Checked Libvirt :=
  (((Checked.valid (fun (_ : Kind) => Libvirt.mk)).part (kindField .libvirt entries)).part
    (optional ["URI", "uri"] text Libvirt.standardUri entries)).part
    (optional ["network"] LibvirtNetwork.ofValue .standard entries)

open Schema in
def OpenStack.ofEntries (entries : List (Scalar × Value)) : Checked OpenStack :=
  (((((Checked.valid (fun (_ : Kind) => OpenStack.mk)).part
    (kindField .openstack entries)).part
    (required ["region"] text entries)).part
    (optional ["cloud"] text "" entries)).part
    (optional ["externalNetwork", "external_network"] text "" entries)).part
    (optional ["baseImage", "base_image"] text "" entries)

def Variant.ofEntries (kind : Kind) (entries : List (Scalar × Value)) : Checked Variant :=
  match kind with
  | .aws => (Aws.ofEntries entries).map .aws
  | .libvirt => (Libvirt.ofEntries entries).map .libvirt
  | .openstack => (OpenStack.ofEntries entries).map .openstack
  | .none => (kindField .none entries).map (fun _ => .none)

def Kind.recordName : Kind → String
  | .aws => "AWSPlatform"
  | .libvirt => "LibvirtPlatform"
  | .none => "NonePlatform"
  | .openstack => "OpenStackPlatform"

def Variant.ofValue (kind : Kind) (v : Value) : Checked Variant :=
  (Schema.record kind.recordName v).bind (Variant.ofEntries kind)

/-- The fields of a variant within a platform: whatever they say of the kind, it is the one
that the platform names. -/
def Variant.ofPayload (kind : Kind) (payload : Value) : Checked Variant :=
  let checked :=
    match payload with
    | .map entries =>
      (Variant.ofEntries kind
        (Value.put entries (.text "kind") (.scalar (.text kind.name)))).under (.key kind.name)
    | _ => .fail .notFields
  checked.under (.key "variant")

def lesserName (a b : List Nat) : List Nat := if b < a then b else a

def leastName? : List (List Nat) → Option (List Nat)
  | [] => Option.none
  | name :: names => some (names.foldl lesserName name)

def ofEntries (entries : List (Scalar × Value)) : Checked Platform :=
  let counting := entries.filter (fun entry => !entry.2.isNull)
  let unknown := counting.filter (fun entry => (Kind.ofKey? entry.1).isNone)
  match unknown.mapM (fun entry => entry.1.plainText) with
  | .error fault => .fail (.refused fault.message)
  | .ok names =>
    match leastName? names, counting with
    | some name, _ => .valid (.unresolved (.unknown name))
    | Option.none, [] => .valid (.unresolved .noVariant)
    | Option.none, [(key, payload)] =>
      match Kind.ofKey? key with
      | some kind => (Variant.ofPayload kind payload).map .chosen
      | Option.none => .valid (.unresolved .noVariant)
    | Option.none, _ =>
      let present := counting.filterMap (fun entry => Kind.ofKey? entry.1)
      .valid (.unresolved (.several (Kind.all.filter present.contains)))

def ofValue (v : Value) : Checked Platform :=
  (Schema.record "Platform" v).bind ofEntries

def LibvirtNetwork.toDocument (network : LibvirtNetwork) : Document :=
  .block [("name", .text network.name), ("if", .text network.interface),
    ("ipRange", .text network.ipRange)]

/-- Tags by the spellings of their names. Of tags whose names are spelled alike, the first one
gives the place and the last one the value. -/
def spelled (tags : List (Phrase × Phrase)) : List (String × Phrase) :=
  Schema.putNames (tags.map (fun tag => (tag.1.spelling, tag.2)))

def Variant.toDocument : Variant → Document
  | .aws p =>
    .block [("region", .text p.region),
      ("userTags", .block ((spelled p.userTags).map (fun (name, value) => (name, .text value))))]
  | .libvirt p =>
    .block [("URI", .text p.uri), ("network", p.network.toDocument)]
  | .openstack p =>
    .block [("region", .text p.region), ("cloud", .text p.cloud),
      ("externalNetwork", .text p.externalNetwork), ("baseImage", .text p.baseImage)]
  | .none => .block []

/-- A platform as it is written: an unresolved one as an empty block. -/
def toDocument : Platform → Document
  | .chosen variant => .block [(variant.kind.name, variant.toDocument)]
  | .unresolved _ => .block []

end Platform

end ClusterManifest
