import ClusterManifest.Value
import ClusterManifest.Yaml.Node.Document
import ClusterManifest.Yaml.Scalar
import ClusterManifest.Yaml.Source

/-! The value that a document stands for. Nodes are given their meaning level by level from
the root, so of several faults the one nearest to the root counts, and the first of those.
An alias means what its node means; a node within itself is followed a few times, more often
than any schema looks. -/

namespace ClusterManifest.Yaml

/-- What a node means, with the fault that counts among those in it and how far below the
node it is found. -/
structure Meaning where
  value : Value
  fault : Option (Nat × Fault)

namespace Meaning

/-- The fault nearer to the root, the first when both are as near. -/
def nearer : Option (Nat × Fault) → Option (Nat × Fault) → Option (Nat × Fault)
  | none, b => b
  | a, none => a
  | some a, some b => if b.1 < a.1 then some b else some a

def fromAbove (fault : Option (Nat × Fault)) : Option (Nat × Fault) :=
  fault.map (fun (level, cause) => (level + 1, cause))

def sound (value : Value) : Meaning := ⟨value, none⟩

def faulty (cause : Fault) : Meaning := ⟨.scalar .null, some (0, cause)⟩

/-- A collection that cannot be filled. It is begun before it is filled, so the fault is one
level below it, and it is no scalar where a key is wanted. -/
def unfilled (cause : Fault) : Meaning := ⟨.list [], some (1, cause)⟩

/-- What is known of the document around a node: its nodes with anchors, what those
completed so far mean, and what all of them meant when loops were followed less often. -/
structure Surroundings where
  nodes : List (List Char × Node)
  done : List (List Char × Meaning)
  before : List (List Char × Meaning)

namespace Surroundings

def resolve (s : Surroundings) : Node → Node
  | .alias name => (s.nodes.lookup name).getD .empty
  | node => node

def meaning (s : Surroundings) (name : List Char) : Meaning :=
  match s.done.lookup name with
  | some m => m
  | none => (s.before.lookup name).getD (sound (.list []))

def known? (s : Surroundings) (node : Node) : Option Meaning :=
  node.anchor?.bind (fun name => s.done.lookup name)

def keyTag (s : Surroundings) (key : Node) : Tag :=
  match s.resolve key with
  | .scalar _ tag _ | .sequence _ tag _ | .mapping _ tag _ => tag
  | .alias _ => .other

end Surroundings

/-- A key that only marks a mapping's own value stands for its text. -/
def plainKey (s : Surroundings) (key : Node) : Node :=
  match s.resolve key with
  | .scalar _ .value content => .scalar none .text content
  | .sequence _ .value items => .sequence none .text items
  | .mapping _ .value entries => .mapping none .text entries
  | _ => key

/-- The entries that the merge keys of a mapping bring in, `taken` giving those of one
value. -/
def mergedEntries (s : Surroundings) (taken : Node → Except Fault (List (Node × Node))) :
    List (Node × Node) → Except Fault (List (Node × Node))
  | [] => .ok []
  | (key, value) :: entries =>
    if s.keyTag key != .merge then mergedEntries s taken entries
    else do
      let first ← taken value
      let more ← mergedEntries s taken entries
      .ok (first ++ more)

/-- The entries of several mappings, the first of which counts most and so comes last. -/
def mergedItems (taken : Node → Except Fault (List (Node × Node))) :
    List Node → Except Fault (List (Node × Node))
  | [] => .ok []
  | item :: items => do
    let first ← taken item
    let more ← mergedItems taken items
    .ok (more ++ first)

/-- The entries of a mapping that are its own: a merge key is none, and a key that marks
the mapping's own value is a text. -/
def ownEntries (s : Surroundings) (entries : List (Node × Node)) : List (Node × Node) :=
  (entries.filter (fun entry => s.keyTag entry.1 != .merge)).map
    (fun entry => (plainKey s entry.1, entry.2))

/-- The entries of a mapping with those of the mappings it takes over before its own. A
mapping that is being taken over is not taken over again within itself. -/
def flatten (s : Surroundings) : Nat → List (List Char) → List (Node × Node) →
    Except Fault (List (Node × Node))
  | 0, _, entries => .ok (ownEntries s entries)
  | fuel + 1, busy, entries => do
    let mapping := fun (node : Node) =>
      match s.resolve node with
      | .mapping (some name) _ within =>
        if busy.contains name then .ok (ownEntries s within)
        else flatten s fuel (name :: busy) within
      | .mapping none _ within => flatten s fuel busy within
      | _ => .error .malformed
    let taken := fun (node : Node) =>
      match s.resolve node with
      | .sequence _ _ items => mergedItems mapping items
      | node => mapping node
    let merged ← mergedEntries s taken entries
    .ok (merged ++ ownEntries s entries)

/-- The content of a node that is to be a scalar: its own, or for a mapping that of its own
value. -/
def content? (s : Surroundings) : Nat → Node → Option Content
  | 0, _ => none
  | fuel + 1, node =>
    match s.resolve node with
    | .scalar _ _ content => some content
    | .mapping _ _ entries =>
      match entries.find? (fun entry => s.keyTag entry.1 == .value) with
      | some (_, value) => content? s fuel value
      | none => none
    | _ => none

def ofScalar (s : Surroundings) (fuel : Nat) (tag : Tag) (node : Node) : Meaning :=
  match content? s fuel node with
  | none => faulty .malformed
  | some content =>
    match node, tag with
    | .mapping .., .timestamp => faulty .listForText
    | _, _ =>
      match Scalar.ofContent tag content with
      | .ok scalar => sound (.scalar scalar)
      | .error cause => faulty cause

def collect (value : Value) (fault : Option (Nat × Fault)) : Meaning :=
  ⟨value, fromAbove fault⟩

def asKey (key : Meaning) : ClusterManifest.Scalar × Option (Nat × Fault) :=
  match key.value with
  | .scalar scalar => (scalar, key.fault)
  | _ => (.null, nearer (some (0, .malformed)) key.fault)

def ofItems (meaning : Node → Meaning) : List Node → List Value × Option (Nat × Fault)
  | [] => ([], none)
  | item :: items =>
    let first := meaning item
    let (values, fault) := ofItems meaning items
    (first.value :: values, nearer first.fault fault)

def ofEntries (meaning : Node → Meaning) :
    List (Node × Node) → List (ClusterManifest.Scalar × Value) × Option (Nat × Fault)
  | [] => ([], none)
  | (key, value) :: entries =>
    let (scalar, keyFault) := asKey (meaning key)
    let first := meaning value
    let (settings, fault) := ofEntries meaning entries
    ((scalar, first.value) :: settings, nearer keyFault (nearer first.fault fault))

def ofPairs (s : Surroundings) (meaning : Node → Meaning) :
    List Node → List (Value × Value) × Option (Nat × Fault)
  | [] => ([], none)
  | item :: items =>
    match s.resolve item with
    | .mapping _ _ [(key, value)] =>
      let k := meaning key
      let v := meaning value
      let (pairs, fault) := ofPairs s meaning items
      ((k.value, v.value) :: pairs, nearer k.fault (nearer v.fault fault))
    | _ => ([], some (0, .malformed))

def ofMapping (s : Surroundings) (meaning : Node → Meaning)
    (make : List (ClusterManifest.Scalar × Value) → Value) (fuel : Nat)
    (entries : List (Node × Node)) : Meaning :=
  match flatten s fuel [] entries with
  | .error cause => unfilled cause
  | .ok entries =>
    let (settings, fault) := ofEntries meaning entries
    collect (make (Value.ofSettings settings)) fault

def keys (entries : List (ClusterManifest.Scalar × Value)) : Value :=
  .set (entries.map Prod.fst)

def ofNode (s : Surroundings) : Nat → Node → Meaning
  | 0, _ => sound (.scalar .null)
  | fuel + 1, node =>
    match s.known? node with
    | some m => m
    | none =>
      match node with
      | .alias name => s.meaning name
      | .sequence _ .sequence items =>
        let (values, fault) := ofItems (ofNode s fuel) items
        collect (.list values) fault
      | .sequence _ .orderedMap items | .sequence _ .pairs items =>
        let (pairs, fault) := ofPairs s (ofNode s fuel) items
        collect (.pairs pairs) fault
      | .mapping _ .mapping entries => ofMapping s (ofNode s fuel) .map (fuel + 1) entries
      | .mapping _ .set entries => ofMapping s (ofNode s fuel) keys (fuel + 1) entries
      | .scalar _ tag _ | .sequence _ tag _ | .mapping _ tag _ =>
        match tag with
        | .sequence | .mapping | .set | .orderedMap | .pairs => unfilled .malformed
        | .merge | .value | .other => faulty .malformed
        | tag => ofScalar s (fuel + 1) tag node

def unrolling : Nat := 8

/-- What the nodes with anchors mean, one after the other, when aliases within their own
nodes mean what they did `before`. -/
def anchoredMeanings (nodes : List (List Char × Node)) (fuel : Nat)
    (before : List (List Char × Meaning)) : List (List Char × Meaning) :=
  nodes.foldl
    (fun done entry =>
      done ++ [(entry.1, ofNode ⟨nodes, done, before⟩ fuel entry.2)])
    []

/-- What the nodes with anchors mean after loops have been followed some times. -/
def unrolled (nodes : List (List Char × Node)) (fuel : Nat) :
    Nat → List (List Char × Meaning)
  | 0 => []
  | n + 1 => anchoredMeanings nodes fuel (unrolled nodes fuel n)

def ofDocument (root : Node) : Meaning :=
  let nodes := root.anchored
  let fuel := root.size + nodes.length + 1
  let meanings := if nodes.isEmpty then [] else unrolled nodes fuel unrolling
  ofNode ⟨nodes, meanings, meanings⟩ fuel root

end Meaning

/-- The value of the document that bytes hold: null when they hold none. -/
def read (bytes : Text.Bytes) : Except Fault Value := do
  let text ← source bytes
  match (← Node.ofText text) with
  | none => .ok (.scalar .null)
  | some root =>
    let meaning := Meaning.ofDocument root
    match meaning.fault with
    | some (_, cause) => .error cause
    | none => .ok meaning.value

end ClusterManifest.Yaml
