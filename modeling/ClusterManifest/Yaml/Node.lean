import ClusterManifest.Yaml.Tag
import ClusterManifest.Yaml.Token

/-! The nodes of a YAML document. A node with an anchor can be referred to by an alias that
comes after the start of it, even from within. -/

namespace ClusterManifest.Yaml

inductive Node
  | scalar (anchor : Option (List Char)) (tag : Tag) (content : Content)
  | sequence (anchor : Option (List Char)) (tag : Tag) (items : List Node)
  | mapping (anchor : Option (List Char)) (tag : Tag) (entries : List (Node × Node))
  | alias (name : List Char)

namespace Node

def empty : Node := .scalar none .null (.text [])

def anchor? : Node → Option (List Char)
  | .scalar anchor _ _ => anchor
  | .sequence anchor _ _ => anchor
  | .mapping anchor _ _ => anchor
  | .alias _ => none

mutual

def anchored (node : Node) : List (List Char × Node) :=
  match node with
  | .scalar (some name) tag content => [(name, .scalar (some name) tag content)]
  | .scalar none _ _ => []
  | .sequence (some name) tag items =>
    anchoredItems items ++ [(name, .sequence (some name) tag items)]
  | .sequence none _ items => anchoredItems items
  | .mapping (some name) tag entries =>
    anchoredEntries entries ++ [(name, .mapping (some name) tag entries)]
  | .mapping none _ entries => anchoredEntries entries
  | .alias _ => []

def anchoredItems : List Node → List (List Char × Node)
  | [] => []
  | item :: items => anchored item ++ anchoredItems items

def anchoredEntries : List (Node × Node) → List (List Char × Node)
  | [] => []
  | (key, value) :: entries => anchored key ++ anchored value ++ anchoredEntries entries

end

mutual

def size : Node → Nat
  | .scalar _ _ _ => 1
  | .sequence _ _ items => 1 + sizeOfItems items
  | .mapping _ _ entries => 1 + sizeOfEntries entries
  | .alias _ => 1

def sizeOfItems : List Node → Nat
  | [] => 0
  | item :: items => size item + sizeOfItems items

def sizeOfEntries : List (Node × Node) → Nat
  | [] => 0
  | (key, value) :: entries => size key + size value + sizeOfEntries entries

end

end Node

end ClusterManifest.Yaml
