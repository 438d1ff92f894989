import ClusterManifest.Text.Phrase
import ClusterManifest.Yaml.Fault

/-! The tokens of a YAML text. -/

namespace ClusterManifest.Yaml

/-- What a scalar holds. -/
inductive Content
  | text (value : List Char)
  /-- A text with a lone surrogate. -/
  | illFormed (value : IllFormed)
  deriving DecidableEq, Repr

namespace Content

def ofCodes (codes : List Text.CodePoint) : Content :=
  if lone : codes.any Text.CodePoint.isSurrogate = true then .illFormed ⟨codes, lone⟩
  else .text (codes.map Text.CodePoint.char)

def ofPhrase : Phrase → Content
  | .text value => .text value.toList
  | .illFormed value => .illFormed value

end Content

/-- A tag as it is written: a suffix, after a handle unless the tag is whole. -/
structure TagName where
  handle : Option (List Char)
  suffix : List Char
  deriving DecidableEq, Repr

inductive Token
  /-- A directive that names the version of YAML, by its first number. -/
  | version (major : Int)
  /-- A directive that says what a tag handle stands for. -/
  | tagHandle (handle : List Char) (meaning : List Char)
  /-- Any other directive. -/
  | directive
  | documentStart
  | documentEnd
  | streamEnd
  | blockSequenceStart
  | blockMappingStart
  | blockEnd
  | flowSequenceStart
  | flowSequenceEnd
  | flowMappingStart
  | flowMappingEnd
  | flowEntry
  | blockEntry
  | key
  | value
  | alias (name : List Char)
  | anchor (name : List Char)
  | tag (name : TagName)
  | scalar (content : Content) (plain : Bool)
  /-- The place where the text cannot be looked at any further. -/
  | broken (fault : Fault)
  deriving DecidableEq, Repr

end ClusterManifest.Yaml
