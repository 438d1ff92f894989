/-! Lowercase domain names, recognised in one pass. A label has letters, digits and
hyphens, and neither starts nor ends with a hyphen; a name is one label or several with
points between. -/

namespace ClusterManifest.DomainName

def isLabelEnd (c : Char) : Bool := ('a' ≤ c && c ≤ 'z') || ('0' ≤ c && c ≤ '9')

/-- Where a pass over a name stands: before a label, or in one after a character that may
end it or may not. -/
inductive Place
  | beforeLabel
  | complete
  | hyphen
  deriving DecidableEq, Repr

/-- The place after one more character; none when the name cannot go on with it. Points
separate labels only where `dotted` allows them. -/
def step (dotted : Bool) (place : Place) (c : Char) : Option Place :=
  if isLabelEnd c then some .complete
  else
    match place with
    | .beforeLabel => none
    | .complete =>
      if c = '-' then some .hyphen
      else if c = '.' && dotted then some .beforeLabel
      else none
    | .hyphen => if c = '-' then some .hyphen else none

def completes (dotted : Bool) : Place → List Char → Bool
  | place, [] => place == .complete
  | place, c :: rest =>
    match step dotted place c with
    | none => false
    | some next => completes dotted next rest

def labelLimit : Nat := 63

def nameLimit : Nat := 253

def isLabel (s : List Char) : Bool :=
  s.length ≤ labelLimit && completes false .beforeLabel s

def isName (s : List Char) : Bool :=
  s.length ≤ nameLimit && completes true .beforeLabel s

end ClusterManifest.DomainName
