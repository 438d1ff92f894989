import ClusterManifest.Binary64

/-! JSON values. The members of an object stand in the order of the text, repeated names
included; numbers with a fraction or an exponent are apart from whole ones. -/

namespace ClusterManifest

inductive Json
  | null
  | bool (value : Bool)
  | int (value : Int)
  | float (value : Binary64)
  | string (value : String)
  | array (items : List Json)
  | object (members : List (String × Json))

namespace Json

def member? (name : String) (members : List (String × Json)) : Option Json :=
  (members.reverse.find? (fun member => member.1 == name)).map Prod.snd

def get? (name : String) : Json → Option Json
  | .object members => member? name members
  | _ => none

def hasMember (name : String) (value : Json) : Bool := (value.get? name).isSome

end Json

end ClusterManifest
