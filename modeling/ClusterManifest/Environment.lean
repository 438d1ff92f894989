/-! Environments: variables with texts as values. A variable that is not set counts as one
that is empty; one whose bytes are no text is left out of account. -/

namespace ClusterManifest

structure Environment where
  settings : List (String × String)
  deriving DecidableEq, Repr

namespace Environment

def get? (environment : Environment) (name : String) : Option String :=
  (environment.settings.reverse.find? (fun setting => setting.1 == name)).map Prod.snd

def get (environment : Environment) (name : String) : String :=
  (environment.get? name).getD ""

def value? (environment : Environment) (name : String) : Option String :=
  let value := environment.get name
  if value.isEmpty then none else some value

def first? (environment : Environment) (names : List String) : Option String :=
  names.findSome? environment.value?

end Environment

end ClusterManifest
