import ClusterManifest.Text.Phrase

/-! Documents as they are written: texts, whole numbers, lists and blocks of named
fields. The fields of a block keep their order. -/

namespace ClusterManifest

inductive Document
  | null
  | number (value : Int)
  | text (value : Phrase)
  | list (items : List Document)
  | block (fields : List (String × Document))

namespace Document

def isNull : Document → Bool
  | .null => true
  | _ => false

mutual

def withoutNulls : Document → Document
  | .list items => .list (itemsWithoutNulls items)
  | .block fields => .block (fieldsWithoutNulls fields)
  | d => d

def itemsWithoutNulls : List Document → List Document
  | [] => []
  | item :: items => withoutNulls item :: itemsWithoutNulls items

/-- The fields of a block that do not hold null. -/
def fieldsWithoutNulls : List (String × Document) → List (String × Document)
  | [] => []
  | (name, value) :: fields =>
    if value.isNull then fieldsWithoutNulls fields
    else (name, withoutNulls value) :: fieldsWithoutNulls fields

end

end Document

end ClusterManifest
