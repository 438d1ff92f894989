import ClusterManifest.Binary64.Shortest
import ClusterManifest.Calendar
import ClusterManifest.Json.Value
import ClusterManifest.Text.Numeral
import ClusterManifest.Text.Phrase

/-! The values that a document is read into, before any schema is applied to them. What a
mapping or a set has as keys are scalars; two keys are the same when they are equal as
numbers, as instants or as what else they are, whatever their spelling. -/

namespace ClusterManifest

inductive Scalar
  | null
  | bool (value : Bool)
  | int (value : Int)
  | float (value : Binary64)
  | text (value : String)
  /-- A text with a lone surrogate. -/
  | illFormed (value : IllFormed)
  | bytes (data : Text.Bytes)
  | date (value : Date)
  | moment (value : Moment)
  deriving DecidableEq, Repr

inductive Value
  | scalar (value : Scalar)
  | list (items : List Value)
  /-- A list of pairs, whose order and repetitions count. -/
  | pairs (items : List (Value × Value))
  | set (items : List Scalar)
  | map (entries : List (Scalar × Value))

namespace Scalar

def number? : Scalar → Option Int
  | .bool b => some (if b then 1 else 0)
  | .int n => some n
  | .float x => x.toInt?
  | _ => none

def sameKey (a b : Scalar) : Bool :=
  match a.number?, b.number? with
  | some m, some n => m == n
  | none, none =>
    match a, b with
    | .moment m, .moment n => m.same n
    | a, b => a == b
  | _, _ => false

def kindName : Scalar → String
  | .null => "NoneType"
  | .bool _ => "bool"
  | .int _ => "int"
  | .float _ => "float"
  | .text _ => "str"
  | .illFormed _ => "str"
  | .bytes _ => "bytes"
  | .date _ => "date"
  | .moment _ => "datetime"

def plainText : Scalar → Except Text.Numeral.Fault (List Nat)
  | .null => .ok (codes "None".toList)
  | .bool b => .ok (codes (if b then "True" else "False").toList)
  | .int n => (Text.Numeral.write n).map codes
  | .float x => .ok (codes x.text)
  | .text s => .ok (codes s.toList)
  | .illFormed value => .ok (value.codes.map Fin.val)
  | .bytes data => .ok (codes (Text.quotedBytes data))
  | .date d => .ok (codes d.text)
  | .moment m => .ok (codes m.text)
where
  codes (s : List Char) : List Nat := s.map Char.toNat

end Scalar

namespace Value

def kindName : Value → String
  | .scalar s => s.kindName
  | .list _ => "list"
  | .pairs _ => "list"
  | .set _ => "set"
  | .map _ => "dict"

/-- Sets the value of a key: in its place when the key is there, with the first spelling
kept, at the end when it is not. -/
def put (entries : List (Scalar × Value)) (key : Scalar) (value : Value) :
    List (Scalar × Value) :=
  match entries with
  | [] => [(key, value)]
  | entry :: rest =>
    if entry.1.sameKey key then (entry.1, value) :: rest else entry :: put rest key value

def ofSettings (settings : List (Scalar × Value)) : List (Scalar × Value) :=
  settings.foldl (fun entries setting => put entries setting.1 setting.2) []

def lookup? (name : String) (entries : List (Scalar × Value)) : Option Value :=
  (entries.find? (fun entry => entry.1.sameKey (.text name))).map Prod.snd

def isNull : Value → Bool
  | .scalar .null => true
  | _ => false

mutual

def ofJson : Json → Value
  | .null => .scalar .null
  | .bool b => .scalar (.bool b)
  | .int n => .scalar (.int n)
  | .float x => .scalar (.float x)
  | .string s => .scalar (.text s)
  | .array items => .list (ofJsonItems items)
  | .object members => .map (ofSettings (ofJsonMembers members))

def ofJsonItems : List Json → List Value
  | [] => []
  | item :: items => ofJson item :: ofJsonItems items

def ofJsonMembers : List (String × Json) → List (Scalar × Value)
  | [] => []
  | (name, item) :: members => (.text name, ofJson item) :: ofJsonMembers members

end

end Value

end ClusterManifest
