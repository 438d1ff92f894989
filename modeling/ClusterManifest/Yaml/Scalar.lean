import ClusterManifest.Base64
import ClusterManifest.Binary64
import ClusterManifest.Text.Case
import ClusterManifest.Yaml.Tag

/-! What a scalar stands for, by its tag and its content. -/

namespace ClusterManifest.Yaml.Scalar

/-- A whole number from its parts in base sixty, the first being the highest. -/
def sixtieths (parts : List Int) : Int := parts.foldl (fun n part => n * 60 + part) 0

/-- The magnitude of a whole number, by its start: binary, hexadecimal, octal, in base
sixty or decimal. -/
def magnitude : List Char → Except Fault Int
  | [] => .error .noDigits
  | ['0'] => .ok 0
  | '0' :: 'b' :: digits => (Text.Numeral.read 2 digits).mapError .numeral
  | '0' :: 'x' :: digits => (Text.Numeral.read 16 digits).mapError .numeral
  | '0' :: digits => (Text.Numeral.read 8 ('0' :: digits)).mapError .numeral
  | s =>
    if s.contains ':' then
      match (Tag.colonParts s).mapM (Text.Numeral.read 10) with
      | .ok parts => .ok (sixtieths parts)
      | .error fault => .error (.numeral fault)
    else (Text.Numeral.read 10 s).mapError .numeral

def integer (s : List Char) : Except Fault Int := do
  let (negative, unsigned) := Text.Numeral.splitSign (s.filter (· != '_'))
  let n ← magnitude unsigned
  .ok (if negative then -n else n)

/-- The value of parts in base sixty, from the lowest on, each step rounded. -/
def floatSixtieths (total : Binary64) (base : Nat) : List Binary64 → Except Fault Binary64
  | [] => .ok total
  | part :: parts =>
    match Binary64.ofInt? base with
    | none => .error .floatRange
    | some factor => floatSixtieths (total.add (part.mul factor)) (base * 60) parts

def floatMagnitude (s : List Char) : Except Fault Binary64 :=
  let read := fun (part : List Char) =>
    match Binary64.read? part with
    | some x => Except.ok x
    | none => Except.error (Fault.notFloat (part.map Char.toNat))
  if s = ".inf".toList then .ok (.infinite false)
  else if s = ".nan".toList then .ok .nan
  else if s.contains ':' then do
    let parts ← (Tag.colonParts s).mapM read
    floatSixtieths .zero 1 parts.reverse
  else read s

def float (s : List Char) : Except Fault Binary64 := do
  let body := Text.lower (s.filter (· != '_'))
  if body.isEmpty then .error .noDigits
  else
    let (negative, unsigned) := Text.Numeral.splitSign body
    let x ← floatMagnitude unsigned
    .ok (if negative then x.negate else x)

def truth (s : List Char) : Except Fault Bool :=
  let body := Text.lower s
  match Tag.truths.lookup (String.ofList body) with
  | some b => .ok b
  | none => .error (.notTruth (body.map Char.toNat))

def binary (s : List Char) : Except Fault Text.Bytes :=
  if s.all (fun c => c.toNat < 128) then
    match Base64.decodeLenient? s with
    | some data => .ok data
    | none => .error .malformed
  else .error .malformed

def ofText (tag : Tag) (s : List Char) : Except Fault ClusterManifest.Scalar :=
  match tag with
  | .null => .ok .null
  | .bool => (truth s).map .bool
  | .int => if s.isEmpty then .error .noDigits else (integer s).map .int
  | .float => (float s).map .float
  | .binary => (binary s).map .bytes
  | .timestamp => Timestamp.read s
  | .text => .ok (.text (String.ofList s))
  | _ => .error .malformed

/-- The scalar that a text with a lone surrogate stands for under a tag: it is no number and
no name of anything. -/
def ofIllFormed (tag : Tag) (value : IllFormed) : Except Fault ClusterManifest.Scalar :=
  let codes := value.codes.map Fin.val
  match tag with
  | .null => .ok .null
  | .bool => .error (.notTruth codes)
  | .int => .error (.numeral (.malformed 10 codes))
  | .float => .error (.notFloat codes)
  | .timestamp => .error .notTimestamp
  | .text => .ok (.illFormed value)
  | _ => .error .malformed

def ofContent (tag : Tag) : Content → Except Fault ClusterManifest.Scalar
  | .text s => ofText tag s
  | .illFormed value => ofIllFormed tag value

end ClusterManifest.Yaml.Scalar
