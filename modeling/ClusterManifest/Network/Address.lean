import ClusterManifest.Text.Blank
import ClusterManifest.Text.Digit

/-! Internet addresses of both versions, as whole numbers, and their texts. A version 4
address has one text. A version 6 address has many: zeros before a group, a double colon
for any run of zero groups, and a version 4 tail are all read; only the shortest form,
with the double colon at the first longest run, is written. -/

namespace ClusterManifest.Network

inductive Version
  | v4
  | v6
  deriving DecidableEq, Repr

def Version.bits : Version → Nat
  | .v4 => 32
  | .v6 => 128

namespace Address

/-- One of the four numbers of a version 4 address: at most three digits, without a zero
before others. -/
def octet? (s : List Char) : Option Nat :=
  let n := Text.ofDigits 10 (s.map Text.asciiDigitValue)
  if s.isEmpty || !s.all Text.isAsciiDigit || 3 < s.length then none
  else if s.head? == some '0' && s != ['0'] then none
  else if 255 < n then none
  else some n

def v4? (s : List Char) : Option Nat :=
  match (Text.splitAtChar '.' s).map octet? with
  | [some a, some b, some c, some d] => some (Text.ofDigits 256 [a, b, c, d])
  | _ => none

def v4Text (n : Nat) : List Char :=
  Text.joinWith ['.'] ([n / 16777216, n / 65536, n / 256, n].map (fun k => Text.decimal (k % 256)))

/-- What stands between two colons of a version 6 address: a group of sixteen bits, or
nothing. -/
inductive Part
  | gap
  | group (value : Nat)
  deriving DecidableEq, Repr

def Part.isGroup : Part → Bool
  | .gap => false
  | .group _ => true

def groups? (parts : List Part) : Option (List Nat) :=
  parts.mapM (fun part =>
    match part with
    | .gap => none
    | .group n => some n)

def part? (s : List Char) : Option Part :=
  if s.isEmpty then some .gap
  else if 4 < s.length then none
  else (s.mapM Text.hexDigit?).map (fun digits => .group (Text.ofDigits 16 digits))

/-- The parts of a version 6 address; a version 4 address at the end makes two groups. -/
def parts? : List (List Char) → Option (List Part)
  | [] => some []
  | [last] =>
    if last.contains '.' then
      (v4? last).map (fun n => [.group (n / 65536), .group (n % 65536)])
    else (part? last).map ([·])
  | piece :: pieces => do
    let part ← part? piece
    let parts ← parts? pieces
    some (part :: parts)

/-- The groups on one side of a double colon, which may be none: the address then starts or
ends with the double colon, and its one part there is a gap. -/
def side? (parts : List Part) : Option (List Nat) :=
  if parts = [.gap] then some [] else groups? parts

/-- The eight groups of an address, the zeros that a double colon leaves out put in. -/
def allGroups? (parts : List Part) : Option (List Nat) :=
  match parts with
  | [] => none
  | first :: rest =>
    match rest.dropWhile Part.isGroup with
    | [] => (groups? parts).filter (fun groups => groups.length = 8)
    | _ :: after =>
      if after.isEmpty then none
      else do
        let high ← side? (first :: rest.takeWhile Part.isGroup)
        let low ← side? after
        if high.length + low.length < 8 then
          some (high ++ List.replicate (8 - (high.length + low.length)) 0 ++ low)
        else none

def v6? (s : List Char) : Option Nat := do
  let parts ← parts? (Text.splitAtChar ':' s)
  let groups ← allGroups? parts
  some (Text.ofDigits 65536 groups)

def groupsOf (n : Nat) : List Nat :=
  (List.range 8).map (fun k => n >>> (16 * (7 - k)) % 65536)

def zerosAtStart (groups : List Nat) : Nat := (groups.takeWhile (· == 0)).length

def longestZeros (groups : List Nat) : Nat × Nat :=
  (List.range groups.length).foldl
    (fun best start =>
      let length := zerosAtStart (groups.drop start)
      if best.2 < length then (start, length) else best)
    (0, 0)

def groupText (n : Nat) : List Char := Nat.toDigits 16 n

def v6Text (n : Nat) : List Char :=
  let groups := groupsOf n
  let (start, length) := longestZeros groups
  let write := fun part => Text.joinWith [':'] (part.map groupText)
  if length < 2 then write groups
  else write (groups.take start) ++ "::".toList ++ write (groups.drop (start + length))

def text : Version → Nat → List Char
  | .v4 => v4Text
  | .v6 => v6Text

end Address

end ClusterManifest.Network
