import ClusterManifest.Text.Utf8

/-! Standard base 64: four characters of six bits for three bytes, with padding where
the data ends early. A reader goes over the characters once, counting the data so far and
the padding since. A strict reader takes the characters of the alphabet and padding at the
end only; a lenient one passes over all others. Padding that comes where no data is open
is passed over by both, unless it comes first in a strict reading. -/

namespace ClusterManifest.Base64

def sextet? (c : Char) : Option Nat :=
  let n := c.toNat
  if 65 ≤ n && n ≤ 90 then some (n - 65)
  else if 97 ≤ n && n ≤ 122 then some (n - 71)
  else if 48 ≤ n && n ≤ 57 then some (n + 4)
  else if c = '+' then some 62
  else if c = '/' then some 63
  else none

def sextetChar (n : Nat) : Char :=
  if n < 26 then Char.ofNat (n + 65)
  else if n < 52 then Char.ofNat (n + 71)
  else if n < 62 then Char.ofNat (n - 4)
  else if n = 62 then '+'
  else '/'

/-- The sextets of the rest of a text, `count` of them read before it, and `pads` signs of
padding since the last; `padded` says whether there has been any. -/
def sextetsFrom (strict : Bool) (count pads : Nat) (padded : Bool) :
    List Char → Option (List Nat)
  | [] => if count % 4 = 0 then some [] else none
  | c :: rest =>
    if c = '=' then
      if count % 4 < 2 then sextetsFrom strict count pads true rest
      else if count % 4 + (pads + 1) < 4 then sextetsFrom strict count (pads + 1) true rest
      else if strict && !rest.isEmpty then none
      else some []
    else
      match sextet? c with
      | none => if strict then none else sextetsFrom strict count pads padded rest
      | some n =>
        if strict && padded then none
        else (sextetsFrom strict (count + 1) 0 padded rest).map (n :: ·)

def sextets? (strict : Bool) (s : List Char) : Option (List Nat) :=
  if strict && s.head? == some '=' then none else sextetsFrom strict 0 0 false s

/-- The bytes that sextets make, four at a time; the bits left over are dropped. -/
def bytesOfSextets : List Nat → Text.Bytes
  | a :: b :: c :: d :: rest =>
    (a * 4 + b / 16).toUInt8 :: (b * 16 + c / 4).toUInt8 :: (c * 64 + d).toUInt8 ::
      bytesOfSextets rest
  | [a, b, c] => [(a * 4 + b / 16).toUInt8, (b * 16 + c / 4).toUInt8]
  | [a, b] => [(a * 4 + b / 16).toUInt8]
  | _ => []

def isStrict (s : List Char) : Bool := (sextets? true s).isSome

/-- The bytes that a text stands for, what is foreign to it being passed over. -/
def decodeLenient? (s : List Char) : Option Text.Bytes :=
  (sextets? false s).map bytesOfSextets

def encode : Text.Bytes → List Char
  | a :: b :: c :: rest =>
    sextetChar (a.toNat / 4) :: sextetChar (a.toNat % 4 * 16 + b.toNat / 16) ::
      sextetChar (b.toNat % 16 * 4 + c.toNat / 64) :: sextetChar (c.toNat % 64) :: encode rest
  | [a, b] =>
    [sextetChar (a.toNat / 4), sextetChar (a.toNat % 4 * 16 + b.toNat / 16),
      sextetChar (b.toNat % 16 * 4), '=']
  | [a] => [sextetChar (a.toNat / 4), sextetChar (a.toNat % 4 * 16), '=', '=']
  | [] => []

end ClusterManifest.Base64
