import ClusterManifest.Binary64

/-! The shortest decimal that reads back as a given value, and the text made of it.
For one digit, two digits and so on, the two decimals of that many digits beside the value
are tried; the first count that has one reading back wins, the nearer of two, and an even
last digit in the middle. Seventeen digits always suffice. -/

namespace ClusterManifest.Binary64

structure Decimal where
  digits : Nat
  exponent : Int
  deriving DecidableEq, Repr

def ratio (mantissa : Nat) (exponent : Int) : Nat × Nat :=
  if exponent < 0 then (mantissa, 1 <<< exponent.natAbs) else (mantissa <<< exponent.natAbs, 1)

/-- The power of ten that a positive quotient reaches: the greatest one not above it. -/
def decimalOrder (num den : Nat) : Int :=
  if den ≤ num then (Text.decimal (num / den)).length - 1
  else
    let places := (Text.decimal (den / num)).length
    -- one over the quotient lies between two powers of ten
    if den ≤ num * Nat.pow 10 (places - 1) then -((places : Int) - 1) else -(places : Int)

/-- The decimal on a grid of powers of ten nearest to a quotient among those that read
back as `target`. -/
def nearestOnGrid? (target : Binary64) (num den : Nat) (step : Int) : Option Decimal :=
  let power := Nat.pow 10 step.natAbs
  let (a, b) := if step < 0 then (num * power, den) else (num, den * power)
  let low := a / b
  let twiceRest := 2 * (a % b)
  let lowReads := ofDecimal false low step = target
  let highReads := ofDecimal false (low + 1) step = target
  if lowReads ∧ highReads then
    if twiceRest < b then some ⟨low, step⟩
    else if b < twiceRest then some ⟨low + 1, step⟩
    else if low % 2 = 0 then some ⟨low, step⟩
    else some ⟨low + 1, step⟩
  else if lowReads then some ⟨low, step⟩
  else if highReads then some ⟨low + 1, step⟩
  else none

def shortest (mantissa : Nat) (exponent : Int) : Decimal :=
  let (num, den) := ratio mantissa exponent
  let order := decimalOrder num den
  let target := Binary64.finite false mantissa exponent
  let tries := (List.range 17).map (fun (k : Nat) => nearestOnGrid? target num den (order - k))
  ((tries.filterMap id).head?).getD ⟨0, 0⟩

def Decimal.digitText (d : Decimal) : List Char :=
  ((Text.decimal d.digits).reverse.dropWhile (· == '0')).reverse

/-- Positional from a ten thousandth up to below ten to the sixteenth, with at least one
digit after the point; otherwise with an exponent of at least two digits. -/
def positiveText (mantissa : Nat) (exponent : Int) : List Char :=
  if mantissa = 0 then "0.0".toList
  else
    let d := shortest mantissa exponent
    let digits := d.digitText
    let point : Int := (Text.decimal d.digits).length + d.exponent
    if -4 < point ∧ point ≤ 16 then
      if point ≤ 0 then "0.".toList ++ List.replicate point.natAbs '0' ++ digits
      else if (digits.length : Int) ≤ point then
        digits ++ List.replicate (point.toNat - digits.length) '0' ++ ".0".toList
      else digits.take point.toNat ++ '.' :: digits.drop point.toNat
    else
      let mantissaText :=
        match digits with
        | [] => []
        | [d] => [d]
        | d :: rest => d :: '.' :: rest
      let power := point - 1
      let sign := if power < 0 then '-' else '+'
      let powerText := Text.decimal power.natAbs
      mantissaText ++ 'e' :: sign :: (if powerText.length < 2 then '0' :: powerText else powerText)

def text : Binary64 → List Char
  | .nan => "nan".toList
  | .infinite negative => (if negative then "-inf" else "inf").toList
  | .finite negative m e => (if negative then ['-'] else []) ++ positiveText m e

end ClusterManifest.Binary64
