import ClusterManifest.Text.Digit
import ClusterManifest.Text.Blank
import ClusterManifest.Text.Numeral

/-! Binary floating point of sixty-four bits, as exact values: a finite one is a sign, a
whole mantissa and a power of two. Every operation computes the exact result and rounds it
once, to the nearest value and to an even mantissa in the middle. The mantissa has
fifty-three bits, fewer only where the exponent is the least one; so a value has one form,
and zero has two, by its sign. -/

namespace ClusterManifest

inductive Binary64
  | nan
  | infinite (negative : Bool)
  /-- The value is the mantissa times two to the exponent. -/
  | finite (negative : Bool) (mantissa : Nat) (exponent : Int)
  deriving DecidableEq, Repr

namespace Binary64

def minExponent : Int := -1074

def maxExponent : Int := 971

def precision : Nat := 53

def zero : Binary64 := .finite false 0 minExponent

def divideToEven (num den : Nat) : Nat :=
  let q := num / den
  let r := num % den
  if 2 * r < den then q
  else if den < 2 * r then q + 1
  else if q % 2 = 0 then q else q + 1

/-- A quotient divided by a power of two, rounded to a whole number. -/
def divideByPower (num den : Nat) (exponent : Int) : Nat :=
  if exponent < 0 then divideToEven (num <<< exponent.natAbs) den
  else divideToEven num (den <<< exponent.natAbs)

def belowPower (num den : Nat) (exponent : Int) : Bool :=
  if exponent < 0 then num <<< exponent.natAbs < den
  else num < den <<< exponent.natAbs

/-- A quotient rounded to the nearest value. The denominator is positive. -/
def ofRatio (negative : Bool) (num den : Nat) : Binary64 :=
  if num = 0 then .finite negative 0 minExponent
  else
    let log : Int := (Nat.log2 num : Int) - Nat.log2 den
    let log := if belowPower num den log then log - 1 else log
    let exponent := max (log - (precision - 1)) minExponent
    let mantissa := divideByPower num den exponent
    let (mantissa, exponent) :=
      if mantissa = 1 <<< precision then (1 <<< (precision - 1), exponent + 1)
      else (mantissa, exponent)
    if maxExponent < exponent then .infinite negative
    else .finite negative mantissa exponent

/-- A whole number times a power of two, rounded. -/
def ofScaled (negative : Bool) (n : Nat) (exponent : Int) : Binary64 :=
  if exponent < 0 then ofRatio negative n (1 <<< exponent.natAbs)
  else ofRatio negative (n <<< exponent.natAbs) 1

/-- A whole number times a power of ten, rounded. Numbers far outside the range are not
computed. -/
def ofDecimal (negative : Bool) (n : Nat) (exponent : Int) : Binary64 :=
  let places : Int := (Text.decimal n).length
  if n = 0 then .finite negative 0 minExponent
  else if 400 < places + exponent then .infinite negative
  else if places + exponent < -400 then .finite negative 0 minExponent
  else if exponent < 0 then ofRatio negative n (Nat.pow 10 exponent.natAbs)
  else ofRatio negative (n * Nat.pow 10 exponent.natAbs) 1

/-- A whole number rounded; none when that is beyond the greatest value. -/
def ofInt? (n : Int) : Option Binary64 :=
  match ofRatio (n < 0) n.natAbs 1 with
  | .infinite _ => none
  | x => some x

def negate : Binary64 → Binary64
  | .nan => .nan
  | .infinite negative => .infinite !negative
  | .finite negative m e => .finite (!negative) m e

def mul : Binary64 → Binary64 → Binary64
  | .nan, _ => .nan
  | _, .nan => .nan
  | .infinite s, .infinite t => .infinite (s != t)
  | .infinite s, .finite t m _ => if m = 0 then .nan else .infinite (s != t)
  | .finite s m _, .infinite t => if m = 0 then .nan else .infinite (s != t)
  | .finite s m e, .finite t n f => ofScaled (s != t) (m * n) (e + f)

def add : Binary64 → Binary64 → Binary64
  | .nan, _ => .nan
  | _, .nan => .nan
  | .infinite s, .infinite t => if s = t then .infinite s else .nan
  | .infinite s, .finite .. => .infinite s
  | .finite .., .infinite t => .infinite t
  | .finite s m e, .finite t n f =>
    let low := min e f
    let a : Int := (m <<< (e - low).toNat : Nat)
    let b : Int := (n <<< (f - low).toNat : Nat)
    let sum := (if s then -a else a) + (if t then -b else b)
    if sum = 0 then .finite (s && t) 0 minExponent
    else ofScaled (sum < 0) sum.natAbs low

/-- The whole number that a value is; none when it has a fraction or is not finite. -/
def toInt? : Binary64 → Option Int
  | .finite negative m e =>
    let magnitude? : Option Nat :=
      if 0 ≤ e then some (m <<< e.natAbs)
      else if m % (1 <<< e.natAbs) = 0 then some (m >>> e.natAbs)
      else none
    magnitude?.map (fun (n : Nat) => if negative then -(n : Int) else n)
  | _ => none

def isFinite : Binary64 → Bool
  | .finite .. => true
  | _ => false

/-- The value a decimal writes: digits with at most one point among or beside them, then
perhaps an exponent; no sign. -/
def ofUnsignedDecimal? (negative : Bool) (s : List Char) : Option Binary64 :=
  let whole := s.takeWhile Text.isAsciiDigit
  let afterWhole := s.dropWhile Text.isAsciiDigit
  let (fraction, afterFraction) :=
    match afterWhole with
    | '.' :: rest => (rest.takeWhile Text.isAsciiDigit, rest.dropWhile Text.isAsciiDigit)
    | rest => ([], rest)
  let digits := (whole ++ fraction).map Text.asciiDigitValue
  let exponent? : Option Int :=
    match afterFraction with
    | [] => some 0
    | 'e' :: rest | 'E' :: rest =>
      let (negative, places) := Text.Numeral.splitSign rest
      if places.isEmpty || !places.all Text.isAsciiDigit then none
      else
        let n : Int := Text.ofDigits 10 (places.map Text.asciiDigitValue)
        some (if negative then -n else n)
    | _ => none
  if digits.isEmpty then none
  else exponent?.map
    (fun exponent => ofDecimal negative (Text.ofDigits 10 digits) (exponent - fraction.length))

/-- Underscores stand only between two digits. -/
def underscoresBetweenDigits : List Char → Bool
  | [] => true
  | '_' :: _ => false
  | a :: '_' :: b :: rest =>
    Text.isAsciiDigit a && Text.isAsciiDigit b && underscoresBetweenDigits (b :: rest)
  | [_, '_'] => false
  | _ :: rest => underscoresBetweenDigits rest

/-- The value that a text writes: a decimal, or a name of infinity or NaN, with white space
around it and a sign before it allowed. -/
def read? (s : List Char) : Option Binary64 :=
  let body := Text.trimWhere Text.isUnicodeSpace (s.map Text.Numeral.plainChar)
  let plain := body.filter (· != '_')
  let (negative, unsigned) := Text.Numeral.splitSign plain
  let name := unsigned.map Char.toLower
  if !underscoresBetweenDigits body then none
  else if name = "inf".toList || name = "infinity".toList then some (.infinite negative)
  else if name = "nan".toList then some .nan
  else ofUnsignedDecimal? negative unsigned

end Binary64

end ClusterManifest
