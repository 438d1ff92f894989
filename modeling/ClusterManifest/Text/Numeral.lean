import ClusterManifest.Text.Blank
import ClusterManifest.Text.Digit
import ClusterManifest.Text.Quoted

/-! Whole numbers written in a base. White space may stand around the numeral, a sign
before it, the base's own mark (as in 0x) before its digits, and single underscores
between them; digits of any Unicode set count. A decimal numeral is limited in length, in
reading and in writing, so that its conversion stays cheap; numerals in bases that are
powers of two are not. -/

namespace ClusterManifest.Text.Numeral

def digitLimit : Nat := 4300

/-- Why a text is not read as a numeral, or a number not written as one. -/
inductive Fault
  /-- The text is no numeral in the base. -/
  | malformed (base : Nat) (source : List Nat)
  /-- The numeral has too many digits to be read. -/
  | tooLong (digits : Nat)
  /-- The number has too many digits to be written. -/
  | tooLarge
  deriving DecidableEq, Repr

def quotationLimit : Nat := 200

def Fault.message : Fault → String
  | .malformed base source =>
    "invalid literal for int() with base " ++ toString base ++ ": " ++
      String.ofList ((quotedCodes source).take quotationLimit)
  | .tooLong digits =>
    "Exceeds the limit (4300 digits) for integer string conversion: value has " ++
      toString digits ++ " digits; use sys.set_int_max_str_digits() to increase the limit"
  | .tooLarge =>
    "Exceeds the limit (4300 digits) for integer string conversion; " ++
      "use sys.set_int_max_str_digits() to increase the limit"

def plainChar (c : Char) : Char :=
  if c.toNat < 127 then c
  else
    match digitValue? c with
    | some value => Nat.digitChar value
    | none => if isBlank c then ' ' else c

def baseMarks (base : Nat) : List Char :=
  if base = 16 then ['x', 'X'] else if base = 8 then ['o', 'O']
  else if base = 2 then ['b', 'B'] else []

/-- A numeral after the mark of its base, if it has one; an underscore may follow the
mark. -/
def dropBaseMark (base : Nat) : List Char → List Char
  | '0' :: letter :: rest =>
    if (baseMarks base).contains letter then
      match rest with
      | '_' :: rest => rest
      | rest => rest
    else '0' :: letter :: rest
  | s => s

def singleUnderscores : List Char → Bool
  | '_' :: '_' :: _ => false
  | ['_'] => false
  | _ :: rest => singleUnderscores rest
  | [] => true

def splitSign : List Char → Bool × List Char
  | '-' :: rest => (true, rest)
  | '+' :: rest => (false, rest)
  | s => (false, s)

def read (base : Nat) (s : List Char) : Except Fault Int :=
  let malformed := Fault.malformed base (s.map Char.toNat)
  let (negative, unsigned) := splitSign ((s.map plainChar).dropWhile isUnicodeSpace)
  let body := dropBaseMark base unsigned
  let isDigitOrMark := fun c => c == '_' || (digitInBase? base c).isSome
  let run := body.takeWhile isDigitOrMark
  let rest := body.dropWhile isDigitOrMark
  let digits := run.filterMap (digitInBase? base)
  if run.head? == some '_' || !singleUnderscores run then .error malformed
  else if base = 10 && digitLimit < digits.length then .error (.tooLong digits.length)
  else if digits.isEmpty || !rest.all isUnicodeSpace then .error malformed
  else
    let n : Int := ofDigits base digits
    .ok (if negative then -n else n)

/-- A number in decimal, when it is not too large to be written. -/
def write (n : Int) : Except Fault (List Char) :=
  let digits := decimal n.natAbs
  if digitLimit < digits.length then .error .tooLarge
  else .ok (if n < 0 then '-' :: digits else digits)

example : (read 16 " 0x_1F ".toList).toOption = some 31 := by decide +kernel
example : (read 10 "-1_0".toList).toOption = some (-10) := by decide +kernel

end ClusterManifest.Text.Numeral
