import ClusterManifest.Calendar
import ClusterManifest.Text.Numeral

/-! Why a YAML text is not read: either it is no YAML, which includes tags and keys that
cannot be, or a single scalar has the form of a number, a date or a character and yet
stands for none. -/

namespace ClusterManifest.Yaml

inductive Fault
  | malformed
  /-- A whole number that is none in its base, or too long. -/
  | numeral (fault : Text.Numeral.Fault)
  /-- A text that is no floating-point number. -/
  | notFloat (source : List Nat)
  /-- A whole number beyond the range of floating point. -/
  | floatRange
  /-- A number with nothing after its sign. -/
  | noDigits
  /-- A text that is no truth value. -/
  | notTruth (source : List Nat)
  | notTimestamp
  | calendar (fault : Calendar.Fault)
  /-- A mapping where the text of a date is due. -/
  | listForText
  /-- An escape above the last code point. -/
  | codePoint
  /-- An escape too large to be looked at as a code point. -/
  | codePointRange
  deriving DecidableEq, Repr

def Fault.message : Fault → String
  | .malformed => "is not valid YAML"
  | .numeral fault => fault.message
  | .notFloat source =>
    "could not convert string to float: " ++ String.ofList (Text.quotedCodes source)
  | .floatRange => "int too large to convert to float"
  | .noDigits => "string index out of range"
  | .notTruth source => String.ofList (Text.quotedCodes source)
  | .notTimestamp => "'NoneType' object has no attribute 'groupdict'"
  | .calendar fault => fault.message
  | .listForText => "expected string or bytes-like object, got 'list'"
  | .codePoint => "chr() arg not in range(0x110000)"
  | .codePointRange => "Python int too large to convert to C int"

end ClusterManifest.Yaml
