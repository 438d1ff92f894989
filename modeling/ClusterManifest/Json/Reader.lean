import ClusterManifest.Json.Value
import ClusterManifest.Text.Numeral
import ClusterManifest.Text.Utf16

/-! Reading a JSON text, in which the three names NaN, Infinity and -Infinity are values
besides. A reader takes the rest of the text and gives a value with what follows it, or
the cause of failure with the rest at which it was found; the place in the whole text is
worked out once, at the top. -/

namespace ClusterManifest.Json

inductive Cause
  | byteOrderMark
  | value
  | propertyName
  | colon
  | comma
  | extraData
  | unterminatedString
  | controlCharacter
  | escape
  | unicodeEscape
  /-- A whole number that is too long to be read. -/
  | numeral (fault : Text.Numeral.Fault)
  deriving DecidableEq, Repr

/-- A cause, and the rest of the text where it was found. -/
structure Stop where
  cause : Cause
  rest : List Char

def isSpace (c : Char) : Bool := c == ' ' || c == '\t' || c == '\n' || c == '\r'

def skipSpace (s : List Char) : List Char := s.dropWhile isSpace

def hexCode? : List Char → Option (Nat × List Char)
  | a :: b :: c :: d :: rest =>
    match Text.hexDigit? a, Text.hexDigit? b, Text.hexDigit? c, Text.hexDigit? d with
    | some a, some b, some c, some d => some (Text.ofDigits 16 [a, b, c, d], rest)
    | _, _, _, _ => none
  | _ => none

def simpleEscape? : Char → Option Char
  | '"' => some '"'
  | '\\' => some '\\'
  | '/' => some '/'
  | 'b' => some '\x08'
  | 'f' => some '\x0c'
  | 'n' => some '\n'
  | 'r' => some '\r'
  | 't' => some '\t'
  | _ => none

/-- What an escape of four hexadecimal digits stands for, and the rest: two escapes make
one character when they are a pair of surrogates. A surrogate that stands alone is no
character and becomes the replacement character. The text goes on after the digits, since
a quote is still due. -/
def readUnicodeEscape (start : List Char) (digits : List Char) : Except Stop (Char × List Char) :=
  match hexCode? digits with
  | none => .error ⟨.unicodeEscape, start⟩
  | some (_, []) => .error ⟨.unicodeEscape, start⟩
  | some (code, rest) =>
    if Text.Utf16.isHighSurrogate code then
      match rest with
      | '\\' :: 'u' :: more =>
        if more.length ≤ 4 then .ok ('\uFFFD', rest)
        else
          match hexCode? more with
          | none => .error ⟨.unicodeEscape, 'u' :: more⟩
          | some (low, after) =>
            if Text.Utf16.isLowSurrogate low then
              .ok (Char.ofNat (Text.Utf16.pairCode code low), after)
            else .ok ('\uFFFD', rest)
      | _ => .ok ('\uFFFD', rest)
    else if Text.Utf16.isLowSurrogate code then .ok ('\uFFFD', rest)
    else .ok (Char.ofNat code, rest)

/-- The rest of a string after its opening quote; `opening` is the text from that quote
on. -/
def readStringBody (opening : List Char) : Nat → List Char → Except Stop (List Char × List Char)
  | 0, _ => .error ⟨.unterminatedString, opening⟩
  | _ + 1, [] => .error ⟨.unterminatedString, opening⟩
  | _ + 1, '"' :: rest => .ok ([], rest)
  | _ + 1, ['\\'] => .error ⟨.unterminatedString, opening⟩
  | fuel + 1, '\\' :: 'u' :: digits => do
    let (c, rest) ← readUnicodeEscape ('u' :: digits) digits
    let (cs, rest) ← readStringBody opening fuel rest
    .ok (c :: cs, rest)
  | fuel + 1, '\\' :: letter :: rest =>
    match simpleEscape? letter with
    | none => .error ⟨.escape, '\\' :: letter :: rest⟩
    | some c => do
      let (cs, rest) ← readStringBody opening fuel rest
      .ok (c :: cs, rest)
  | fuel + 1, c :: rest =>
    if c.toNat < 32 then .error ⟨.controlCharacter, c :: rest⟩
    else do
      let (cs, rest) ← readStringBody opening fuel rest
      .ok (c :: cs, rest)

def readString (opening : List Char) : Except Stop (String × List Char) := do
  let (cs, rest) ← readStringBody opening (opening.length + 1) (opening.drop 1)
  .ok (String.ofList cs, rest)

def wholeDigits? : List Char → Option (List Char × List Char)
  | '0' :: rest => some (['0'], rest)
  | c :: rest =>
    if Text.isAsciiDigit c then
      some (c :: rest.takeWhile Text.isAsciiDigit, rest.dropWhile Text.isAsciiDigit)
    else none
  | [] => none

def fractionPart : List Char → List Char × List Char
  | '.' :: d :: rest =>
    if Text.isAsciiDigit d then
      ('.' :: d :: rest.takeWhile Text.isAsciiDigit, rest.dropWhile Text.isAsciiDigit)
    else ([], '.' :: d :: rest)
  | s => ([], s)

/-- The exponent of a number: a letter, perhaps a sign, and at least one digit; or
nothing. -/
def exponentPart (s : List Char) : List Char × List Char :=
  match s with
  | letter :: rest =>
    if letter == 'e' || letter == 'E' then
      let (sign, body) :=
        match rest with
        | '+' :: body => (['+'], body)
        | '-' :: body => (['-'], body)
        | body => ([], body)
      let digits := body.takeWhile Text.isAsciiDigit
      if digits.isEmpty then ([], s)
      else (letter :: sign ++ digits, body.dropWhile Text.isAsciiDigit)
    else ([], s)
  | [] => ([], s)

def readNumber (s : List Char) : Except Stop (Json × List Char) :=
  let (negative, unsigned) :=
    match s with
    | '-' :: rest => (true, rest)
    | rest => (false, rest)
  match wholeDigits? unsigned with
  | none => .error ⟨.value, s⟩
  | some (whole, afterWhole) =>
    let (fraction, afterFraction) := fractionPart afterWhole
    let (exponent, rest) := exponentPart afterFraction
    if fraction.isEmpty && exponent.isEmpty then
      match Text.Numeral.read 10 whole with
      | .error fault => .error ⟨.numeral fault, s⟩
      | .ok n => .ok (.int (if negative then -n else n), rest)
    else
      match Binary64.ofUnsignedDecimal? negative (whole ++ fraction ++ exponent) with
      | none => .error ⟨.value, s⟩
      | some x => .ok (.float x, rest)

def wordValues : List (List Char × Json) :=
  [("null".toList, .null), ("true".toList, .bool true), ("false".toList, .bool false),
    ("NaN".toList, .float .nan), ("Infinity".toList, .float (.infinite false)),
    ("-Infinity".toList, .float (.infinite true))]

def readAtom (s : List Char) : Except Stop (Json × List Char) :=
  match wordValues.find? (fun (word, _) => word.isPrefixOf s) with
  | some (word, value) => .ok (value, s.drop word.length)
  | none => readNumber s

mutual

def readValue : Nat → List Char → Except Stop (Json × List Char)
  | 0, s => .error ⟨.value, s⟩
  | _ + 1, [] => .error ⟨.value, []⟩
  | _ + 1, '\x22' :: rest => do
    let (text, rest) ← readString ('\x22' :: rest)
    .ok (.string text, rest)
  | fuel + 1, '[' :: rest =>
    match skipSpace rest with
    | ']' :: rest => .ok (.array [], rest)
    | body => do
      let (items, rest) ← readElements fuel body
      .ok (.array items, rest)
  | fuel + 1, '\x7b' :: rest =>
    match skipSpace rest with
    | '\x7d' :: rest => .ok (.object [], rest)
    | body => do
      let (items, rest) ← readMembers fuel body
      .ok (.object items, rest)
  | _ + 1, s => readAtom s

def readElements : Nat → List Char → Except Stop (List Json × List Char)
  | 0, s => .error ⟨.value, s⟩
  | fuel + 1, s => do
    let (item, rest) ← readValue fuel s
    match skipSpace rest with
    | ']' :: rest => .ok ([item], rest)
    | ',' :: rest => do
      let (items, rest) ← readElements fuel (skipSpace rest)
      .ok (item :: items, rest)
    | rest => .error ⟨.comma, rest⟩

def readMembers : Nat → List Char → Except Stop (List (String × Json) × List Char)
  | 0, s => .error ⟨.value, s⟩
  | fuel + 1, '\x22' :: s => do
    let (name, rest) ← readString ('\x22' :: s)
    match skipSpace rest with
    | ':' :: rest => do
      let (item, rest) ← readValue fuel (skipSpace rest)
      match skipSpace rest with
      | '\x7d' :: rest => .ok ([(name, item)], rest)
      | ',' :: rest => do
        let (items, rest) ← readMembers fuel (skipSpace rest)
        .ok ((name, item) :: items, rest)
      | rest => .error ⟨.comma, rest⟩
    | rest => .error ⟨.colon, rest⟩
  | _ + 1, s => .error ⟨.propertyName, s⟩

end

/-- Why and where a text is no JSON: how many characters come before the place. -/
structure Fault where
  cause : Cause
  source : List Char
  position : Nat

def read (s : List Char) : Except Fault Json :=
  let located := fun (stop : Stop) => Fault.mk stop.cause s (s.length - stop.rest.length)
  if s.head? == some '\uFEFF' then .error ⟨.byteOrderMark, s, 0⟩
  else
    match readValue (2 * s.length + 2) (skipSpace s) with
    | .error stop => .error (located stop)
    | .ok (result, rest) =>
      if (skipSpace rest).isEmpty then .ok result
      else .error (located ⟨.extraData, skipSpace rest⟩)

def Cause.message : Cause → String
  | .byteOrderMark => "Unexpected UTF-8 BOM (decode using utf-8-sig)"
  | .value => "Expecting value"
  | .propertyName => "Expecting property name enclosed in double quotes"
  | .colon => "Expecting ':' delimiter"
  | .comma => "Expecting ',' delimiter"
  | .extraData => "Extra data"
  | .unterminatedString => "Unterminated string starting at"
  | .controlCharacter => "Invalid control character at"
  | .escape => "Invalid \\escape"
  | .unicodeEscape => "Invalid \\uXXXX escape"
  | .numeral fault => fault.message

def Fault.line (fault : Fault) : Nat := (fault.source.take fault.position).count '\n' + 1

def Fault.column (fault : Fault) : Nat :=
  ((fault.source.take fault.position).reverse.takeWhile (· != '\n')).length + 1

def Fault.message (fault : Fault) : String :=
  fault.cause.message ++ ": line " ++ toString fault.line ++ " column " ++
    toString fault.column ++ " (char " ++ toString fault.position ++ ")"

end ClusterManifest.Json
