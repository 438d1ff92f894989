import ClusterManifest.Text.Blank
import ClusterManifest.Text.Digit
import ClusterManifest.Yaml.Timestamp
import ClusterManifest.Yaml.Token

/-! Tags, and the tag that a plain scalar has by its looks: truth values, whole and
floating-point numbers, null, dates and times, the merge key, and texts for everything
else. -/

namespace ClusterManifest.Yaml

/-- What kind of value a node stands for. -/
inductive Tag
  | null
  | bool
  | int
  | float
  | binary
  | timestamp
  | orderedMap
  | pairs
  | set
  | text
  | sequence
  | mapping
  /-- The key of a mapping whose entries are taken over. -/
  | merge
  /-- The key of a mapping that holds the mapping's own value. -/
  | value
  | other
  deriving DecidableEq, Repr

namespace Tag

def common : List Char := "tag:yaml.org,2002:".toList

def names : List (String × Tag) :=
  [("null", .null), ("bool", .bool), ("int", .int), ("float", .float), ("binary", .binary),
    ("timestamp", .timestamp), ("omap", .orderedMap), ("pairs", .pairs), ("set", .set),
    ("str", .text), ("seq", .sequence), ("map", .mapping), ("merge", .merge),
    ("value", .value)]

def ofName (name : List Char) : Tag :=
  if common.isPrefixOf name then
    (names.lookup (String.ofList (name.drop common.length))).getD .other
  else .other

def truths : List (String × Bool) :=
  [("yes", true), ("true", true), ("on", true), ("no", false), ("false", false),
    ("off", false)]

def spellings (word : String) : List (List Char) :=
  let lower := word.toList
  [lower, lower.take 1 |>.map Char.toUpper |> (· ++ lower.drop 1), lower.map Char.toUpper]

def isTruth (s : List Char) : Bool := truths.any (fun entry => (spellings entry.1).contains s)

def isNull (s : List Char) : Bool :=
  s.isEmpty || s == ['~'] || (spellings "null").contains s

def unsigned : List Char → List Char
  | '-' :: rest => rest
  | '+' :: rest => rest
  | s => s

def someOf (p : Char → Bool) (s : List Char) : Bool := !s.isEmpty && s.all p

def isDigitOrMark (c : Char) : Bool := Text.isAsciiDigit c || c == '_'

/-- A part of a number in base sixty after the first: one digit, or two of which the first
is below six. -/
def isSixtieth : List Char → Bool
  | [d] => Text.isAsciiDigit d
  | [a, d] => '0' ≤ a && a ≤ '5' && Text.isAsciiDigit d
  | _ => false

def colonParts (s : List Char) : List (List Char) := Text.splitAtChar ':' s

def isIntUnsigned : List Char → Bool
  | ['0'] => true
  | '0' :: 'b' :: rest => someOf (fun c => c == '0' || c == '1' || c == '_') rest
  | '0' :: 'x' :: rest => someOf (fun c => (Text.hexDigit? c).isSome || c == '_') rest
  | '0' :: rest => someOf (fun c => ('0' ≤ c && c ≤ '7') || c == '_') rest
  | s =>
    match colonParts s with
    | first :: parts =>
      let startsWell := (first.head?.map (fun c => '1' ≤ c && c ≤ '9')).getD false
      startsWell && first.all isDigitOrMark && parts.all isSixtieth
    | [] => false

def isInt (s : List Char) : Bool := isIntUnsigned (unsigned s)

def isExponent : List Char → Bool
  | letter :: sign :: digits =>
    (letter == 'e' || letter == 'E') && (sign == '+' || sign == '-') &&
      someOf Text.isAsciiDigit digits
  | _ => false

def isFraction (s : List Char) : Bool :=
  let rest := s.dropWhile isDigitOrMark
  rest.isEmpty || isExponent rest

def isFloatUnsigned (s : List Char) : Bool :=
  let whole := s.takeWhile isDigitOrMark
  let startsWell := (s.head?.map Text.isAsciiDigit).getD false
  match s.dropWhile isDigitOrMark with
  | '.' :: fraction => startsWell && isFraction fraction
  | ':' :: _ =>
    match (colonParts s).drop 1 |>.reverse with
    | last :: middle =>
      let sixtieth := last.takeWhile (· != '.')
      startsWell && !whole.isEmpty && middle.all isSixtieth && isSixtieth sixtieth &&
        (match last.dropWhile (· != '.') with
          | '.' :: fraction => fraction.all isDigitOrMark
          | _ => false)
    | [] => false
  | _ => false

/-- A point, a digit, more digits and underscores, and perhaps an exponent; no sign. -/
def isPointFirst : List Char → Bool
  | '.' :: rest => (rest.head?.map Text.isAsciiDigit).getD false && isFraction rest
  | _ => false

def isFloat (s : List Char) : Bool :=
  isFloatUnsigned (unsigned s) || isPointFirst s ||
    (spellings "inf" |>.map ('.' :: ·)).contains (unsigned s) ||
    [".nan", ".NaN", ".NAN"].any (fun name => name.toList == s)

/-- A text that looks like a value of a class, a line feed at its end not counting. -/
def looksLike (p : List Char → Bool) (s : List Char) : Bool :=
  p s || (1 < s.length && s.getLast? == some '\n' && p s.dropLast)

/-- The tag of a plain scalar. Lone signs of tags, anchors and aliases have a tag that no
value has. -/
def ofPlain (s : List Char) : Tag :=
  if looksLike isTruth s then .bool
  else if looksLike isFloat s then .float
  else if looksLike isInt s then .int
  else if looksLike (· == ['<', '<']) s then .merge
  else if looksLike isNull s then .null
  else if looksLike Timestamp.isPlain s then .timestamp
  else if looksLike (· == ['=']) s then .value
  else if looksLike (fun s => s == ['!'] || s == ['&'] || s == ['*']) s then .other
  else .text

/-- The tag of a scalar from what is written: an explicit tag, or the looks of the scalar
if it is plain or has the tag that says to go by them. -/
def ofScalar (written : Option (List Char)) (plain : Bool) (content : Content) : Tag :=
  let byLooks :=
    match content with
    | .text s => ofPlain s
    | .illFormed _ => .text
  match written with
  | none => if plain then byLooks else .text
  | some name => if name = ['!'] then byLooks else ofName name

def ofCollection (written : Option (List Char)) (standard : Tag) : Tag :=
  match written with
  | none => standard
  | some name => if name = ['!'] then standard else ofName name

end Tag

end ClusterManifest.Yaml
