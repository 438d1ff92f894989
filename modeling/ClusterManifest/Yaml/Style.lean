import ClusterManifest.Yaml.Character
import ClusterManifest.Yaml.Tag

/-! How a text is written as a scalar. It stands plain when it cannot be taken for anything
else, between single quotes when it has line feeds or looks like something else, and
between double quotes, with escapes, when it has characters beyond printable ASCII or
spaces at the end or start of a line within it. -/

namespace ClusterManifest.Yaml

inductive Style
  | plain
  | singleQuoted
  | doubleQuoted
  deriving DecidableEq, Repr

namespace Style

def isOrdinary (c : Char) : Bool := c == '\n' || (' ' ≤ c && c ≤ '~')

def hasPair (a b : Char) : List Char → Bool
  | c :: d :: rest => (c == a && d == b) || hasPair a b (d :: rest)
  | _ => false

/-- A text that single quotes can hold: of ordinary characters, with no space next to a
line feed. -/
def fitsSingleQuotes (s : List Char) : Bool :=
  s.all isOrdinary && !hasPair ' ' '\n' s && !hasPair '\n' ' ' s

def isBadStart (c : Char) (rest : List Char) : Bool :=
  "#,[]\x7b\x7d&*!|>'\"%@\x60".toList.contains c ||
    (['?', ':', '-'].contains c && isBlankOrEnd (rest.headD '\x00'))

/-- A colon before white space, or a number sign after it, behind the first character. -/
def hasBadPart : List Char → Bool
  | [] => false
  | [_] => false
  | c :: d :: rest =>
    (d == ':' && isBlankOrEnd (rest.headD '\x00')) || (d == '#' && isBlankOrEnd c) ||
      hasBadPart (d :: rest)

def startsLikeSeparator (s : List Char) : Bool :=
  s.take 3 == ['-', '-', '-'] || s.take 3 == ['.', '.', '.']

def fitsPlain : List Char → Bool
  | [] => true
  | c :: rest =>
    (c :: rest).all (fun d => ' ' ≤ d && d ≤ '~') && c != ' ' &&
      (c :: rest).getLast? != some ' ' && !startsLikeSeparator (c :: rest) &&
      !isBadStart c rest && !hasBadPart (c :: rest)

def ofText (s : List Char) : Style :=
  if Tag.ofPlain s == .text && fitsPlain s then .plain
  else if fitsSingleQuotes s then .singleQuoted
  else .doubleQuoted

def simpleKeyLimit : Nat := 122

def endsLine (c : Char) : Bool :=
  c == '\n' || c == '\u0085' || c == '\u2028' || c == '\u2029'

/-- A text that can be a key without a mark before it: not empty, of one line, and not too
long. -/
def isSimpleKey (s : List Char) : Bool :=
  !s.isEmpty && !s.any endsLine && s.length ≤ simpleKeyLimit

end Style

end ClusterManifest.Yaml
