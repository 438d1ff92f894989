import ClusterManifest.Document
import ClusterManifest.Yaml.Style

/-! Writing a document as YAML in block form, two columns for each level. Lines are folded
after column eighty where that changes nothing: at single spaces in plain and single-quoted
scalars, anywhere with a backslash in double-quoted ones. Keys are not folded. -/

namespace ClusterManifest.Yaml

namespace Style

def width : Nat := 80

def newLine (indent : Nat) : List Char := '\n' :: List.replicate indent ' '

/-- The rest of a plain text from a column on. A space that stands alone becomes a line
break when the line is full. -/
def plainFrom (split : Bool) (indent : Nat) :
    (column : Nat) → (afterSpace : Bool) → List Char → List Char
  | _, _, [] => []
  | column, afterSpace, c :: rest =>
    if c == ' ' && !afterSpace && rest.head? != some ' ' && split && width < column then
      newLine indent ++ plainFrom split indent indent true rest
    else c :: plainFrom split indent (column + 1) (c == ' ') rest

/-- The rest of a text in single quotes from a column on. A quote is written twice and the
first of several line feeds once more. A space that stands alone becomes a line break when
the line is full, but not at the start or end of the text. -/
def singleQuotedFrom (split : Bool) (indent : Nat) :
    (column : Nat) → (before : Option Char) → List Char → List Char
  | _, _, [] => []
  | column, before, c :: rest =>
    if c == ' ' && before.isSome && before != some ' ' && !rest.isEmpty &&
        rest.head? != some ' ' && split && width < column then
      newLine indent ++ singleQuotedFrom split indent indent (some ' ') rest
    else if c == '\'' then
      '\'' :: '\'' :: singleQuotedFrom split indent (column + 2) (some c) rest
    else if c == '\n' then
      let breaks := if before == some '\n' then ['\n'] else ['\n', '\n']
      let spaces := if rest.head? == some '\n' then [] else List.replicate indent ' '
      breaks ++ spaces ++ singleQuotedFrom split indent indent (some '\n') rest
    else c :: singleQuotedFrom split indent (column + 1) (some c) rest

def escapeLetter? (code : Text.CodePoint) : Option Char :=
  match code.val with
  | 0 => some '0'
  | 7 => some 'a'
  | 8 => some 'b'
  | 9 => some 't'
  | 10 => some 'n'
  | 11 => some 'v'
  | 12 => some 'f'
  | 13 => some 'r'
  | 27 => some 'e'
  | 34 => some '"'
  | 92 => some '\\'
  | 0x85 => some 'N'
  | 0xA0 => some '_'
  | 0x2028 => some 'L'
  | 0x2029 => some 'P'
  | _ => none

def isUnescaped (code : Text.CodePoint) : Bool :=
  0x20 ≤ code.val && code.val ≤ 0x7E && code != .ofChar '"' && code != .ofChar '\\'

def upperHex (digits n : Nat) : List Char := (Text.hexPadded digits n).map Char.toUpper

def escape (code : Text.CodePoint) : List Char :=
  match escapeLetter? code with
  | some letter => ['\\', letter]
  | none =>
    if code.val < 0x100 then '\\' :: 'x' :: upperHex 2 code.val
    else if code.val < 0x10000 then '\\' :: 'u' :: upperHex 4 code.val
    else '\\' :: 'U' :: upperHex 8 code.val

def space : Text.CodePoint := .ofChar ' '

/-- A fold inside of double quotes: a backslash, a line break, and a backslash again when
the text goes on with a space. -/
def quotedFold (indent : Nat) (rest : List Text.CodePoint) : List Char :=
  '\\' :: newLine indent ++ (if rest.head? == some space then ['\\'] else [])

/-- The rest of a text in double quotes from a column on. A full line is folded before a
space, after an escape and before the character after one, but not at the start or end of
the text. -/
def doubleQuotedFrom (split : Bool) (indent : Nat) :
    (column : Nat) → (first afterEscape : Bool) → List Text.CodePoint → List Char
  | _, _, _, [] => []
  | column, first, afterEscape, code :: rest =>
    let mayFold := split && !first && !rest.isEmpty
    if isUnescaped code then
      if mayFold && (code == space || afterEscape) && width < column then
        let fold := quotedFold indent (code :: rest)
        fold ++ code.char :: doubleQuotedFrom split indent
          (indent + (if code == space then 2 else 1)) false false rest
      else code.char :: doubleQuotedFrom split indent (column + 1) false false rest
    else
      let written := escape code
      let after := column + written.length
      if mayFold && width + 1 < after then
        let fold := quotedFold indent rest
        written ++ fold ++ doubleQuotedFrom split indent
          (indent + (if rest.head? == some space then 1 else 0)) false true rest
      else written ++ doubleQuotedFrom split indent after false true rest

def inDoubleQuotes (split : Bool) (indent column : Nat) (codes : List Text.CodePoint) :
    List Char :=
  '"' :: doubleQuotedFrom split indent (column + 1) true false codes ++ ['"']

def write (split : Bool) (indent column : Nat) (s : List Char) : List Char :=
  match ofText s with
  | .plain => plainFrom split indent column false s
  | .singleQuoted =>
    '\'' :: singleQuotedFrom split indent (column + 1) none s ++ ['\'']
  | .doubleQuoted => inDoubleQuotes split indent column (s.map Text.CodePoint.ofChar)

/-- A surrogate is written by its escape, which only double quotes allow. -/
def writePhrase (split : Bool) (indent column : Nat) : Phrase → List Char
  | .text value => write split indent column value.toList
  | .illFormed value => inDoubleQuotes split indent column value.codes

end Style

namespace Printer

open Style (newLine)

/-- What stands before a value on its line: a key with its colon, or a sign of its own. -/
inductive Lead
  /-- A key in a mapping at the indentation; a list is not indented further. -/
  | key
  /-- A hyphen, a question mark or a colon alone; a list or block starts on its line. -/
  | sign
  deriving DecidableEq, Repr

mutual

/-- A value after its lead, which ends before a column, in a collection at an
indentation. -/
def value (indent column : Nat) (lead : Lead) : Document →
    Except Text.Numeral.Fault (List Char)
  | .null => .ok " null".toList
  | .number n => do
    let digits ← Text.Numeral.write n
    .ok (' ' :: digits)
  | .text phrase => .ok (' ' :: Style.writePhrase true (indent + 2) (column + 1) phrase)
  | .list [] => .ok " []".toList
  | .block [] => .ok " \x7b\x7d".toList
  | .list (item :: items) =>
    match lead with
    | .key => do
      let first ← value indent (indent + 1) .sign item
      let more ← moreItems indent items
      .ok (newLine indent ++ '-' :: first ++ more)
    | .sign => do
      let first ← value (indent + 2) (indent + 3) .sign item
      let more ← moreItems (indent + 2) items
      .ok (' ' :: '-' :: first ++ more)
  | .block (entry :: fields) => do
    let first ← field (indent + 2) entry
    let more ← moreFields (indent + 2) fields
    match lead with
    | .key => .ok (newLine (indent + 2) ++ first ++ more)
    | .sign => .ok (' ' :: first ++ more)

def moreItems (indent : Nat) : List Document → Except Text.Numeral.Fault (List Char)
  | [] => .ok []
  | item :: items => do
    let first ← value indent (indent + 1) .sign item
    let more ← moreItems indent items
    .ok (newLine indent ++ '-' :: first ++ more)

def field (indent : Nat) : String × Document → Except Text.Numeral.Fault (List Char)
  | (name, content) =>
    if Style.isSimpleKey name.toList then do
      let key := Style.write false (indent + 2) indent name.toList
      let written ← value indent (indent + key.length + 1) .key content
      .ok (key ++ ':' :: written)
    else do
      let key := Style.write true (indent + 2) (indent + 2) name.toList
      let written ← value indent (indent + 1) .sign content
      .ok ('?' :: ' ' :: key ++ newLine indent ++ ':' :: written)

def moreFields (indent : Nat) : List (String × Document) →
    Except Text.Numeral.Fault (List Char)
  | [] => .ok []
  | entry :: fields => do
    let first ← field indent entry
    let more ← moreFields indent fields
    .ok (newLine indent ++ first ++ more)

end

/-- The fields of a whole document, which are not indented. -/
def document : List (String × Document) → Except Text.Numeral.Fault (List Char)
  | [] => .ok "\x7b\x7d\n".toList
  | entry :: fields => do
    let first ← field 0 entry
    let more ← moreFields 0 fields
    .ok (first ++ more ++ ['\n'])

end Printer

/-- The YAML text of a document, given by its fields; none when a number in it is too large to
be written. -/
def write (fields : List (String × Document)) : Except Text.Numeral.Fault String :=
  (Printer.document fields).map String.ofList

end ClusterManifest.Yaml
