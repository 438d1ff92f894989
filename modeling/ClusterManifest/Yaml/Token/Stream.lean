import ClusterManifest.Yaml.Token.Name
import ClusterManifest.Yaml.Token.Scalar

/-! The tokens of a whole YAML text. Indentation is made explicit: where lines start further
right a block starts, where they fall back it ends. A simple key shows only at the colon
after it; so every place where one may start is remembered, per level of brackets, and the
token for the key is put in there when the colon comes. -/

namespace ClusterManifest.Yaml

/-- A place where a simple key may have started. -/
structure PendingKey where
  /-- How many tokens come before it. -/
  position : Nat
  /-- Whether nothing but a key may stand there. -/
  required : Bool
  index : Nat
  line : Nat
  column : Nat
  deriving DecidableEq, Repr

structure Lexing where
  cursor : Cursor
  /-- The tokens so far, in order. -/
  tokens : List Token
  /-- The column of the innermost block, -1 outside of all. -/
  indent : Int
  /-- The columns of the blocks around it, from the inside. -/
  outer : List Int
  /-- How many brackets are open. -/
  depth : Nat
  /-- Whether a simple key may start here. -/
  keyAllowed : Bool
  /-- The pending keys, at most one for each depth. -/
  keys : List (Nat × PendingKey)

namespace Lexing

def keyLimit : Nat := 1024

def start (s : List Char) : Lexing := ⟨.start s, [], -1, [], 0, true, []⟩

def emit (token : Token) (l : Lexing) : Lexing := { l with tokens := l.tokens ++ [token] }

def insertAt (position : Nat) (token : Token) (l : Lexing) : Lexing :=
  { l with tokens := l.tokens.take position ++ token :: l.tokens.drop position }

def pending? (l : Lexing) : Option PendingKey := l.keys.lookup l.depth

def forgetKey (l : Lexing) : Lexing :=
  { l with keys := l.keys.filter (fun entry => entry.1 != l.depth) }

/-- Gives up the pending key of the present depth, which must not be required. -/
def dropKey (l : Lexing) : Except Fault Lexing :=
  match l.pending? with
  | some key => if key.required then .error .malformed else .ok l.forgetKey
  | none => .ok l

def isStale (c : Cursor) (key : PendingKey) : Bool :=
  key.line != c.line || c.index > key.index + keyLimit

def dropStale (l : Lexing) : Except Fault Lexing :=
  if l.keys.any (fun entry => isStale l.cursor entry.2 && entry.2.required) then
    .error .malformed
  else .ok { l with keys := l.keys.filter (fun entry => !isStale l.cursor entry.2) }

def saveKey (l : Lexing) : Except Fault Lexing :=
  if !l.keyAllowed then .ok l
  else do
    let required := l.depth == 0 && l.indent == (l.cursor.column : Int)
    let key := PendingKey.mk l.tokens.length required l.cursor.index l.cursor.line
      l.cursor.column
    let l ← l.dropKey
    .ok { l with keys := (l.depth, key) :: l.keys }

def unwind (column : Int) : Nat → Lexing → Lexing
  | 0, l => l
  | fuel + 1, l =>
    if l.depth == 0 && l.indent > column then
      unwind column fuel
        { l.emit .blockEnd with indent := l.outer.headD (-1), outer := l.outer.drop 1 }
    else l

def unwindTo (column : Int) (l : Lexing) : Lexing := l.unwind column (l.outer.length + 1)

def indents (column : Nat) (l : Lexing) : Bool := l.indent < (column : Int)

def enter (column : Nat) (l : Lexing) : Lexing :=
  { l with outer := l.indent :: l.outer, indent := column }

/-- Passes over white space, comments and line ends; outside of brackets a key may start
on a new line. -/
def skipToToken : Nat → Lexing → Lexing
  | 0, l => l
  | fuel + 1, l =>
    let c := (l.cursor.skipWhile (· == ' ')).skipComment
    if isBreak c.peek then
      skipToToken fuel { l with
        cursor := c.lineBreak.2
        keyAllowed := l.keyAllowed || l.depth == 0 }
    else { l with cursor := c }

def skipMark (l : Lexing) : Lexing :=
  if l.cursor.index == 0 && l.cursor.peek == '\uFEFF' then { l with cursor := l.cursor.next }
  else l

def take (count : Nat) (token : Token) (l : Lexing) : Lexing :=
  { l.emit token with cursor := l.cursor.skip count }

def finish (l : Lexing) : Except Fault Lexing := do
  let l ← (l.unwindTo (-1)).dropKey
  .ok ({ l with keyAllowed := false, keys := [] }.emit .streamEnd)

def directive (l : Lexing) : Except Fault Lexing := do
  let l ← (l.unwindTo (-1)).dropKey
  let (token, c) ← Token.directiveLine l.cursor
  .ok { l.emit token with cursor := c, keyAllowed := false }

def separator (token : Token) (l : Lexing) : Except Fault Lexing := do
  let l ← (l.unwindTo (-1)).dropKey
  .ok ({ l with keyAllowed := false }.take 3 token)

def openBracket (token : Token) (l : Lexing) : Except Fault Lexing := do
  let l ← l.saveKey
  .ok ({ l with depth := l.depth + 1, keyAllowed := true }.take 1 token)

def closeBracket (token : Token) (l : Lexing) : Except Fault Lexing := do
  let l ← l.dropKey
  .ok ({ l with depth := l.depth - 1, keyAllowed := false }.take 1 token)

def flowEntry (l : Lexing) : Except Fault Lexing := do
  let l ← { l with keyAllowed := true }.dropKey
  .ok (l.take 1 .flowEntry)

def blockEntry (l : Lexing) : Except Fault Lexing := do
  let column := l.cursor.column
  let l ←
    if l.depth != 0 then pure l
    else if !l.keyAllowed then .error .malformed
    else if l.indents column then pure ((l.enter column).emit .blockSequenceStart)
    else pure l
  let l ← { l with keyAllowed := true }.dropKey
  .ok (l.take 1 .blockEntry)

def explicitKey (l : Lexing) : Except Fault Lexing := do
  let column := l.cursor.column
  let l ←
    if l.depth != 0 then pure l
    else if !l.keyAllowed then .error .malformed
    else if l.indents column then pure ((l.enter column).emit .blockMappingStart)
    else pure l
  let l ← { l with keyAllowed := l.depth == 0 }.dropKey
  .ok (l.take 1 .key)

/-- A colon after a simple key: the key's token goes before it, and before that the start of
a block when the key is the first of one. -/
def colonAfter (key : PendingKey) (l : Lexing) : Lexing :=
  let l := l.forgetKey.insertAt key.position .key
  let l :=
    if l.depth == 0 && l.indents key.column then
      (l.enter key.column).insertAt key.position .blockMappingStart
    else l
  { l with keyAllowed := false }.take 1 .value

/-- A colon after a key that stands alone, or after none. -/
def colonAlone (l : Lexing) : Except Fault Lexing := do
  let column := l.cursor.column
  let l ←
    if l.depth != 0 then pure l
    else if !l.keyAllowed then .error .malformed
    else if l.indents column then pure ((l.enter column).emit .blockMappingStart)
    else pure l
  let l ← { l with keyAllowed := l.depth == 0 }.dropKey
  .ok (l.take 1 .value)

def colon (l : Lexing) : Except Fault Lexing :=
  match l.pending? with
  | some key => .ok (l.colonAfter key)
  | none => l.colonAlone

/-- A token that may be a simple key or start one. -/
def keyLike (read : Cursor → Except Fault (Token × Cursor)) (l : Lexing) :
    Except Fault Lexing := do
  let l ← l.saveKey
  let (token, c) ← read l.cursor
  .ok { l.emit token with cursor := c, keyAllowed := false }

def plain (l : Lexing) : Except Fault Lexing := do
  let l ← l.saveKey
  let (text, c, keyAllowed) := Token.plainScalar (l.depth != 0) (l.indent + 1)
    (l.cursor.rest.length + 1) false [] l.cursor
  .ok { l.emit (.scalar (.text text) true) with cursor := c, keyAllowed := keyAllowed }

def block (l : Lexing) : Except Fault Lexing := do
  let l ← { l with keyAllowed := true }.dropKey
  let (token, c) ← Token.blockScalar l.indent l.cursor
  .ok { l.emit token with cursor := c }

/-- Whether a plain scalar may start with a character, given the one after it. -/
def startsPlain (inFlow : Bool) (ch following : Char) : Bool :=
  !(isBlankOrEnd ch || isIndicator ch) ||
    (!isBlankOrEnd following && (ch == '-' || (!inFlow && (ch == '?' || ch == ':'))))

def token (l : Lexing) : Except Fault Lexing :=
  let c := l.cursor
  let ch := c.peek
  let inFlow := l.depth != 0
  let following := c.peekAt 1
  if c.rest.isEmpty then l.finish
  else if ch == '%' && c.column == 0 then l.directive
  else if c.column == 0 && c.atMark '-' then l.separator .documentStart
  else if c.column == 0 && c.atMark '.' then l.separator .documentEnd
  else if ch == '[' then l.openBracket .flowSequenceStart
  else if ch == '\x7b' then l.openBracket .flowMappingStart
  else if ch == ']' then l.closeBracket .flowSequenceEnd
  else if ch == '\x7d' then l.closeBracket .flowMappingEnd
  else if ch == ',' then l.flowEntry
  else if ch == '-' && isBlankOrEnd following then l.blockEntry
  else if ch == '?' && (inFlow || isBlankOrEnd following) then l.explicitKey
  else if ch == ':' && (inFlow || isBlankOrEnd following) then l.colon
  else if ch == '*' then
    l.keyLike (fun c => (Token.anchorName c.next).map (fun (name, c) => (.alias name, c)))
  else if ch == '&' then
    l.keyLike (fun c => (Token.anchorName c.next).map (fun (name, c) => (.anchor name, c)))
  else if ch == '!' then
    l.keyLike (fun c => (Token.tagName c).map (fun (tag, c) => (.tag tag, c)))
  else if (ch == '|' || ch == '>') && !inFlow then l.block
  else if ch == '\'' || ch == '"' then l.keyLike Token.quotedScalar
  else if startsPlain inFlow ch following then l.plain
  else .error .malformed

/-- The least position of the pending keys: tokens from there on are not known for sure
before the text after them has been looked at. -/
def firstPending (l : Lexing) : Nat :=
  (l.keys.map (fun entry => entry.2.position)).foldl min l.tokens.length

/-- The tokens from the present state on. Where the text cannot be looked at, a token says
so in place of the first that is not known for sure. -/
def run : Nat → Lexing → Except Fault (List Token)
  | 0, _ => .error .malformed
  | fuel + 1, l => do
    let ready ← l.dropStale
    let next ← (ready.skipMark.skipToToken (ready.cursor.rest.length + 1)).dropStale
    let next := next.unwindTo next.cursor.column
    match next.token with
    | .ok l => if l.tokens.getLast? == some .streamEnd then .ok l.tokens else run fuel l
    | .error .malformed => .error .malformed
    | .error fault => .ok (ready.tokens.take ready.firstPending ++ [.broken fault])

end Lexing

def Token.ofText (s : List Char) : Except Fault (List Token) :=
  Lexing.run (s.length + 2) (.start s)

end ClusterManifest.Yaml
