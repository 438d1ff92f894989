import ClusterManifest.Text.Digit
import ClusterManifest.Yaml.Cursor
import ClusterManifest.Yaml.Token

/-! The scalars of a YAML text: quoted, plain and block. Line breaks inside of a scalar are
folded: a single one becomes a space, and of several the first is dropped. -/

namespace ClusterManifest.Yaml.Token

/-- Line breaks and the white space around them, from the start of a line on: the breaks,
and the place at the first character of text. A document may not end inside of quotes. -/
def quotedBreaks : Nat → Cursor → Except Fault (List Char × Cursor)
  | 0, _ => .error .malformed
  | fuel + 1, c =>
    if c.atSeparator then .error .malformed
    else
      let c := c.skipWhile isSpaceOrTab
      if isBreak c.peek then do
        let (first, c) := c.lineBreak
        let (breaks, c) ← quotedBreaks fuel c
        .ok (first ++ breaks, c)
      else .ok ([], c)

def folded (first breaks : List Char) : List Char :=
  if first != ['\n'] then first ++ breaks
  else if breaks.isEmpty then [' ']
  else breaks

def quotedSpace (c : Cursor) : Except Fault (List Char × Cursor) :=
  let (blanks, c) := c.span isSpaceOrTab
  if c.rest.isEmpty then .error .malformed
  else if isBreak c.peek then do
    let (first, c) := c.lineBreak
    let (breaks, c) ← quotedBreaks (c.rest.length + 1) c
    .ok (folded first breaks, c)
  else .ok (blanks, c)

def escape? : Char → Option Text.CodePoint
  | '0' => some 0
  | 'a' => some 7
  | 'b' => some 8
  | 't' => some 9
  | '\t' => some 9
  | 'n' => some 10
  | 'v' => some 11
  | 'f' => some 12
  | 'r' => some 13
  | 'e' => some 27
  | ' ' => some 32
  | '"' => some 34
  | '\\' => some 92
  | '/' => some 47
  | 'N' => some 0x85
  | '_' => some 0xA0
  | 'L' => some 0x2028
  | 'P' => some 0x2029
  | _ => none

def escapeWidth? : Char → Option Nat
  | 'x' => some 2
  | 'u' => some 4
  | 'U' => some 8
  | _ => none

def escapedCode (width : Nat) (c : Cursor) : Except Fault (Text.CodePoint × Cursor) :=
  let digits := (c.rest.take width).filterMap Text.hexDigit?
  if digits.length < width then .error .malformed
  else
    let code := Text.ofDigits 16 digits
    if bounded : code < 0x110000 then .ok (⟨code, bounded⟩, c.skip width)
    else if code < 0x80000000 then .error .codePoint
    else .error .codePointRange

/-- What an escape stands for, from the character after the backslash on. -/
def escaped (c : Cursor) : Except Fault (List Text.CodePoint × Cursor) :=
  match escape? c.peek with
  | some code => .ok ([code], c.next)
  | none =>
    match escapeWidth? c.peek with
    | some width => do
      let (code, c) ← escapedCode width c.next
      .ok ([code], c)
    | none =>
      if isBreak c.peek then do
        let c := c.lineBreak.2
        let (breaks, c) ← quotedBreaks (c.rest.length + 1) c
        .ok (breaks.map Text.CodePoint.ofChar, c)
      else .error .malformed

def doubleQuoted : Nat → Cursor → Except Fault (List Text.CodePoint × Cursor)
  | 0, _ => .error .malformed
  | fuel + 1, c =>
    if c.peek == '"' then .ok ([], c.next)
    else if c.peek == '\\' then do
      let (codes, c) ← escaped c.next
      let (more, c) ← doubleQuoted fuel c
      .ok (codes ++ more, c)
    else if isBlankOrEnd c.peek then do
      let (blanks, c) ← quotedSpace c
      let (more, c) ← doubleQuoted fuel c
      .ok (blanks.map Text.CodePoint.ofChar ++ more, c)
    else do
      let (more, next) ← doubleQuoted fuel c.next
      .ok (.ofChar c.peek :: more, next)

/-- The text of a scalar in single quotes, up to the closing one: two quotes in a row stand
for one. -/
def singleQuoted : Nat → Cursor → Except Fault (List Char × Cursor)
  | 0, _ => .error .malformed
  | fuel + 1, c =>
    if c.peek == '\'' then
      if c.peekAt 1 == '\'' then do
        let (more, c) ← singleQuoted fuel (c.skip 2)
        .ok ('\'' :: more, c)
      else .ok ([], c.next)
    else if isBlankOrEnd c.peek then do
      let (blanks, c) ← quotedSpace c
      let (more, c) ← singleQuoted fuel c
      .ok (blanks ++ more, c)
    else do
      let (more, next) ← singleQuoted fuel c.next
      .ok (c.peek :: more, next)

def quotedScalar (c : Cursor) : Except Fault (Token × Cursor) :=
  if c.peek == '"' then do
    let (codes, c) ← doubleQuoted (c.rest.length + 1) c.next
    .ok (.scalar (.ofCodes codes) false, c)
  else do
    let (text, c) ← singleQuoted (c.rest.length + 1) c.next
    .ok (.scalar (.text text) false, c)

/-- Whether a plain scalar stops before a character, given the one after it. -/
def endsPlain (inFlow : Bool) (ch following : Char) : Bool :=
  isBlankOrEnd ch ||
    (ch == ':' && (isBlankOrEnd following || (inFlow && isFlowIndicator following))) ||
    (inFlow && (isFlowIndicator ch || ch == '?'))

def plainRun (inFlow : Bool) : List Char → List Char
  | [] => []
  | ch :: rest =>
    if endsPlain inFlow ch (rest.headD '\x00') then [] else ch :: plainRun inFlow rest

/-- Line breaks between the lines of a plain scalar; none when a document ends first. -/
def plainBreaks : Nat → Cursor → Option (List Char) × Cursor
  | 0, c => (none, c)
  | fuel + 1, c =>
    let c := c.skipWhile (· == ' ')
    if isBreak c.peek then
      let (first, c) := c.lineBreak
      if c.atSeparator then (none, c)
      else
        match plainBreaks fuel c with
        | (some breaks, c) => (some (first ++ breaks), c)
        | (none, c) => (none, c)
    else (some [], c)

/-- White space inside of a plain scalar, folded; the place after it, and whether lines end
in it. Nothing when the scalar is over. -/
def plainSpace (c : Cursor) : List Char × Cursor × Bool :=
  let (blanks, c) := c.span (· == ' ')
  if isBreak c.peek then
    let (first, c) := c.lineBreak
    if c.atSeparator then ([], c, true)
    else
      match plainBreaks (c.rest.length + 1) c with
      | (none, c) => ([], c, true)
      | (some breaks, c) => (folded first breaks, c, true)
  else (blanks, c, false)

/-- A plain scalar within lines indented by at least `indent`: its text, the place after
it, and whether a key may start there, which is so when its last line has ended. -/
def plainScalar (inFlow : Bool) (indent : Int) :
    Nat → Bool → List Char → Cursor → List Char × Cursor × Bool
  | 0, keyAllowed, _, c => ([], c, keyAllowed)
  | fuel + 1, keyAllowed, space, c =>
    let run := plainRun inFlow c.rest
    if c.peek == '#' || run.isEmpty then ([], c, keyAllowed)
    else
      let (blanks, after, ended) := plainSpace (c.skip run.length)
      if blanks.isEmpty || after.peek == '#' || (!inFlow && (after.column : Int) < indent) then
        (space ++ run, after, ended)
      else
        let (more, c, keyAllowed) := plainScalar inFlow indent fuel ended blanks after
        (space ++ run ++ more, c, keyAllowed)

/-- What the line ends of a block scalar's end become: dropped, one kept, or all kept. -/
inductive Chomping
  | strip
  | clip
  | keep
  deriving DecidableEq, Repr

def chomping? : Char → Option Chomping
  | '+' => some .keep
  | '-' => some .strip
  | _ => none

/-- An indentation between one and nine; an error for a zero. -/
def increment? (ch : Char) : Except Fault (Option Nat) :=
  if !Text.isAsciiDigit ch then .ok none
  else if ch == '0' then .error .malformed
  else .ok (some (Text.asciiDigitValue ch))

/-- The header of a block scalar: its chomping and its indentation, in either order, and
nothing else on the line but a comment. -/
def blockHeader (c : Cursor) : Except Fault (Chomping × Option Nat × Cursor) := do
  let (chomping, increment, c) ←
    match chomping? c.peek with
    | some chomping => do
      match (← increment? c.next.peek) with
      | some n => pure (chomping, some n, c.skip 2)
      | none => pure (chomping, none, c.next)
    | none => do
      match (← increment? c.peek) with
      | some n =>
        match chomping? c.next.peek with
        | some chomping => pure (chomping, some n, c.skip 2)
        | none => pure (.clip, some n, c.next)
      | none => pure (.clip, none, c)
  if !isSpaceOrEnd c.peek then .error .malformed
  else
    let c := (c.skipWhile (· == ' ')).skipComment
    if !isLineEnd c.peek then .error .malformed
    else .ok (chomping, increment, c.lineBreak.2)

/-- The place after at most as many spaces as lead to a column. -/
def skipToColumn (indent : Nat) (c : Cursor) : Cursor :=
  c.skip ((c.rest.take (indent - c.column)).takeWhile (· == ' ')).length

def blockBreaks (indent : Nat) : Nat → Cursor → List Char × Cursor
  | 0, c => ([], c)
  | fuel + 1, c =>
    let c := skipToColumn indent c
    if isBreak c.peek then
      let (first, c) := c.lineBreak
      let (breaks, c) := blockBreaks indent fuel c
      (first ++ breaks, c)
    else ([], c)

/-- Empty lines before the first line of text, and the furthest column among them. -/
def blockIndentation : Nat → Nat → Cursor → List Char × Nat × Cursor
  | 0, column, c => ([], column, c)
  | fuel + 1, column, c =>
    if c.peek == ' ' then blockIndentation fuel (max column c.next.column) c.next
    else if isBreak c.peek then
      let (first, c) := c.lineBreak
      let (breaks, column, c) := blockIndentation fuel column c
      (first ++ breaks, column, c)
    else ([], column, c)

/-- The lines of a block scalar from one of text on: their text, the last line break, and
the breaks of the empty lines after it. -/
def blockLines (fold : Bool) (indent : Nat) :
    Nat → Cursor → List Char × List Char × List Char × Cursor
  | 0, c => ([], [], [], c)
  | fuel + 1, c =>
    let startsBlank := isSpaceOrTab c.peek
    let (line, c) := c.span (fun ch => !isLineEnd ch)
    let (first, c) := c.lineBreak
    let (breaks, c) := blockBreaks indent (c.rest.length + 1) c
    if c.column = indent && !c.rest.isEmpty then
      let joint :=
        if fold && first == ['\n'] && !startsBlank && !isSpaceOrTab c.peek then
          (if breaks.isEmpty then [' '] else [])
        else first
      let (more, last, tail, c) := blockLines fold indent fuel c
      (line ++ joint ++ breaks ++ more, last, tail, c)
    else (line, first, breaks, c)

/-- A block scalar, from its indicator on, in a block whose lines are indented to
`parent`. -/
def blockScalar (parent : Int) (c : Cursor) : Except Fault (Token × Cursor) := do
  let fold := c.peek == '>'
  let (chomping, increment, c) ← blockHeader c.next
  let least := (max (parent + 1) 1).toNat
  let fuel := c.rest.length + 1
  let (indent, breaks, c) :=
    match increment with
    | some n =>
      let indent := least + n - 1
      let (breaks, c) := blockBreaks indent fuel c
      (indent, breaks, c)
    | none =>
      let (breaks, column, c) := blockIndentation fuel 0 c
      (max least column, breaks, c)
  let (text, last, tail, c) :=
    if c.column = indent && !c.rest.isEmpty then
      let (text, last, tail, c) := blockLines fold indent fuel c
      (breaks ++ text, last, tail, c)
    else ([], [], breaks, c)
  let ending :=
    match chomping with
    | .strip => []
    | .clip => last
    | .keep => last ++ tail
  .ok (.scalar (.text (text ++ ending)) false, c)

end ClusterManifest.Yaml.Token
