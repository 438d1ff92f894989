import ClusterManifest.Yaml.Character

/-! A place in a YAML text: what is left of it, and how far the place is from the start of
the text and of its line. -/

namespace ClusterManifest.Yaml

structure Cursor where
  rest : List Char
  index : Nat
  line : Nat
  column : Nat
  deriving DecidableEq, Repr

namespace Cursor

def start (s : List Char) : Cursor := ⟨s, 0, 0, 0⟩

def peek (c : Cursor) : Char := c.rest.headD '\x00'

def peekAt (n : Nat) (c : Cursor) : Char := (c.rest.drop n).headD '\x00'

/-- The place after the next character. A carriage return before a line feed does not end
the line yet, and a byte order mark takes no column. -/
def next (c : Cursor) : Cursor :=
  match c.rest with
  | [] => c
  | ch :: rest =>
    if isBreak ch && !(ch == '\r' && rest.head? == some '\n') then
      ⟨rest, c.index + 1, c.line + 1, 0⟩
    else ⟨rest, c.index + 1, c.line, if ch == '\uFEFF' then c.column else c.column + 1⟩

def skip : Nat → Cursor → Cursor
  | 0, c => c
  | n + 1, c => skip n c.next

def span (p : Char → Bool) (c : Cursor) : List Char × Cursor :=
  let run := c.rest.takeWhile p
  (run, c.skip run.length)

def skipWhile (p : Char → Bool) (c : Cursor) : Cursor := (c.span p).2

/-- A line break as it is read, and the place after it: all kinds become a line feed but
for the two separators of Unicode. Nothing when the line does not end here. -/
def lineBreak (c : Cursor) : List Char × Cursor :=
  match c.rest with
  | '\r' :: '\n' :: _ => (['\n'], c.skip 2)
  | '\r' :: _ => (['\n'], c.next)
  | '\n' :: _ => (['\n'], c.next)
  | '\u0085' :: _ => (['\n'], c.next)
  | '\u2028' :: _ => (['\u2028'], c.next)
  | '\u2029' :: _ => (['\u2029'], c.next)
  | _ => ([], c)

def skipComment (c : Cursor) : Cursor :=
  if c.peek == '#' then c.skipWhile (fun ch => !isLineEnd ch) else c

/-- A mark of three equal characters that is not part of a longer word. -/
def atMark (mark : Char) (c : Cursor) : Bool :=
  c.rest.take 3 == [mark, mark, mark] && isBlankOrEnd (c.peekAt 3)

def atSeparator (c : Cursor) : Bool := c.atMark '-' || c.atMark '.'

end Cursor

end ClusterManifest.Yaml
