import ClusterManifest.Text.Digit
import ClusterManifest.Text.Utf8
import ClusterManifest.Yaml.Cursor
import ClusterManifest.Yaml.Token

/-! The names in a YAML text: anchors and aliases, tags, and directives. -/

namespace ClusterManifest.Yaml.Token

/-- A name of at least one character. -/
def name (c : Cursor) : Except Fault (List Char × Cursor) :=
  let (run, after) := c.span isNameChar
  if run.isEmpty then .error .malformed else .ok (run, after)

def anchorName (c : Cursor) : Except Fault (List Char × Cursor) := do
  let (run, after) ← name c
  if isBlankOrEnd after.peek || "?:,]\x7d%@\x60".toList.contains after.peek then .ok (run, after)
  else .error .malformed

/-- The bytes that escapes of two hexadecimal digits write, one or more in a row. -/
def escapedBytes : Nat → Cursor → Except Fault (Text.Bytes × Cursor)
  | 0, _ => .error .malformed
  | fuel + 1, c =>
    if c.peek == '%' then
      match Text.hexDigit? (c.peekAt 1), Text.hexDigit? (c.peekAt 2) with
      | some high, some low => do
        let (bytes, c) ← escapedBytes fuel (c.skip 3)
        .ok ((high * 16 + low).toUInt8 :: bytes, c)
      | _, _ => .error .malformed
    else .ok ([], c)

def tagChars : Nat → Cursor → Except Fault (List Char × Cursor)
  | 0, c => .ok ([], c)
  | fuel + 1, c =>
    if c.peek == '%' then do
      let (bytes, c) ← escapedBytes (c.rest.length + 1) c
      match Text.Utf8.decode bytes with
      | .error _ => .error .malformed
      | .ok chars =>
        let (more, c) ← tagChars fuel c
        .ok (chars ++ more, c)
    else
      let (run, after) := c.span (fun ch => isTagChar ch && ch != '%')
      if run.isEmpty then .ok ([], c)
      else do
        let (more, c) ← tagChars fuel after
        .ok (run ++ more, c)

def tagText (c : Cursor) : Except Fault (List Char × Cursor) :=
  if isTagChar c.peek then tagChars (c.rest.length + 1) c else .error .malformed

/-- A tag handle: one exclamation mark, or a name between two. -/
def handle (c : Cursor) : Except Fault (List Char × Cursor) :=
  if c.peek != '!' then .error .malformed
  else if c.peekAt 1 == ' ' then .ok (['!'], c.next)
  else
    let (run, after) := c.next.span isNameChar
    if after.peek == '!' then .ok ('!' :: run ++ ['!'], after.next) else .error .malformed

/-- Whether a tag has a second exclamation mark, so that it starts with a handle. -/
def hasHandle (s : List Char) : Bool :=
  (s.takeWhile (fun ch => !isSpaceOrEnd ch)).contains '!'

def tagName (c : Cursor) : Except Fault (TagName × Cursor) := do
  let (written, after) ←
    if c.peekAt 1 == '<' then do
      let (suffix, after) ← tagText (c.skip 2)
      if after.peek == '>' then pure (TagName.mk none suffix, after.next)
      else .error .malformed
    else if isBlankOrEnd (c.peekAt 1) then pure (TagName.mk none ['!'], c.next)
    else do
      let (start, after) ← if hasHandle c.next.rest then handle c else pure (['!'], c.next)
      let (suffix, after) ← tagText after
      pure (TagName.mk (some start) suffix, after)
  if isSpaceOrEnd after.peek then .ok (written, after) else .error .malformed

def versionNumber (c : Cursor) : Except Fault (Int × Cursor) :=
  let (digits, after) := c.span Text.isAsciiDigit
  if digits.isEmpty then .error .malformed
  else
    match Text.Numeral.read 10 digits with
    | .ok n => .ok (n, after)
    | .error fault => .error (.numeral fault)

def versionLine (c : Cursor) : Except Fault (Token × Cursor) := do
  let (major, c) ← versionNumber (c.skipWhile (· == ' '))
  if c.peek != '.' then .error .malformed
  else
    let (_, c) ← versionNumber c.next
    if isSpaceOrEnd c.peek then .ok (.version major, c) else .error .malformed

def tagHandleLine (c : Cursor) : Except Fault (Token × Cursor) := do
  let (start, c) ← handle (c.skipWhile (· == ' '))
  if c.peek != ' ' then .error .malformed
  else
    let (meaning, c) ← tagText (c.skipWhile (· == ' '))
    if isSpaceOrEnd c.peek then .ok (.tagHandle start meaning, c) else .error .malformed

def directiveLine (c : Cursor) : Except Fault (Token × Cursor) := do
  let (kind, c) ← name c.next
  if !isSpaceOrEnd c.peek then .error .malformed
  else
    let (token, c) ←
      if kind = "YAML".toList then versionLine c
      else if kind = "TAG".toList then tagHandleLine c
      else pure (.directive, c.skipWhile (fun ch => !isLineEnd ch))
    let c := (c.skipWhile (· == ' ')).skipComment
    if isLineEnd c.peek then .ok (token, c.lineBreak.2) else .error .malformed

end ClusterManifest.Yaml.Token
