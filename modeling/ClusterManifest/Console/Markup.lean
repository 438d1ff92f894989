import ClusterManifest.Console.Emoji
import ClusterManifest.Console.Style

/-! Markup for a console: tags in square brackets switch styles on and off, and a backslash
before a tag takes its meaning away. Rendering drops the tags; escaping a text makes one whose
brackets are no tags. A tag whose name starts with an at sign sets what is to happen with the
text, by a literal in a notation of its own. -/

namespace ClusterManifest.Console

/-- How such literals are read. -/
class LiteralReader where
  /-- What is said of one that cannot be read. -/
  problem? : List Char → Option String

namespace HandlerNames

def isHandlerSign (c : Char) : Bool := c.isAlphanum || c == '_' || c == '.'

/-- Knows the names of handlers, with no arguments in brackets after them. -/
scoped instance : LiteralReader where
  problem? literal :=
    let rest := (Text.trim literal).dropWhile isHandlerSign
    if rest.isEmpty || rest == ['(', ')'] then none
    else some (Text.quotedString (String.ofList literal))

end HandlerNames

end ClusterManifest.Console

namespace ClusterManifest.Console.Markup

/-- A part of a markup text: a run of plain text, or a tag, given by what stands between its
brackets, with the backslashes before it. -/
inductive Piece
  | plain (text : List Char)
  | tag (backslashes : Nat) (inner : List Char)
  deriving DecidableEq, Repr

def startsTag (c : Char) : Bool :=
  ('a' ≤ c && c ≤ 'z') || c == '#' || c == '/' || c == '@'

/-- A tag at the start of a text, without its brackets, and what follows it. No bracket opens
within a tag, and the first one that closes ends it. -/
def tag? : List Char → Option (List Char × List Char)
  | '[' :: c :: rest =>
    let inner := rest.takeWhile (fun c => c != ']' && c != '[')
    match rest.dropWhile (fun c => c != ']' && c != '[') with
    | ']' :: after => if startsTag c then some (c :: inner, after) else none
    | _ => none
  | _ => none

theorem length_after_tag {s inner after : List Char} (h : tag? s = some (inner, after)) :
    after.length < s.length := by
  unfold tag? at h
  split at h
  · next c rest =>
    have shorter := (List.dropWhile_suffix (l := rest) (fun c => c != ']' && c != '[')).length_le
    split at h
    · next found =>
      split at h
      · cases h
        rw [found, List.length_cons] at shorter
        simp only [List.length_cons]
        omega
      · simp at h
    · simp at h
  · simp at h

/-- A plain character before pieces, in one run with the plain text that follows. -/
def pushPlain (c : Char) : List Piece → List Piece
  | .plain text :: pieces => .plain (c :: text) :: pieces
  | pieces => .plain [c] :: pieces

def isBackslash (c : Char) : Bool := c == '\\'

def pieces (s : List Char) : List Piece :=
  match s with
  | [] => []
  | c :: rest =>
    match h : tag? ((c :: rest).dropWhile isBackslash) with
    | some (inner, after) =>
      have : after.length < (c :: rest).length :=
        Nat.lt_of_lt_of_le (length_after_tag h)
          (List.dropWhile_suffix (l := c :: rest) isBackslash).length_le
      .tag ((c :: rest).takeWhile isBackslash).length inner :: pieces after
    | none => pushPlain c (pieces rest)
termination_by s.length
decreasing_by
  · assumption
  · exact Nat.lt_succ_self rest.length

def Piece.text : Piece → List Char
  | .plain text => text
  | .tag backslashes inner => List.replicate backslashes '\\' ++ '[' :: inner ++ [']']

def Piece.escaped : Piece → List Char
  | .plain text => text
  | .tag backslashes inner =>
    List.replicate (2 * backslashes) '\\' ++ '\\' :: '[' :: inner ++ [']']

/-- A text whose last character is a single backslash gets a second one, so that nothing after
it is escaped by it. -/
def closeBackslash (s : List Char) : List Char :=
  match s.reverse with
  | '\\' :: '\\' :: _ => s
  | '\\' :: _ => s ++ ['\\']
  | _ => s

def escape (s : List Char) : List Char :=
  closeBackslash ((pieces s).flatMap Piece.escaped)

/-- A tag that opens a style: the style's name in normal form, and the parameters that may stand
after an equals sign. -/
structure Tag where
  name : List Char
  parameters : Option (List Char)
  deriving DecidableEq, Repr

/-- The style of a tag, as it is looked up when the text is printed. -/
def Tag.style (tag : Tag) : List Char :=
  match tag.parameters with
  | none => tag.name
  | some parameters => tag.name ++ ' ' :: parameters

/-- What is wrong with a tag that is closed: with the parameters of one that sets no style but
an action, whose name starts with an at sign. -/
def Tag.problem? [LiteralReader] (tag : Tag) : Option String :=
  if tag.name.head? == some '@' then
    (tag.parameters.filter (fun parameters => !parameters.isEmpty)).bind LiteralReader.problem?
  else none

/-- What a tag does: it opens a style, or it closes the innermost one, or the innermost one of a
name. -/
inductive Sign
  | opening (tag : Tag)
  | closing (name? : Option (List Char))
  deriving DecidableEq, Repr

def nameOf (inner : List Char) : List Char := inner.takeWhile (· != '=')

def parametersOf? (inner : List Char) : Option (List Char) :=
  match inner.dropWhile (· != '=') with
  | _ :: parameters => some parameters
  | [] => none

def signOf (inner : List Char) : Except Text.Numeral.Fault Sign :=
  match nameOf inner with
  | '/' :: name =>
    let name := Text.trim name
    if name.isEmpty then .ok (.closing none)
    else (Style.normalName name).map (fun name => .closing (some name))
  | name => (Style.normalName name).map (fun name => .opening ⟨name, parametersOf? inner⟩)

def closes (name? : Option (List Char)) (tag : Tag) : Bool := name?.all (· == tag.name)

/-- Why a markup text cannot be shown. -/
inductive Fault
  /-- A tag that closes a style by name, which no open tag switches on. -/
  | notOpen (tag : List Char) (position : Nat)
  /-- A tag that closes the innermost style, where none is open. -/
  | nothingOpen (position : Nat)
  /-- The parameters of an action cannot be read. -/
  | parameters (problem : String)
  /-- A number in a colour cannot be read. -/
  | colour (fault : Text.Numeral.Fault)
  deriving DecidableEq, Repr

def Fault.message : Fault → String
  | .notOpen tag position =>
    "closing tag '[" ++ String.ofList tag ++ "]' at position " ++ toString position ++
      " doesn't match any open tag"
  | .nothingOpen position =>
    "closing tag '[/]' at position " ++ toString position ++ " has nothing to close"
  | .parameters problem => "error parsing " ++ problem
  | .colour fault => fault.message

def Fault.unclosed (inner : List Char) (position : Nat) : Option (List Char) → Fault
  | some _ => .notOpen inner position
  | none => .nothingOpen position

/-- Opening brackets within plain text, without the backslash that may stand before them. -/
def plainBrackets : List Char → List Char
  | '\\' :: '[' :: rest => '[' :: plainBrackets rest
  | c :: rest => c :: plainBrackets rest
  | [] => []

def shown (text : List Char) : List Char := Emoji.replace (plainBrackets text)

/-- Characters that control a terminal, which are not printed. -/
def isDropped (c : Char) : Bool :=
  let n := c.toNat
  n == 7 || n == 8 || (11 ≤ n && n ≤ 13)

/-- A style, what is shown in it, and how much is printed before that. -/
structure Span where
  start : Nat
  text : List Char
  style : List Char
  deriving DecidableEq, Repr

/-- What a markup text shows, with the styles of it, each in its turn as it is closed. -/
structure Rendering where
  text : List Char
  spans : List Span
  deriving DecidableEq, Repr

/-- A style that was opened: its tag, and how much was shown before. -/
structure Opened where
  before : Nat
  tag : Tag
  deriving DecidableEq, Repr

def Opened.span (opened : Opened) (told : List Char) : Span :=
  ⟨((told.take opened.before).filter (fun c => !isDropped c)).length, told.drop opened.before,
    opened.tag.style⟩

/-- What pieces show after a text, given the open styles, innermost first, and where the first
piece stands. Of the backslashes before a tag two stand for one; a single one that is left makes
the tag plain. -/
def renderFrom [LiteralReader] (opened : List Opened) (position : Nat) (told : List Char) :
    List Piece → Except Fault Rendering
  | [] => .ok ⟨told, opened.map (·.span told)⟩
  | .plain text :: pieces => renderFrom opened (position + text.length) (told ++ shown text) pieces
  | .tag backslashes inner :: pieces => do
    let next := position + backslashes + inner.length + 2
    let told := told ++ List.replicate (backslashes / 2) '\\'
    if backslashes % 2 = 1 then
      renderFrom opened next (told ++ shown ('[' :: inner ++ [']'])) pieces
    else
      match ← (signOf inner).mapError Fault.colour with
      | .opening tag => renderFrom (⟨told.length, tag⟩ :: opened) next told pieces
      | .closing name? =>
        match opened.find? (fun other => closes name? other.tag) with
        | none => .error (.unclosed inner (position + backslashes) name?)
        | some closed =>
          match closed.tag.problem? with
          | some problem => .error (.parameters problem)
          | none =>
            let opened := opened.eraseP (fun other => closes name? other.tag)
            let rest ← renderFrom opened next told pieces
            return { rest with spans := closed.span told :: rest.spans }

/-- A text that is printed in parts, for its lines or the blanks in the place of tabs. -/
def isDivided (text : List Char) : Bool := text.contains '\n' || text.contains '\t'

def isMark (c : Char) : Bool := c != '\n' && !isDropped c

/-- Of a text that is printed in parts a style is dropped when nothing stands in it. -/
def Span.isKept (span : Span) (divided : Bool) : Bool := !divided || span.text.any isMark

def Span.insert (span : Span) : List Span → List Span
  | [] => [span]
  | other :: spans =>
    if other.start ≤ span.start then other :: span.insert spans else span :: other :: spans

/-- The styles in the order in which they are looked up: by where they start, and of those that
start together the one that was closed last comes first. -/
def Rendering.ordered (rendering : Rendering) : List Span := rendering.spans.foldr Span.insert []

def styleFault? (style : List Char) : Option Text.Numeral.Fault :=
  match Style.ofText style with
  | .ok _ => none
  | .error fault => some fault

/-- The first style that cannot be looked up. -/
def Rendering.fault? (rendering : Rendering) : Option Text.Numeral.Fault :=
  (rendering.ordered.filter (·.isKept (isDivided rendering.text))).findSome?
    (fun span => styleFault? span.style)

/-- The text that is printed for a markup text. -/
def render [LiteralReader] (s : List Char) : Except Fault (List Char) := do
  let rendering ← renderFrom [] 0 [] (pieces s)
  match rendering.fault? with
  | some fault => .error (.colour fault)
  | none => return rendering.text

theorem text_pushPlain (c : Char) (ps : List Piece) :
    (pushPlain c ps).flatMap Piece.text = c :: ps.flatMap Piece.text := by
  unfold pushPlain
  split <;> simp [Piece.text]

end ClusterManifest.Console.Markup
