import ClusterManifest.Proofs.Yaml.Arrival

/-! What is taken where a sign stands: hyphens and marks that may open a block, brackets with
nothing between them, and the end of the text. -/

namespace ClusterManifest.Yaml.Lexing

/-- A block opens where the column lies further right than the one around it. -/
def opened (start : Token) (l : Lexing) : Lexing :=
  if l.indents l.cursor.column then (l.enter l.cursor.column).emit start else l

theorem opened_of_lt {l : Lexing} (start : Token) (further : l.indent < l.cursor.column) :
    l.opened start = { l with
      tokens := l.tokens ++ [start], indent := l.cursor.column, outer := l.indent :: l.outer } := by
  simp [opened, indents, further, enter, emit]

theorem opened_of_le {l : Lexing} {start : Token} (within : l.cursor.column ≤ l.indent) :
    l.opened start = l := by
  simp [opened, indents, Int.not_lt.mpr within]

/-- A place where a token is due and a key may start. -/
structure AtEntry (l : Lexing) : Prop where
  depth : l.depth = 0
  allowed : l.keyAllowed = true
  keys : l.keys = []

theorem AtEntry.opened {l : Lexing} (entry : AtEntry l) (start : Token) :
    AtEntry (l.opened start) := by
  obtain ⟨depth, allowed, keys⟩ := entry
  unfold Lexing.opened
  split
  · exact ⟨depth, allowed, keys⟩
  · exact ⟨depth, allowed, keys⟩

theorem blockEntry_taken {l : Lexing} (entry : AtEntry l) :
    l.blockEntry = .ok { l.opened .blockSequenceStart with
      cursor := l.cursor.next
      tokens := (l.opened .blockSequenceStart).tokens ++ [.blockEntry] } := by
  obtain ⟨cursor, tokens, indent, outer, depth, allowed, keys⟩ := l
  obtain ⟨rfl, rfl, rfl⟩ := entry
  by_cases further : indent < cursor.column <;>
    simp [blockEntry, opened, indents, further, enter, emit, dropKey, pending?, take,
      Cursor.skip, bind, Except.bind, pure, Except.pure]

theorem explicitKey_taken {l : Lexing} (entry : AtEntry l) :
    l.explicitKey = .ok { l.opened .blockMappingStart with
      cursor := l.cursor.next
      tokens := (l.opened .blockMappingStart).tokens ++ [.key] } := by
  obtain ⟨cursor, tokens, indent, outer, depth, allowed, keys⟩ := l
  obtain ⟨rfl, rfl, rfl⟩ := entry
  by_cases further : indent < cursor.column <;>
    simp [explicitKey, opened, indents, further, enter, emit, dropKey, pending?, take,
      Cursor.skip, bind, Except.bind, pure, Except.pure]

theorem colonAlone_taken {l : Lexing} (entry : AtEntry l)
    (inside : l.cursor.column ≤ l.indent) :
    l.colonAlone = .ok { l with cursor := l.cursor.next, tokens := l.tokens ++ [.value] } := by
  obtain ⟨cursor, tokens, indent, outer, depth, allowed, keys⟩ := l
  obtain ⟨rfl, rfl, rfl⟩ := entry
  have inside : ¬indent < cursor.column := Int.not_lt.mpr inside
  simp [colonAlone, indents, inside, emit, dropKey, pending?, take, Cursor.skip, bind,
    Except.bind, pure, Except.pure]

theorem not_atMark_of_blank {c : Cursor} {x y : Char} {t : List Char} (mark : Char)
    (here : c.rest = x :: y :: t) (blank : isBlankOrEnd y = true)
    (solid : isBlankOrEnd mark = false) : c.atMark mark = false := by
  have differ : y ≠ mark := by
    rintro rfl
    rw [solid] at blank
    cases blank
  simp [Cursor.atMark, here, differ]

/-- Neither end of a document starts with a sign before blanks. -/
theorem not_marks {c : Cursor} {x y : Char} {t : List Char} (here : c.rest = x :: y :: t)
    (blank : isBlankOrEnd y = true) : c.atMark '-' = false ∧ c.atMark '.' = false :=
  ⟨not_atMark_of_blank '-' here blank rfl, not_atMark_of_blank '.' here blank rfl⟩

theorem token_hyphen {l : Lexing} {x : Char} {t : List Char} (entry : AtEntry l)
    (here : l.cursor.rest = '-' :: x :: t) (blank : isBlankOrEnd x = true) :
    l.token = .ok { l.opened .blockSequenceStart with
      cursor := l.cursor.next
      tokens := (l.opened .blockSequenceStart).tokens ++ [.blockEntry] } := by
  have marks := not_marks here blank
  rw [← blockEntry_taken entry]
  simp [token, Cursor.peek, Cursor.peekAt, here, marks, blank]

theorem token_question {l : Lexing} {x : Char} {t : List Char} (entry : AtEntry l)
    (here : l.cursor.rest = '?' :: x :: t) (blank : isBlankOrEnd x = true) :
    l.token = .ok { l.opened .blockMappingStart with
      cursor := l.cursor.next
      tokens := (l.opened .blockMappingStart).tokens ++ [.key] } := by
  have marks := not_marks here blank
  rw [← explicitKey_taken entry]
  simp [token, Cursor.peek, Cursor.peekAt, here, marks, blank]

theorem token_colon {l : Lexing} {x : Char} {t : List Char}
    (here : l.cursor.rest = ':' :: x :: t) (blank : isBlankOrEnd x = true) :
    l.token = l.colon := by
  have marks := not_marks here blank
  simp [token, Cursor.peek, Cursor.peekAt, here, marks, blank]

theorem token_colonAlone {l : Lexing} {x : Char} {t : List Char} (entry : AtEntry l)
    (here : l.cursor.rest = ':' :: x :: t) (blank : isBlankOrEnd x = true)
    (inside : l.cursor.column ≤ l.indent) :
    l.token = .ok { l with cursor := l.cursor.next, tokens := l.tokens ++ [.value] } := by
  rw [token_colon here blank, ← colonAlone_taken entry inside]
  simp [colon, pending?, entry.keys]

/-- Where no key is pending and none may start, a colon has nothing to belong to. -/
theorem token_colonLost {l : Lexing} {x : Char} {t : List Char} (depth : l.depth = 0)
    (keys : l.keys = []) (forbidden : l.keyAllowed = false)
    (here : l.cursor.rest = ':' :: x :: t) (blank : isBlankOrEnd x = true) :
    l.token = .error .malformed := by
  rw [token_colon here blank]
  simp [colon, pending?, keys, colonAlone, depth, forbidden, bind, Except.bind]

theorem token_colonAfter {l : Lexing} {key : PendingKey} {tokens : List Token} {token : Token}
    {x : Char} {t : List Char} (depth : l.depth = 0) (keys : l.keys = [(0, key)])
    (taken : l.tokens = tokens ++ [token]) (position : key.position = tokens.length)
    (here : l.cursor.rest = ':' :: x :: t) (blank : isBlankOrEnd x = true) :
    l.token = .ok { l with
      cursor := l.cursor.next, keyAllowed := false, keys := []
      indent := if l.indent < key.column then key.column else l.indent
      outer := if l.indent < key.column then l.indent :: l.outer else l.outer
      tokens := tokens ++ (if l.indent < key.column then [.blockMappingStart] else []) ++
        [.key, token, .value] } := by
  rw [token_colon here blank]
  have pending : l.pending? = some key := by simp [pending?, keys, depth]
  have forgotten : l.forgetKey = { l with keys := [] } := by simp [forgetKey, keys, depth]
  simp only [colon, pending, colonAfter, forgotten]
  by_cases further : l.indent < key.column
  · simp [insertAt, indents, enter, take, emit, depth, further, taken, position, Cursor.skip]
  · simp [insertAt, indents, take, emit, depth, further, taken, position, Cursor.skip]

def after (tokens : List Token) (c : Cursor) (l : Lexing) : Lexing :=
  { l with cursor := c, tokens := l.tokens ++ tokens, keyAllowed := true, keys := [] }

/-- Rounds read some tokens up to a text that starts in a column of a line, if a condition
holds, and fail if not. Blocks indented further than the column have ended there. -/
def Reads (l : Lexing) (fits : Prop) (tokens : List Token) (column : Nat) (t : List Char) :
    Prop :=
  ∃ c, c.rest = t ∧ c.column = column ∧ Passes l fits ((l.after tokens c).unwindTo column)

/-- The same from a place where a token is due. The tokens come after those of a state that
may have a block more than the one at the place. -/
def Takes (m base : Lexing) (fits : Prop) (tokens : List Token) (column : Nat)
    (t : List Char) : Prop :=
  ∃ c, c.rest = t ∧ c.column = column ∧ Goes m fits ((base.after tokens c).unwindTo column)

theorem Takes.congr {m base : Lexing} {first second : Prop} {tokens : List Token} {column : Nat}
    {t : List Char} (takes : Takes m base first tokens column t) (same : first ↔ second) :
    Takes m base second tokens column t := by
  obtain ⟨c, rest, place, goes⟩ := takes
  exact ⟨c, rest, place, goes.congr same⟩

theorem reads_line {l : Lexing} {n : Nat} {t : List Char} (depth : l.depth = 0)
    (leaves : l.LeavesKeys) (here : l.cursor.rest = '\n' :: (List.replicate n ' ' ++ t))
    (starts : StartsToken t) : Reads l True [] n t := by
  have place := Cursor.skip_newLine here
  refine ⟨l.cursor.skip (n + 1), by rw [place], by rw [place], Leads.passes (.here ?_ ?_)⟩
  · rw [arrive_line depth leaves here starts]
    simp [after]
  · have shorter : (l.cursor.skip (n + 1)).rest.length ≤ l.cursor.rest.length := by
      rw [Cursor.rest_skip, List.length_drop]
      exact Nat.sub_le ..
    rw [cursor_unwindTo]
    exact shorter

/-- Keys at the outermost depth that began on the line and that nothing requires. -/
def FreeKeys (m : Lexing) (keys : List (Nat × PendingKey)) : Prop :=
  ∀ e ∈ keys, e.1 = 0 ∧ e.2.required = false ∧ e.2.line = m.cursor.line

theorem saveKey_value {l : Lexing} (depth : l.depth = 0) (keys : l.keys = [])
    (inside : l.indent < l.cursor.column) :
    ∃ keys, l.saveKey = .ok { l with keys := keys } ∧ l.FreeKeys keys := by
  obtain ⟨cursor, tokens, indent, outer, depth', allowed, keys'⟩ := l
  cases depth
  cases keys
  have free : (indent == (cursor.column : Int)) = false :=
    beq_eq_false_iff_ne.mpr (Int.ne_of_lt inside)
  cases allowed with
  | true =>
    refine ⟨[(0, ⟨tokens.length, false, cursor.index, cursor.line, cursor.column⟩)], ?_, ?_⟩
    · simp [saveKey, free, dropKey, pending?, bind, Except.bind]
    · intro e he
      rw [List.mem_singleton.mp he]
      exact ⟨rfl, rfl, rfl⟩
  | false => exact ⟨[], rfl, fun _ among => nomatch among⟩

theorem lookup_of_depth {keys : List (Nat × PendingKey)} (zero : ∀ e ∈ keys, e.1 = 0) :
    keys.lookup 1 = none := by
  induction keys with
  | nil => rfl
  | cons e keys ih =>
    have first := zero e (List.mem_cons_self ..)
    have differ : ((1 : Nat) == e.1) = false := by simp [first]
    rw [List.lookup_cons, differ]
    exact ih (fun d hd => zero d (List.mem_cons_of_mem _ hd))

/-- The state between two brackets. -/
def inBrackets (first : Token) (keys : List (Nat × PendingKey)) (m : Lexing) : Lexing :=
  { m with
    cursor := m.cursor.next, tokens := m.tokens ++ [first], depth := 1, keyAllowed := true
    keys := keys }

def behindBrackets (first last : Token) (keys : List (Nat × PendingKey)) (m : Lexing) : Lexing :=
  { m with
    cursor := m.cursor.next.next, tokens := m.tokens ++ [first, last], keyAllowed := false
    keys := keys }

variable {m : Lexing} {first last : Token} {keys : List (Nat × PendingKey)} {t : List Char}

theorem openBracket_taken (depth : m.depth = 0) (saved : m.saveKey = .ok { m with keys := keys }) :
    m.openBracket first = .ok (m.inBrackets first keys) := by
  simp [openBracket, saved, take, emit, depth, Cursor.skip, inBrackets, bind, Except.bind]

theorem inBrackets_arrive (free : m.FreeKeys keys) {y : Char}
    (here : m.cursor.next.rest = y :: t) (starts : StartsToken (y :: t)) :
    ∃ left, (m.inBrackets first keys).arrive = .ok (m.inBrackets first left) ∧
      m.FreeKeys left := by
  have arrived := @arrive_of (m.inBrackets first keys) m.cursor.next true
    (fun keys => skipToToken_spaces (n := 0) _ here starts)
    (peek_ne_of_startsToken here starts).2.2.1
    (fun e among _ => (free e among).2.1) (fun e among _ => (free e among).2.1)
  rw [unwindTo_of_brackets (by simp [inBrackets])] at arrived
  refine ⟨_, arrived, ?_⟩
  intro e among
  exact free e (List.mem_filter.mp (List.mem_filter.mp among).1).1

theorem closeBracket_taken (depth : m.depth = 0) (free : m.FreeKeys keys) :
    (m.inBrackets first keys).closeBracket last = .ok (m.behindBrackets first last keys) := by
  have none := lookup_of_depth (fun e among => (free e among).1)
  simp [closeBracket, dropKey, pending?, inBrackets, behindBrackets, none, take, emit, depth,
    Cursor.skip, bind, Except.bind]

theorem takes_brackets {x y : Char} {n : Nat} (depth : m.depth = 0) (keys : m.keys = [])
    (inside : m.indent < m.cursor.column)
    (here : m.cursor.rest = x :: y :: '\n' :: (List.replicate n ' ' ++ t))
    (starts : StartsToken t)
    (opens : ∀ l : Lexing, l.cursor.peek = x → l.cursor.rest ≠ [] →
      l.token = l.openBracket first)
    (closes : ∀ l : Lexing, l.cursor.peek = y → l.cursor.rest ≠ [] →
      l.token = l.closeBracket last)
    (printable : isPrintable x = true ∧ isPrintable y = true) (other : y ≠ ' ' ∧ y ≠ '#')
    (unfinished : first ≠ .streamEnd ∧ last ≠ .streamEnd) :
    Takes m m True [first, last] n t := by
  have next := Cursor.next_of_printable here printable.1
  have behind : m.cursor.next.rest = y :: '\n' :: (List.replicate n ' ' ++ t) := by rw [next]
  have next' := Cursor.next_of_printable behind printable.2
  have line : m.cursor.line ≤ m.cursor.next.next.line := Cursor.line_le_skip 2 m.cursor
  have rest : m.cursor.next.next.rest = '\n' :: (List.replicate n ' ' ++ t) := by rw [next']
  obtain ⟨keys₁, saved, free₁⟩ := saveKey_value depth keys inside
  have taken : m.token = .ok (m.inBrackets first keys₁) := by
    rw [opens m (Cursor.peek_of_rest here) (by simp [here])]
    exact openBracket_taken depth saved
  obtain ⟨keys₂, arrived, free₂⟩ := inBrackets_arrive free₁ behind
    (startsToken_cons printable.2 other.1 other.2)
  have taken' : (m.inBrackets first keys₂).token = .ok (m.behindBrackets first last keys₂) := by
    rw [closes _ (Cursor.peek_of_rest behind) (by simp [inBrackets, behind])]
    exact closeBracket_taken depth free₂
  have leaves : (m.behindBrackets first last keys₂).LeavesKeys := by
    intro e among
    obtain ⟨-, optional, same⟩ := free₂ e among
    exact ⟨optional, Nat.le_trans (Nat.le_of_eq same) line⟩
  obtain ⟨c, atText, column, passes⟩ :=
    reads_line (l := m.behindBrackets first last keys₂) depth leaves rest starts
  have same : (m.behindBrackets first last keys₂).after [] c = m.after [first, last] c := by
    simp [after, behindBrackets]
  rw [same] at passes
  have entered := Leads.passes (.here arrived (Nat.le_refl _))
  refine ⟨c, atText, column, ⟨_, taken, ?_, ?_, (entered.goes ⟨_, taken', ?_, ?_, passes⟩).congr
    (and_self_iff ..)⟩⟩
  · simp [Unfinished, inBrackets, unfinished.1]
  · simp [inBrackets, here, behind]
  · simp [Unfinished, behindBrackets, unfinished.2]
  · simp [inBrackets, behindBrackets, behind, rest]

end ClusterManifest.Yaml.Lexing
