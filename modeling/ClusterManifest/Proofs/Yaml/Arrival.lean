import ClusterManifest.Proofs.Yaml.Lexing

/-! Where a round arrives: behind spaces on the same line, or on the next line, where every
pending key has been left behind and blocks that are indented further have ended. -/

namespace ClusterManifest.Yaml.Lexing

theorem unwindTo_of_le {l : Lexing} {column : Int} (within : l.indent ≤ column) :
    l.unwindTo column = l := by
  have still : ¬column < l.indent := by omega
  simp [unwindTo, unwind, still]

theorem unwindTo_of_brackets {l : Lexing} {column : Int} (brackets : l.depth ≠ 0) :
    l.unwindTo column = l := by
  simp [unwindTo, unwind, brackets]

theorem cursor_unwind (column : Int) (fuel : Nat) (l : Lexing) :
    (l.unwind column fuel).cursor = l.cursor := by
  induction fuel generalizing l with
  | zero => rfl
  | succ fuel ih =>
    rw [unwind]
    split
    · exact ih _
    · rfl

theorem cursor_unwindTo (column : Int) (l : Lexing) : (l.unwindTo column).cursor = l.cursor :=
  cursor_unwind ..

/-- A block that is indented further than a column ends there. -/
theorem unwindTo_block {l : Lexing} {column outside : Int} {outer : List Int}
    (blocks : l.outer = outside :: outer) (depth : l.depth = 0) (further : column < l.indent) :
    l.unwindTo column =
      ({ l with tokens := l.tokens ++ [.blockEnd], indent := outside, outer := outer } :
        Lexing).unwindTo column := by
  have opens : (l.depth == 0 && decide (l.indent > column)) = true := by simp [depth, further]
  simp only [unwindTo, blocks, List.length_cons]
  rw [unwind]
  simp only [opens, if_true, emit, blocks]
  rfl

theorem dropStale_eq {l : Lexing}
    (free : ∀ e ∈ l.keys, isStale l.cursor e.2 = true → e.2.required = false) :
    l.dropStale =
      .ok { l with keys := l.keys.filter (fun e => !isStale l.cursor e.2) } := by
  have none : l.keys.any (fun e => isStale l.cursor e.2 && e.2.required) = false := by
    rw [List.any_eq_false]
    intro e he
    cases stale : isStale l.cursor e.2 with
    | false => simp
    | true => simp [free e he stale]
  rw [dropStale, none]
  rfl

theorem peek_ne_of_startsToken {c : Cursor} {t : List Char} (here : c.rest = t)
    (starts : StartsToken t) : c.peek ≠ ' ' ∧ c.peek ≠ '#' ∧ c.peek ≠ '\uFEFF' ∧
      isBreak c.peek = false := by
  rw [Cursor.peek, here]
  cases t with
  | nil => decide
  | cons x t =>
    obtain ⟨printable, text, other⟩ := starts x rfl
    have unmarked : x ≠ '\uFEFF' := by
      rintro rfl
      exact absurd printable (by decide)
    exact ⟨text, other, unmarked, not_isBreak_of_printable printable⟩

theorem skip_spaces {c : Cursor} {n : Nat} {t : List Char}
    (here : c.rest = List.replicate n ' ' ++ t) (starts : StartsToken t) :
    (c.skipWhile (· == ' ')).skipComment = c.skip n := by
  have spaces := Cursor.skipWhile_spaces (p := (· == ' ')) here rfl
    (fun x first => beq_eq_false_iff_ne.mpr (starts x first).2.1)
  have text := peek_ne_of_startsToken (Cursor.rest_skip_spaces here) starts
  rw [spaces, Cursor.skipComment, beq_eq_false_iff_ne.mpr text.2.1]
  rfl

theorem skipToToken_spaces {l : Lexing} {n : Nat} {t : List Char} (fuel : Nat)
    (here : l.cursor.rest = List.replicate n ' ' ++ t) (starts : StartsToken t) :
    l.skipToToken (fuel + 1) = { l with cursor := l.cursor.skip n } := by
  have text := peek_ne_of_startsToken (Cursor.rest_skip_spaces here) starts
  simp only [skipToToken, skip_spaces here starts, text.2.2.2]
  rfl

theorem skipToToken_newLine {l : Lexing} {n : Nat} {t : List Char} (fuel : Nat)
    (here : l.cursor.rest = '\n' :: (List.replicate n ' ' ++ t)) (starts : StartsToken t)
    (depth : l.depth = 0) :
    l.skipToToken (fuel + 2) =
      { l with cursor := l.cursor.skip (n + 1), keyAllowed := true } := by
  have behind := Cursor.rest_next_cons here
  have still : (l.cursor.skipWhile (· == ' ')).skipComment = l.cursor := by
    have none : l.cursor.skipWhile (· == ' ') = l.cursor :=
      Cursor.skipWhile_eq (w := []) here (by simp) (by simp)
    rw [none, Cursor.skipComment, Cursor.peek_of_rest here]
    rfl
  have ended : isBreak l.cursor.peek = true := by
    rw [Cursor.peek_of_rest here]
    rfl
  rw [skipToToken]
  simp only [still, ended, if_true, Cursor.lineBreak_of_lineFeed here, depth]
  rw [skipToToken_spaces fuel behind starts]
  simp [Cursor.skip]

/-- What a round does before the token, given where it passes over white space to. -/
theorem arrive_of {l : Lexing} {c : Cursor} {allowed : Bool}
    (passed : ∀ keys, ({ l with keys := keys } : Lexing).skipToToken
      (l.cursor.rest.length + 1) = { l with keys := keys, cursor := c, keyAllowed := allowed })
    (unmarked : l.cursor.peek ≠ '\uFEFF')
    (before : ∀ e ∈ l.keys, isStale l.cursor e.2 = true → e.2.required = false)
    (after : ∀ e ∈ l.keys, isStale c e.2 = true → e.2.required = false) :
    l.arrive = .ok (({ l with
      cursor := c, keyAllowed := allowed
      keys := (l.keys.filter (fun e => !isStale l.cursor e.2)).filter
        (fun e => !isStale c e.2) } : Lexing).unwindTo c.column) := by
  have mark : ∀ keys, ({ l with keys := keys } : Lexing).skipMark = { l with keys := keys } := by
    intro keys
    simp [skipMark, unmarked]
  have still : ∀ e ∈ l.keys.filter (fun e => !isStale l.cursor e.2),
      isStale c e.2 = true → e.2.required = false :=
    fun e he => after e (List.mem_filter.mp he).1
  rw [arrive, dropStale_eq before]
  simp only [bind, Except.bind, mark, passed]
  rw [dropStale_eq still]

theorem arrive_spaces {l : Lexing} {n : Nat} {t : List Char} (keys : l.keys = [])
    (here : l.cursor.rest = List.replicate n ' ' ++ t) (starts : StartsToken t) :
    l.arrive = .ok (({ l with cursor := l.cursor.skip n } : Lexing).unwindTo
      (l.cursor.skip n).column) := by
  have unmarked : l.cursor.peek ≠ '\uFEFF' := by
    cases n with
    | zero => exact (peek_ne_of_startsToken here starts).2.2.1
    | succ n =>
      rw [Cursor.peek_of_rest (x := ' ') here]
      decide
  have passed : ∀ keys, ({ l with keys := keys } : Lexing).skipToToken
      (l.cursor.rest.length + 1) = { l with keys := keys, cursor := l.cursor.skip n } :=
    fun keys => skipToToken_spaces _ here starts
  rw [arrive_of passed unmarked (by simp [keys]) (by simp [keys])]
  simp [keys]

/-- A round that starts where a token is due only gives up the keys that are too long. -/
theorem arrive_here {l : Lexing} {t : List Char} (here : l.cursor.rest = t)
    (starts : StartsToken t)
    (free : ∀ e ∈ l.keys, isStale l.cursor e.2 = true → e.2.required = false) :
    l.arrive = .ok (({ l with
      keys := l.keys.filter (fun e => !isStale l.cursor e.2) } : Lexing).unwindTo
        l.cursor.column) := by
  have passed : ∀ keys, ({ l with keys := keys } : Lexing).skipToToken
      (l.cursor.rest.length + 1) = { l with keys := keys } :=
    fun keys => skipToToken_spaces (n := 0) _ here starts
  have unmarked := (peek_ne_of_startsToken here starts).2.2.1
  rw [arrive_of passed unmarked free free, List.filter_filter]
  simp only [Bool.and_self]

theorem arrive_colon {l : Lexing} {key : PendingKey} {t : List Char}
    (keys : l.keys = [(0, key)]) (here : l.cursor.rest = ':' :: t)
    (fresh : isStale l.cursor key = false) :
    l.arrive = .ok (l.unwindTo l.cursor.column) := by
  have free : ∀ e ∈ l.keys, isStale l.cursor e.2 = true → e.2.required = false := by
    intro e he stale
    rw [keys, List.mem_singleton] at he
    rw [he, fresh] at stale
    cases stale
  have same : l.keys.filter (fun e => !isStale l.cursor e.2) = l.keys := by
    simp [keys, fresh]
  rw [arrive_here here (startsToken_cons rfl (by decide) (by decide)) free, same]

/-- A key that must be one, but is too long, is an error. -/
theorem arrive_lost {l : Lexing} {key : PendingKey} (keys : l.keys = [(0, key)])
    (stale : isStale l.cursor key = true) (required : key.required = true) :
    l.arrive = .error .malformed := by
  have any : l.keys.any (fun e => isStale l.cursor e.2 && e.2.required) = true := by
    simp [keys, stale, required]
  simp [arrive, dropStale, any, bind, Except.bind]

/-- A key that need not be one is given up when it is too long. -/
theorem arrive_dropped {l : Lexing} {key : PendingKey} {t : List Char}
    (keys : l.keys = [(0, key)]) (here : l.cursor.rest = ':' :: t)
    (stale : isStale l.cursor key = true) (free : key.required = false) :
    l.arrive = .ok (({ l with keys := [] } : Lexing).unwindTo l.cursor.column) := by
  have free : ∀ e ∈ l.keys, isStale l.cursor e.2 = true → e.2.required = false := by
    intro e he _
    rw [keys, List.mem_singleton] at he
    rw [he, free]
  rw [arrive_here here (startsToken_cons rfl (by decide) (by decide)) free]
  simp [keys, stale]

/-- Pending keys that may be given up where the line ends. -/
def LeavesKeys (l : Lexing) : Prop :=
  ∀ e ∈ l.keys, e.2.required = false ∧ e.2.line ≤ l.cursor.line

theorem stale_of_line {c : Cursor} {key : PendingKey} (above : key.line < c.line) :
    isStale c key = true := by
  have differ : key.line ≠ c.line := by omega
  simp [isStale, differ]

theorem filter_stale {c : Cursor} {keys : List (Nat × PendingKey)}
    (above : ∀ e ∈ keys, e.2.line < c.line) : keys.filter (fun e => !isStale c e.2) = [] := by
  rw [List.filter_eq_nil_iff]
  intro e he
  rw [stale_of_line (above e he)]
  simp

theorem arrive_line {l : Lexing} {n : Nat} {t : List Char} (depth : l.depth = 0)
    (leaves : l.LeavesKeys) (here : l.cursor.rest = '\n' :: (List.replicate n ' ' ++ t))
    (starts : StartsToken t) :
    l.arrive = .ok (({ l with
      cursor := l.cursor.skip (n + 1), keyAllowed := true, keys := [] } : Lexing).unwindTo
        n) := by
  have place := Cursor.skip_newLine here
  have above : ∀ e ∈ l.keys, e.2.line < (l.cursor.skip (n + 1)).line := by
    intro e he
    rw [place]
    exact Nat.lt_succ_of_le (leaves e he).2
  have enough : l.cursor.rest.length + 1 = (l.cursor.rest.length - 1) + 2 := by
    simp [here]
  have passed : ∀ keys, ({ l with keys := keys } : Lexing).skipToToken
      (l.cursor.rest.length + 1) =
        { l with keys := keys, cursor := l.cursor.skip (n + 1), keyAllowed := true } := by
    intro keys
    rw [enough]
    exact skipToToken_newLine _ here starts depth
  rw [arrive_of passed (by rw [Cursor.peek_of_rest here]; decide)
    (fun e he _ => (leaves e he).1) (fun e he _ => (leaves e he).1),
    filter_stale (fun e he => above e (List.mem_filter.mp he).1), place]

theorem arrive_ended {l : Lexing} {t : List Char} (here : l.cursor.rest = t)
    (starts : StartsToken t)
    (left : ∀ e ∈ l.keys, e.2.required = false ∧ e.2.line < l.cursor.line) :
    l.arrive = .ok (({ l with keys := [] } : Lexing).unwindTo l.cursor.column) := by
  rw [arrive_here here starts (fun e he _ => (left e he).1),
    filter_stale (fun e he => (left e he).2)]

end ClusterManifest.Yaml.Lexing
