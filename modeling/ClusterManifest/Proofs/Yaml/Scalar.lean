import ClusterManifest.Proofs.Yaml.Tokens

/-! Scalars as tokens. What is written for a text in whatever style is taken for the text,
where a value may stand and where a key may. -/

namespace ClusterManifest.Yaml

theorem Content.ofCodes_text (s : List Char) :
    Content.ofCodes (s.map Text.CodePoint.ofChar) = .text s := by
  have whole : (s.map Text.CodePoint.ofChar).any Text.CodePoint.isSurrogate = false := by
    rw [List.any_map, List.any_eq_false]
    intro c _
    exact Bool.eq_false_iff.mp (Text.CodePoint.isSurrogate_ofChar c)
  have back : (s.map Text.CodePoint.ofChar).map Text.CodePoint.char = s := by
    rw [List.map_map]
    simp [Function.comp_def]
  rw [Content.ofCodes, dif_neg (Bool.eq_false_iff.mp whole), back]

theorem Content.ofCodes_illFormed (value : IllFormed) :
    Content.ofCodes value.codes = .illFormed value := by
  rw [Content.ofCodes, dif_pos value.lone]

/-- A text that starts like a plain scalar and like no end of a document. -/
structure StartsPlain (w : List Char) : Prop where
  first : ∃ x v, w = x :: v ∧ isBlankOrEnd x = false ∧
    (isIndicator x = false ∨ ((x = '?' ∨ x = ':' ∨ x = '-') ∧
      ∃ y u, v = y :: u ∧ isBlankOrEnd y = false))
  hyphens : w.take 3 ≠ ['-', '-', '-']
  points : w.take 3 ≠ ['.', '.', '.']

/-- The first is written for the second as a scalar, further lines indented; the last says
whether it stands plain. -/
inductive Written (indent : Nat) : List Char → Content → Bool → Prop
  | plain {w s : List Char} (written : PlainText indent w s) (starts : StartsPlain w) :
      Written indent w (.text s) true
  | single {w s : List Char} (written : SingleQuoted w s) :
      Written indent ('\'' :: (w ++ ['\''])) (.text s) false
  | double {w : List Char} {codes : List Text.CodePoint} (written : DoubleQuoted w codes) :
      Written indent ('"' :: (w ++ ['"'])) (.ofCodes codes) false

theorem Written.length_pos {indent : Nat} {w : List Char} {content : Content} {plain : Bool}
    (written : Written indent w content plain) : 0 < w.length := by
  cases written with
  | plain written _ =>
    obtain ⟨x, v, rfl, _⟩ := written.starts
    simp
  | single => simp
  | double => simp

theorem take_three {u v : List Char} {x m : Char} (other : x ≠ m)
    (three : (u ++ x :: v).take 3 = [m, m, m]) : u.take 3 = [m, m, m] := by
  match u with
  | [] => simp_all
  | [a] => simp_all
  | [a, b] => simp_all
  | a :: b :: c :: u => simpa using three

theorem PlainText.take_three {indent : Nat} {w s : List Char} {m : Char}
    (written : PlainText indent w s) (solid : isBlankOrEnd m = false)
    (three : w.take 3 = [m, m, m]) : s.take 3 = [m, m, m] := by
  cases written with
  | run _ => exact three
  | @gap r g b w s run gap _ _ =>
    have blank : ∃ x v, g = x :: v ∧ isBlankOrEnd x = true := by
      cases gap with
      | spaces n => exact ⟨' ', _, rfl, rfl⟩
      | fold => exact ⟨'\n', _, rfl, rfl⟩
    obtain ⟨x, v, rfl, blank⟩ := blank
    have other : x ≠ m := by
      rintro rfl
      rw [solid] at blank
      cases blank
    have start : r.take 3 = [m, m, m] := ClusterManifest.Yaml.take_three other three
    have long : 3 ≤ r.length := by
      have := congrArg List.length start
      simp only [List.length_take, List.length_cons, List.length_nil] at this
      omega
    rw [List.take_append_of_le_length long, start]

namespace Style

theorem isBadStart_iff {c : Char} {s : List Char} (good : isBadStart c s = false) :
    isIndicator c = false ∨ ((c = '?' ∨ c = ':' ∨ c = '-') ∧
      isBlankOrEnd (s.headD '\x00') = false) := by
  simp only [isBadStart, Bool.or_eq_false_iff, Bool.and_eq_false_iff] at good
  obtain ⟨never, sign⟩ := good
  by_cases one : ['?', ':', '-'].contains c = true
  · exact .inr ⟨by simpa using one, sign.resolve_left (by rw [one]; decide)⟩
  · left
    simp only [Bool.not_eq_true] at one
    simp_all [isIndicator]

end Style

theorem PlainText.firstRun {indent : Nat} {w s : List Char} (written : PlainText indent w s) :
    ∃ r w' s', IsRun r ∧ w = r ++ w' ∧ s = r ++ s' ∧
      isBlankOrEnd (s'.headD '\x00') = true := by
  cases written with
  | run run => exact ⟨w, [], [], run, by simp, by simp, rfl⟩
  | @gap r g b w s run gap _ _ =>
    refine ⟨r, _, _, run, rfl, rfl, ?_⟩
    cases gap with
    | spaces n => rfl
    | fold => rfl

namespace Style

theorem startsPlain_of_fits {indent : Nat} {w s : List Char} (written : PlainText indent w s)
    (fits : fitsPlain s = true) : StartsPlain w := by
  obtain ⟨r, w', s', run, rfl, rfl, blank⟩ := written.firstRun
  obtain ⟨x, r, rfl⟩ := List.exists_cons_of_ne_nil run.nonempty
  simp only [List.cons_append, fitsPlain, Bool.and_eq_true, bne_iff_ne, ne_eq,
    Bool.not_eq_true', startsLikeSeparator, Bool.or_eq_false_iff, beq_eq_false_iff_ne] at fits
  obtain ⟨⟨⟨_, hyphens, points⟩, start⟩, _⟩ := fits
  have solid := run.printable x (List.mem_cons_self ..)
  refine ⟨⟨x, r ++ w', rfl, solid_of_printable solid.1 solid.2, ?_⟩,
    fun three => hyphens (written.take_three rfl three),
    fun three => points (written.take_three rfl three)⟩
  rcases isBadStart_iff start with other | ⟨sign, next⟩
  · exact .inl other
  · right
    refine ⟨sign, ?_⟩
    cases r with
    | nil =>
      rw [List.nil_append, blank] at next
      cases next
    | cons y u =>
      have solid := run.printable y (by simp)
      exact ⟨y, u ++ w', rfl, solid_of_printable solid.1 solid.2⟩

theorem inDoubleQuotes_written (split : Bool) {indent : Nat} (column : Nat)
    (indented : 0 < indent) (shallow : indent < width) (codes : List Text.CodePoint) :
    Written indent (inDoubleQuotes split indent column codes) (.ofCodes codes) false :=
  .double (doubleQuotedFrom_written split indented shallow codes (column + 1) true false)

theorem write_written (split : Bool) {indent : Nat} (column : Nat) (indented : 0 < indent)
    (shallow : indent < width) (s : List Char) :
    Written indent (write split indent column s) (.text s) (ofText s == .plain) := by
  cases style : ofText s with
  | plain =>
    have fits := (ofText_fits s).1 style
    have written := plainFrom_plain split indent column fits.1 fits.2
    simp only [write, style]
    exact .plain written (startsPlain_of_fits written fits.1)
  | singleQuoted =>
    have fits := (ofText_fits s).2 style
    have written := singleQuotedFrom_written split indented s (column + 1) none fits
      (.inl (by simp))
    simp only [write, style]
    exact .single written
  | doubleQuoted =>
    have written := inDoubleQuotes_written split column indented shallow
      (s.map Text.CodePoint.ofChar)
    rw [Content.ofCodes_text] at written
    simp only [write, style]
    exact written

end Style

theorem StartsPlain.unmarked {w : List Char} (starts : StartsPlain w) : w.head? ≠ some '#' := by
  rcases starts with ⟨⟨x, v, rfl, _, other | ⟨sign, _⟩⟩, _, _⟩
  · rintro same
    rw [Option.some.inj same] at other
    cases other
  · rcases sign with rfl | rfl | rfl <;> simp

namespace Lexing

/-- A plain scalar is taken for one, whatever a text for it may also start with. -/
theorem token_plain {l : Lexing} {w t : List Char} {x : Char} (starts : StartsPlain w)
    (depth : l.depth = 0) (here : l.cursor.rest = w ++ x :: t)
    (ends : x ≠ '-' ∧ x ≠ '.') : l.token = l.plain := by
  obtain ⟨⟨a, v, rfl, solid, first⟩, hyphens, points⟩ := starts
  have marks : l.cursor.atMark '-' = false ∧ l.cursor.atMark '.' = false := by
    constructor
    · have other : (l.cursor.rest.take 3 == ['-', '-', '-']) = false := by
        rw [here]
        exact beq_eq_false_iff_ne.mpr (fun three => hyphens (take_three ends.1 three))
      simp [Cursor.atMark, other]
    · have other : (l.cursor.rest.take 3 == ['.', '.', '.']) = false := by
        rw [here]
        exact beq_eq_false_iff_ne.mpr (fun three => points (take_three ends.2 three))
      simp [Cursor.atMark, other]
  have peek := Cursor.peek_of_rest (x := a) here
  have full : l.cursor.rest.isEmpty = false := by simp [here]
  rcases first with other | ⟨sign, y, u, rfl, next⟩
  · have signs : ∀ c, isIndicator c = true → (a == c) = false := by
      intro c indicator
      refine beq_eq_false_iff_ne.mpr ?_
      rintro rfl
      rw [other] at indicator
      cases indicator
    simp [token, peek, full, marks, depth, startsPlain, solid, other, signs '%' rfl,
      signs '[' rfl, signs '\x7b' rfl, signs ']' rfl, signs '\x7d' rfl, signs ',' rfl,
      signs '-' rfl, signs '?' rfl, signs ':' rfl, signs '*' rfl, signs '&' rfl, signs '!' rfl,
      signs '|' rfl, signs '>' rfl, signs '\'' rfl, signs '"' rfl]
  · have following : l.cursor.peekAt 1 = y := by simp [Cursor.peekAt, here]
    rcases sign with rfl | rfl | rfl <;>
      simp [token, peek, full, marks, depth, startsPlain, following, next]

theorem token_quoted {l : Lexing} {t : List Char} {x : Char} (quote : x = '\'' ∨ x = '"')
    (depth : l.depth = 0) (here : l.cursor.rest = x :: t) :
    l.token = l.keyLike Token.quotedScalar := by
  rcases quote with rfl | rfl <;>
    simp [token, Cursor.peek, here, depth, Cursor.atMark]

theorem quotedScalar_single {c : Cursor} {w s t : List Char} (written : SingleQuoted w s)
    (here : c.rest = '\'' :: (w ++ ['\'']) ++ t) (closed : t.head? ≠ some '\'') :
    Token.quotedScalar c =
      .ok (.scalar (.text s) false, c.skip ('\'' :: (w ++ ['\''])).length) := by
  have behind : c.next.rest = w ++ '\'' :: t := by
    rw [Cursor.rest_next, here]
    simp
  have enough : c.next.rest.length < c.rest.length + 1 := by
    simp only [behind, here, List.cons_append, List.length_cons, List.length_append]
    omega
  have read := Token.reads_single written behind closed _ enough
  have peek := Cursor.peek_of_rest (x := '\'') here
  simp only [Token.quotedScalar, peek, read, bind, Except.bind]
  simp [Cursor.skip]

theorem quotedScalar_double {c : Cursor} {w t : List Char} {codes : List Text.CodePoint}
    (written : DoubleQuoted w codes) (here : c.rest = '"' :: (w ++ ['"']) ++ t) :
    Token.quotedScalar c =
      .ok (.scalar (.ofCodes codes) false, c.skip ('"' :: (w ++ ['"'])).length) := by
  have behind : c.next.rest = w ++ '"' :: t := by
    rw [Cursor.rest_next, here]
    simp
  have enough : c.next.rest.length < c.rest.length + 1 := by
    simp only [behind, here, List.cons_append, List.length_cons, List.length_append]
    omega
  have read := Token.reads_double written behind _ enough
  have peek := Cursor.peek_of_rest (x := '"') here
  simp only [Token.quotedScalar, peek, read, bind, Except.bind]
  simp [Cursor.skip]

theorem token_quotedScalar {l l' : Lexing} {k : Nat} {w t : List Char} {content : Content}
    {x : Char} (written : Written k w content false) (depth : l.depth = 0) (here : l.cursor.rest = w ++ x :: t)
    (closed : x ≠ '\'') (saved : l.saveKey = .ok l') (still : l'.cursor = l.cursor) :
    l.token = .ok { l' with
      cursor := l.cursor.skip w.length, tokens := l'.tokens ++ [.scalar content false]
      keyAllowed := false } := by
  cases written with
  | single written =>
    rw [token_quoted (.inl rfl) depth here]
    have read := quotedScalar_single written here (by simpa using closed)
    rw [← still] at read ⊢
    simp [keyLike, saved, read, emit, bind, Except.bind]
  | double written =>
    rw [token_quoted (.inr rfl) depth here]
    have read := quotedScalar_double written here
    rw [← still] at read ⊢
    simp [keyLike, saved, read, emit, bind, Except.bind]

/-- The key that is pending where a key may start. -/
def keyAt (l : Lexing) : PendingKey :=
  ⟨l.tokens.length, l.indent == (l.cursor.column : Int), l.cursor.index, l.cursor.line,
    l.cursor.column⟩

theorem saveKey_entry {l : Lexing} (entry : AtEntry l) :
    l.saveKey = .ok { l with keys := [(0, l.keyAt)] } := by
  obtain ⟨cursor, tokens, indent, outer, depth, allowed, keys⟩ := l
  obtain ⟨rfl, rfl, rfl⟩ := entry
  simp [saveKey, keyAt, dropKey, pending?, bind, Except.bind]

theorem token_key {l : Lexing} {k : Nat} {w t : List Char} {content : Content} {plain : Bool}
    {x : Char} (written : Written k w content plain) (entry : AtEntry l)
    (here : l.cursor.rest = w ++ ':' :: x :: t) (blank : isBlankOrEnd x = true)
    (inside : l.indent ≤ l.cursor.column) (fold : l.indent < k) (positive : 0 < k) :
    l.token = .ok { l with
      cursor := l.cursor.skip w.length, tokens := l.tokens ++ [.scalar content plain]
      keyAllowed := false, keys := [(0, l.keyAt)] } := by
  have saved := saveKey_entry entry
  cases plain with
  | false => exact token_quotedScalar written entry.depth here (by decide) saved rfl
  | true =>
    cases written with
    | plain written starts =>
      have read := Token.reads_plain_key written here blank starts.unmarked
        (Int.add_one_le_of_lt fold) positive (Int.add_le_add_right inside 1)
        (l.cursor.rest.length + 1) false [] (Nat.lt_succ_self _)
      rw [token_plain starts entry.depth here (by decide)]
      simp [Lexing.plain, saved, entry.depth, read, emit, bind, Except.bind]

theorem takes_quoted {m : Lexing} {k n : Nat} {w t : List Char} {content : Content}
    (written : Written k w content false) (depth : m.depth = 0) (keys : m.keys = [])
    (here : m.cursor.rest = w ++ '\n' :: (List.replicate n ' ' ++ t)) (starts : StartsToken t)
    (inside : m.indent < m.cursor.column) : Takes m m True [.scalar content false] n t := by
  obtain ⟨keys', saved, free⟩ := saveKey_value depth keys inside
  have behind := Cursor.rest_skip_append here
  have above := Cursor.line_le_skip w.length m.cursor
  have long := written.length_pos
  have taken := token_quotedScalar written depth here (by decide) saved rfl
  obtain ⟨c, rest, column, passes⟩ := reads_line (l := { m with
      cursor := m.cursor.skip w.length, tokens := m.tokens ++ [.scalar content false]
      keyAllowed := false, keys := keys' }) depth
    (fun e he => ⟨(free e he).2.1, by rw [(free e he).2.2]; exact above⟩) behind starts
  refine ⟨c, rest, column, ⟨_, taken, ?_, ?_, ?_⟩⟩
  · simp [Unfinished]
  · simp only [behind, here, List.length_append, List.length_cons]
    omega
  · simpa [after] using passes

/-- A plain scalar takes the line break after it and the indentation of the next line as well. -/
theorem takes_plain {m : Lexing} {k n : Nat} {w s t : List Char} (written : PlainText k w s)
    (start : StartsPlain w) (depth : m.depth = 0) (keys : m.keys = [])
    (here : m.cursor.rest = w ++ '\n' :: (List.replicate n ' ' ++ t)) (starts : StartsToken t)
    (inside : m.indent < m.cursor.column) (within : (n : Int) ≤ m.indent)
    (fold : m.indent < k) : Takes m m True [.scalar (.text s) true] n t := by
  obtain ⟨keys', saved, free⟩ := saveKey_value depth keys inside
  have behind := Cursor.rest_skip_append here
  have place := Cursor.skip_newLine behind
  have above := Cursor.line_le_skip w.length m.cursor
  have read := Token.reads_plain_line written here starts.solid start.unmarked
    (Int.add_one_le_of_lt fold) (by omega) (Int.add_le_add_right (Int.le_of_lt inside) 1)
    (Int.lt_add_one_of_le within) (m.cursor.rest.length + 1) false [] (Nat.lt_succ_self _)
  have taken : m.token = .ok { m with
      cursor := (m.cursor.skip w.length).skip (n + 1)
      tokens := m.tokens ++ [.scalar (.text s) true], keyAllowed := true
      keys := keys' } := by
    rw [token_plain start depth here (by decide)]
    simp [Lexing.plain, saved, depth, read, emit, bind, Except.bind]
  have rest : ((m.cursor.skip w.length).skip (n + 1)).rest = t := by rw [place]
  have left : ∀ e ∈ keys', e.2.required = false ∧
      e.2.line < ((m.cursor.skip w.length).skip (n + 1)).line := by
    intro e he
    rw [place, (free e he).2.2]
    exact ⟨(free e he).2.1, Nat.lt_succ_of_le above⟩
  refine ⟨(m.cursor.skip w.length).skip (n + 1), rest, by rw [place],
    ⟨_, taken, ?_, ?_, Leads.passes (.here ?_ ?_)⟩⟩
  · simp [Unfinished]
  · simp only [rest, here, List.length_append, List.length_cons]
    omega
  · rw [arrive_ended (t := t) rest starts left, place]
    simp [after]
  · rw [cursor_unwindTo]
    exact Nat.le_refl _

theorem takes_scalar {m : Lexing} {k n : Nat} {w t : List Char} {content : Content}
    {plain : Bool} (written : Written k w content plain) (depth : m.depth = 0) (keys : m.keys = [])
    (here : m.cursor.rest = w ++ '\n' :: (List.replicate n ' ' ++ t)) (starts : StartsToken t)
    (inside : m.indent < m.cursor.column) (within : (n : Int) ≤ m.indent)
    (fold : m.indent < k) : Takes m m True [.scalar content plain] n t := by
  cases plain with
  | false => exact takes_quoted written depth keys here starts inside
  | true =>
    cases written with
    | plain written start =>
      exact takes_plain written start depth keys here starts inside within fold

end Lexing

end ClusterManifest.Yaml
