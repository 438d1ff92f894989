import ClusterManifest.Proofs.Yaml.Cursor
import ClusterManifest.Yaml.Token.Scalar

/-! What may stand between quotes for a text, as a grammar, and that a reader takes it for
that text. White space comes in groups: spaces within a line, a line break for one space, line
breaks one more than the text has. No group meets another one. -/

namespace ClusterManifest.Yaml

/-- A text that goes on, if it does, with neither white space nor the end of a line. -/
def StartsSolid (w : List Char) : Prop := ∀ x, w.head? = some x → isBlankOrEnd x = false

theorem isBlankOrEnd_of_space (c : Char) (blank : isSpaceOrTab c = true) :
    isBlankOrEnd c = true := by
  simp only [isSpaceOrTab, Bool.or_eq_true, beq_iff_eq] at blank
  rcases blank with rfl | rfl <;> rfl

/-- No class of white space goes on into such a text. -/
theorem StartsSolid.ends {p : Char → Bool} {t : List Char} (solid : StartsSolid t)
    (white : ∀ x, p x = true → isBlankOrEnd x = true) :
    ∀ x, t.head? = some x → p x = false := by
  intro x first
  refine Bool.eq_false_iff.mpr (fun taken => ?_)
  cases (solid x first).symm.trans (white x taken)

/-- No line ends before such a text. -/
theorem StartsSolid.unbroken {c : Cursor} {t : List Char} (solid : StartsSolid t)
    (here : c.rest = t) : isBreak c.peek = false := by
  cases t with
  | nil => simp [Cursor.peek, here, isBreak]
  | cons x t =>
    rw [Cursor.peek_of_rest here]
    refine solid.ends (fun y ended => ?_) x rfl
    simp [isBlankOrEnd, isSpaceOrEnd, isLineEnd, ended]

/-- What follows decides where nothing stands before it. -/
theorem StartsSolid.append {w t : List Char} {x : Char} (solid : StartsSolid w)
    (next : isBlankOrEnd x = false) : StartsSolid (w ++ x :: t) := by
  intro y hy
  cases w with
  | nil =>
    cases hy
    exact next
  | cons z w => exact solid y hy

/-- The first is what stands between single quotes for the second. -/
inductive SingleQuoted : List Char → List Char → Prop
  | nil : SingleQuoted [] []
  | char {c : Char} {w s : List Char} (solid : isBlankOrEnd c = false) (other : c ≠ '\'')
      (more : SingleQuoted w s) : SingleQuoted (c :: w) (c :: s)
  | quote {w s : List Char} (more : SingleQuoted w s) :
      SingleQuoted ('\'' :: '\'' :: w) ('\'' :: s)
  | spaces {w s : List Char} (n : Nat) (solid : StartsSolid w) (more : SingleQuoted w s) :
      SingleQuoted (List.replicate (n + 1) ' ' ++ w) (List.replicate (n + 1) ' ' ++ s)
  | fold {w s : List Char} (n : Nat) (solid : StartsSolid w) (more : SingleQuoted w s) :
      SingleQuoted ('\n' :: (List.replicate (n + 1) ' ' ++ w)) (' ' :: s)
  | breaks {w s : List Char} (m n : Nat) (solid : StartsSolid w) (more : SingleQuoted w s) :
      SingleQuoted
        ('\n' :: (List.replicate (m + 1) '\n' ++ (List.replicate (n + 1) ' ' ++ w)))
        (List.replicate (m + 1) '\n' ++ s)

/-- The first is what stands between double quotes for the second. A backslash at the end of a
line takes the line break and the spaces after it away. -/
inductive DoubleQuoted : List Char → List Text.CodePoint → Prop
  | nil : DoubleQuoted [] []
  | char {c : Char} {w : List Char} {s : List Text.CodePoint} (solid : isBlankOrEnd c = false)
      (unquoted : c ≠ '"') (unescaped : c ≠ '\\') (more : DoubleQuoted w s) :
      DoubleQuoted (c :: w) (.ofChar c :: s)
  | letter {d : Char} {x : Text.CodePoint} {w : List Char} {s : List Text.CodePoint}
      (stands : Token.escape? d = some x) (more : DoubleQuoted w s) :
      DoubleQuoted ('\\' :: d :: w) (x :: s)
  | code {d : Char} {x : Text.CodePoint} {digits w : List Char} {s : List Text.CodePoint}
      (unnamed : Token.escape? d = none) (width : Token.escapeWidth? d = some digits.length)
      (hexadecimal : (digits.filterMap Text.hexDigit?).length = digits.length)
      (stands : Text.ofDigits 16 (digits.filterMap Text.hexDigit?) = x.val)
      (more : DoubleQuoted w s) : DoubleQuoted ('\\' :: d :: (digits ++ w)) (x :: s)
  | spaces {w : List Char} {s : List Text.CodePoint} (n : Nat) (solid : StartsSolid w)
      (more : DoubleQuoted w s) : DoubleQuoted (List.replicate (n + 1) ' ' ++ w)
        (List.replicate (n + 1) (.ofChar ' ') ++ s)
  | fold {w : List Char} {s : List Text.CodePoint} (n : Nat) (solid : StartsSolid w)
      (more : DoubleQuoted w s) :
      DoubleQuoted ('\\' :: '\n' :: (List.replicate (n + 1) ' ' ++ w)) s

namespace Token

theorem quotedBreaks_eq {c : Cursor} {t : List Char} (m n fuel : Nat)
    (here : c.rest = List.replicate m '\n' ++ (List.replicate (n + 1) ' ' ++ t))
    (solid : StartsSolid t) (enough : m < fuel) :
    quotedBreaks fuel c = .ok (List.replicate m '\n', c.skip (m + (n + 1))) := by
  induction m generalizing c fuel with
  | zero =>
    obtain ⟨fuel, rfl⟩ := Nat.exists_eq_succ_of_ne_zero (Nat.ne_of_gt enough)
    simp only [List.replicate_zero, List.nil_append] at here
    have inside : c.atSeparator = false := by
      apply Cursor.not_atSeparator <;> simp [here, List.replicate_succ]
    have spaces := Cursor.skipWhile_spaces here rfl (solid.ends isBlankOrEnd_of_space)
    have text := solid.unbroken (Cursor.rest_skip_spaces here)
    simp [quotedBreaks, inside, spaces, text]
  | succ m ih =>
    obtain ⟨fuel, rfl⟩ := Nat.exists_eq_succ_of_ne_zero (Nat.ne_of_gt (Nat.zero_lt_of_lt enough))
    rw [List.replicate_succ, List.cons_append] at here
    have inside : c.atSeparator = false := by
      apply Cursor.not_atSeparator <;> simp [here]
    have none : c.skipWhile isSpaceOrTab = c :=
      Cursor.skipWhile_eq (w := []) here (by simp) (by simp [isSpaceOrTab])
    have ended : isBreak c.peek = true := by simp [Cursor.peek, here, isBreak]
    have rest := ih fuel (Cursor.rest_next_cons here) (by omega)
    have place : c.skip (m + 1 + (n + 1)) = c.next.skip (m + (n + 1)) := by
      rw [show m + 1 + (n + 1) = 1 + (m + (n + 1)) by omega, Cursor.skip_add, Cursor.skip_one]
    simp only [quotedBreaks, inside, none, ended, Cursor.lineBreak_of_lineFeed here, rest,
      place, bind, Except.bind]
    simp [List.replicate_succ]

theorem quotedSpace_spaces {c : Cursor} {t : List Char} (n : Nat)
    (here : c.rest = List.replicate n ' ' ++ t) (solid : StartsSolid t) (more : t ≠ []) :
    quotedSpace c = .ok (List.replicate n ' ', c.skip n) := by
  have spaces := Cursor.span_spaces here rfl (solid.ends isBlankOrEnd_of_space)
  have after := Cursor.rest_skip_spaces here
  have text := solid.unbroken after
  simp [quotedSpace, spaces, after, more, text]

theorem quotedSpace_breaks {c : Cursor} {t : List Char} (m n : Nat)
    (here : c.rest = '\n' :: (List.replicate m '\n' ++ (List.replicate (n + 1) ' ' ++ t)))
    (solid : StartsSolid t) :
    quotedSpace c =
      .ok (folded ['\n'] (List.replicate m '\n'), c.skip (m + (n + 1) + 1)) := by
  have none : c.span isSpaceOrTab = ([], c) :=
    Cursor.span_eq (w := []) here (by simp) (by simp [isSpaceOrTab])
  have ended : isBreak c.peek = true := by simp [Cursor.peek, here, isBreak]
  have behind := Cursor.rest_next_cons here
  have enough : m < c.next.rest.length + 1 := by
    simp only [behind, List.length_append, List.length_replicate]
    omega
  have breaks := quotedBreaks_eq m n _ behind solid enough
  have place : c.skip (m + (n + 1) + 1) = c.next.skip (m + (n + 1)) := by
    rw [Nat.add_comm, Cursor.skip_add, Cursor.skip_one]
  simp only [quotedSpace, none, ended, Cursor.lineBreak_of_lineFeed here, breaks, place]
  simp [here, bind, Except.bind]

/-- A reader with fuel for it takes what stands at the first place for some values, and ends at the
second place. -/
def ReadsTo {β : Type} (read : Nat → Cursor → Except Fault (List β × Cursor)) (c : Cursor)
    (values : List β) (e : Cursor) : Prop :=
  ∀ fuel, c.rest.length < fuel → read fuel c = .ok (values, e)

/-- A round of a reader takes a chunk at a place for some values, and goes on behind it. -/
def TakesChunk {β : Type} (read : Nat → Cursor → Except Fault (List β × Cursor)) (c : Cursor)
    (chunk : List Char) (values : List β) : Prop :=
  ∀ fuel, read (fuel + 1) c = (do
    let found ← read fuel (c.skip chunk.length)
    .ok (values ++ found.1, found.2))

theorem TakesChunk.reads {β : Type} {read : Nat → Cursor → Except Fault (List β × Cursor)}
    {c : Cursor} {chunk w t : List Char} {values more : List β}
    (takes : TakesChunk read c chunk values) (here : c.rest = chunk ++ w ++ t)
    (nonempty : 0 < chunk.length)
    (rest : ∀ {c : Cursor}, c.rest = w ++ t → ReadsTo read c more (c.skip (w.length + 1))) :
    ReadsTo read c (values ++ more) (c.skip ((chunk ++ w).length + 1)) := by
  intro fuel enough
  obtain ⟨fuel, rfl⟩ := Nat.exists_eq_succ_of_ne_zero (Nat.ne_of_gt (Nat.zero_lt_of_lt enough))
  rw [List.append_assoc] at here
  have behind := Cursor.rest_skip_append here
  have shorter : (c.skip chunk.length).rest.length < fuel := by
    rw [behind]
    rw [here, List.length_append] at enough
    omega
  have place : c.skip ((chunk ++ w).length + 1) = (c.skip chunk.length).skip (w.length + 1) := by
    rw [← Cursor.skip_add, List.length_append, Nat.add_assoc]
  rw [takes fuel, rest behind fuel shorter, place]
  rfl

theorem reads_single_end {c : Cursor} {rest : List Char} (here : c.rest = '\'' :: rest)
    (closed : rest.head? ≠ some '\'') : ReadsTo singleQuoted c [] (c.skip 1) := by
  intro fuel enough
  obtain ⟨fuel, rfl⟩ := Nat.exists_eq_succ_of_ne_zero (Nat.ne_of_gt (Nat.zero_lt_of_lt enough))
  have behind : (c.peekAt 1 == '\'') = false := by
    have second := Cursor.peekAt_of_rest (s := ['\'']) here
    rw [List.length_singleton] at second
    rw [second]
    cases rest with
    | nil => rfl
    | cons x rest => simpa using closed
  simp [singleQuoted, Cursor.peek_of_rest here, behind, Cursor.skip_one]

theorem single_char {c : Cursor} {x : Char} {t : List Char} (here : c.rest = x :: t)
    (solid : isBlankOrEnd x = false) (other : x ≠ '\'') :
    TakesChunk singleQuoted c [x] [x] := by
  intro fuel
  simp [singleQuoted, Cursor.peek_of_rest here, other, solid, Cursor.skip_one]

theorem single_quote {c : Cursor} {t : List Char} (here : c.rest = '\'' :: '\'' :: t) :
    TakesChunk singleQuoted c ['\'', '\''] ['\''] := by
  intro fuel
  have second : c.peekAt 1 = '\'' := by simp [Cursor.peekAt, here]
  simp [singleQuoted, Cursor.peek_of_rest here, second]

theorem single_space {c : Cursor} {chunk blanks : List Char}
    (blank : isBlankOrEnd c.peek = true)
    (space : quotedSpace c = .ok (blanks, c.skip chunk.length)) :
    TakesChunk singleQuoted c chunk blanks := by
  intro fuel
  have unquoted : (c.peek == '\'') = false := by
    refine beq_eq_false_iff_ne.mpr ?_
    intro quote
    rw [quote] at blank
    exact absurd blank (by decide)
  simp [singleQuoted, unquoted, blank, space, bind, Except.bind]

theorem double_char {c : Cursor} {x : Char} {t : List Char} (here : c.rest = x :: t)
    (solid : isBlankOrEnd x = false) (unquoted : x ≠ '"') (unescaped : x ≠ '\\') :
    TakesChunk doubleQuoted c [x] [.ofChar x] := by
  intro fuel
  simp [doubleQuoted, Cursor.peek_of_rest here, unquoted, unescaped, solid, Cursor.skip_one]

theorem double_escape {c : Cursor} {chunk : List Char} {codes : List Text.CodePoint}
    (backslash : c.peek = '\\') (escape : escaped c.next = .ok (codes, c.skip chunk.length)) :
    TakesChunk doubleQuoted c chunk codes := by
  intro fuel
  simp [doubleQuoted, backslash, escape, bind, Except.bind]

theorem double_space {c : Cursor} {chunk blanks : List Char}
    (blank : isBlankOrEnd c.peek = true)
    (space : quotedSpace c = .ok (blanks, c.skip chunk.length)) :
    TakesChunk doubleQuoted c chunk (blanks.map Text.CodePoint.ofChar) := by
  intro fuel
  have solid : ∀ x, isBlankOrEnd x = false → (c.peek == x) = false := by
    intro x hx
    refine beq_eq_false_iff_ne.mpr ?_
    intro same
    rw [same, hx] at blank
    exact absurd blank (by decide)
  simp [doubleQuoted, solid '"' (by rfl), solid '\\' (by rfl), blank, space, bind, Except.bind]

/-- Line breaks with the indentation after them are a chunk of white space. -/
theorem quotedSpace_lines {c : Cursor} {w t : List Char} {x : Char} (m n : Nat)
    (here : c.rest = '\n' :: (List.replicate m '\n' ++ List.replicate (n + 1) ' ') ++ w ++ x :: t)
    (solid : StartsSolid w) (next : isBlankOrEnd x = false) :
    isBlankOrEnd c.peek = true ∧ quotedSpace c = .ok (folded ['\n'] (List.replicate m '\n'),
      c.skip ('\n' :: (List.replicate m '\n' ++ List.replicate (n + 1) ' ')).length) := by
  simp only [List.cons_append, List.append_assoc] at here
  constructor
  · rw [Cursor.peek_of_rest here]
    rfl
  · rw [quotedSpace_breaks m n here (solid.append next)]
    simp only [List.length_cons, List.length_append, List.length_replicate]

theorem quotedSpace_blanks {c : Cursor} {w t : List Char} {x : Char} (n : Nat)
    (here : c.rest = List.replicate (n + 1) ' ' ++ w ++ x :: t) (solid : StartsSolid w)
    (next : isBlankOrEnd x = false) :
    isBlankOrEnd c.peek = true ∧ quotedSpace c =
      .ok (List.replicate (n + 1) ' ', c.skip (List.replicate (n + 1) ' ').length) := by
  rw [List.append_assoc] at here
  constructor
  · rw [Cursor.peek_of_rest (x := ' ') here]
    rfl
  · rw [List.length_replicate]
    exact quotedSpace_spaces (n + 1) here (solid.append next) (by simp)

/-- What the grammar gives for a text is read as that text, up to the closing quote. -/
theorem reads_single {w s rest : List Char} (written : SingleQuoted w s) {c : Cursor}
    (here : c.rest = w ++ '\'' :: rest) (closed : rest.head? ≠ some '\'') :
    ReadsTo singleQuoted c s (c.skip (w.length + 1)) := by
  induction written generalizing c with
  | nil => exact reads_single_end here closed
  | char solid other _ ih => exact (single_char here solid other).reads here (by simp) ih
  | quote _ ih => exact (single_quote here).reads here (by simp) ih
  | spaces n solid _ ih =>
    obtain ⟨blank, space⟩ := quotedSpace_blanks n here solid rfl
    exact (single_space blank space).reads here (by simp) ih
  | fold n solid _ ih =>
    obtain ⟨blank, space⟩ := quotedSpace_lines 0 n here solid rfl
    exact (single_space blank space).reads here (by simp) ih
  | @breaks w s m n solid _ ih =>
    rw [← List.append_assoc, ← List.cons_append] at here ⊢
    obtain ⟨blank, space⟩ := quotedSpace_lines (m + 1) n here solid rfl
    exact (single_space blank space).reads here (by simp) ih

theorem escaped_letter {c : Cursor} {d : Char} {x : Text.CodePoint} {t : List Char}
    (here : c.rest = d :: t) (stands : escape? d = some x) : escaped c = .ok ([x], c.next) := by
  simp [escaped, Cursor.peek_of_rest here, stands]

theorem escaped_code {c : Cursor} {d : Char} {x : Text.CodePoint} {digits t : List Char}
    (here : c.rest = d :: (digits ++ t)) (unnamed : escape? d = none)
    (width : escapeWidth? d = some digits.length)
    (hexadecimal : (digits.filterMap Text.hexDigit?).length = digits.length)
    (stands : Text.ofDigits 16 (digits.filterMap Text.hexDigit?) = x.val) :
    escaped c = .ok ([x], c.skip (digits.length + 1)) := by
  have behind := Cursor.rest_next_cons here
  have taken : c.next.rest.take digits.length = digits := by
    rw [behind, List.take_left]
  have place : c.skip (digits.length + 1) = c.next.skip digits.length := rfl
  simp [escaped, Cursor.peek_of_rest here, unnamed, width, escapedCode, taken, hexadecimal,
    stands, place, bind, Except.bind]

theorem escaped_lineFeed {c : Cursor} {t : List Char} (n : Nat)
    (here : c.rest = '\n' :: (List.replicate (n + 1) ' ' ++ t)) (solid : StartsSolid t) :
    escaped c = .ok ([], c.skip (n + 1 + 1)) := by
  have behind : c.next.rest = List.replicate 0 '\n' ++ (List.replicate (n + 1) ' ' ++ t) :=
    Cursor.rest_next_cons here
  have breaks := quotedBreaks_eq 0 n (c.next.rest.length + 1) behind solid (by omega)
  have named : escape? '\n' = none := rfl
  have width : escapeWidth? '\n' = none := rfl
  have ended : isBreak '\n' = true := rfl
  have place : c.skip (n + 1 + 1) = c.next.skip (0 + (n + 1)) := by
    rw [Nat.zero_add]
    rfl
  simp only [escaped, Cursor.peek_of_rest here, named, width, ended,
    Cursor.lineBreak_of_lineFeed here, breaks, place, bind, Except.bind]
  rfl

theorem reads_double_end {c : Cursor} {rest : List Char} (here : c.rest = '"' :: rest) :
    ReadsTo doubleQuoted c [] (c.skip 1) := by
  intro fuel enough
  obtain ⟨fuel, rfl⟩ := Nat.exists_eq_succ_of_ne_zero (Nat.ne_of_gt (Nat.zero_lt_of_lt enough))
  simp [doubleQuoted, Cursor.peek_of_rest here, Cursor.skip_one]

theorem reads_double {w rest : List Char} {s : List Text.CodePoint} (written : DoubleQuoted w s)
    {c : Cursor} (here : c.rest = w ++ '"' :: rest) :
    ReadsTo doubleQuoted c s (c.skip (w.length + 1)) := by
  induction written generalizing c with
  | nil => exact reads_double_end here
  | char solid unquoted unescaped _ ih =>
    exact (double_char here solid unquoted unescaped).reads here (by simp) ih
  | @letter d x w s stands _ ih =>
    have escape := escaped_letter (Cursor.rest_next_cons here) stands
    have taken : TakesChunk doubleQuoted c ['\\', d] _ :=
      double_escape (Cursor.peek_of_rest here) escape
    exact taken.reads here (by simp) ih
  | @code d x digits w s unnamed width hexadecimal stands _ ih =>
    rw [← List.cons_append, ← List.cons_append] at here ⊢
    have behind : c.next.rest = d :: (digits ++ (w ++ '"' :: rest)) := by
      rw [Cursor.rest_next, here]
      simp
    have escape := escaped_code behind unnamed width hexadecimal stands
    have taken : TakesChunk doubleQuoted c ('\\' :: d :: digits) _ :=
      double_escape (Cursor.peek_of_rest here) escape
    exact taken.reads here (by simp) ih
  | @spaces w s n solid _ ih =>
    obtain ⟨blank, space⟩ := quotedSpace_blanks n here solid rfl
    have taken := double_space blank space
    rw [List.map_replicate] at taken
    exact taken.reads here (by simp) ih
  | @fold w s n solid _ ih =>
    rw [← List.cons_append, ← List.cons_append] at here ⊢
    have behind : c.next.rest = '\n' :: (List.replicate (n + 1) ' ' ++ (w ++ '"' :: rest)) := by
      rw [Cursor.rest_next, here]
      simp
    have escape := escaped_lineFeed n behind (solid.append rfl)
    have place : n + 1 + 1 + 1 = ('\\' :: '\n' :: List.replicate (n + 1) ' ').length := by simp
    have taken : TakesChunk doubleQuoted c ('\\' :: '\n' :: List.replicate (n + 1) ' ') _ :=
      double_escape (Cursor.peek_of_rest here) (by rw [← place]; exact escape)
    exact taken.reads here (by simp) ih

end Token

end ClusterManifest.Yaml
