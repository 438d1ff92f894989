import ClusterManifest.Proofs.Yaml.Quoting

/-! Plain scalars: runs of characters with gaps between them, which are spaces within a line or
one folded line break. What the printer writes for a text that fits has that form, and a reader
takes it for the text. -/

namespace ClusterManifest.Yaml

/-- A run of a plain scalar. No colon ends it, as that would make it a key. -/
structure IsRun (r : List Char) : Prop where
  nonempty : r ≠ []
  printable : ∀ x ∈ r, isPrintable x = true ∧ x ≠ ' '
  last : r.getLast? ≠ some ':'

/-- The first is a gap in a plain scalar, lines after it indented, for the blanks that are the
second. -/
inductive Gap (indent : Nat) : List Char → List Char → Prop
  | spaces (n : Nat) : Gap indent (List.replicate (n + 1) ' ') (List.replicate (n + 1) ' ')
  | fold : Gap indent ('\n' :: List.replicate indent ' ') [' ']

/-- The first is a plain scalar for the second, lines after the first indented. -/
inductive PlainText (indent : Nat) : List Char → List Char → Prop
  | run {r : List Char} (run : IsRun r) : PlainText indent r r
  | gap {r g b w s : List Char} (run : IsRun r) (gap : Gap indent g b)
      (other : w.head? ≠ some '#') (more : PlainText indent w s) :
      PlainText indent (r ++ (g ++ w)) (r ++ (b ++ s))

theorem IsRun.single {c : Char} (printable : isPrintable c = true) (text : c ≠ ' ')
    (other : c ≠ ':') : IsRun [c] := by
  refine ⟨by simp, ?_, by simpa using other⟩
  intro x hx
  rw [List.mem_singleton.mp hx]
  exact ⟨printable, text⟩

theorem IsRun.cons {c : Char} {r : List Char} (run : IsRun r) (printable : isPrintable c = true)
    (text : c ≠ ' ') : IsRun (c :: r) := by
  refine ⟨by simp, ?_, ?_⟩
  · intro x hx
    cases hx with
    | head => exact ⟨printable, text⟩
    | tail _ hx => exact run.printable x hx
  · obtain ⟨d, r, rfl⟩ := List.exists_cons_of_ne_nil run.nonempty
    exact run.last

theorem PlainText.cons {indent : Nat} {c : Char} {w s : List Char}
    (more : PlainText indent w s) (printable : isPrintable c = true) (text : c ≠ ' ') :
    PlainText indent (c :: w) (c :: s) := by
  cases more with
  | run run => exact .run (run.cons printable text)
  | gap run gap other more => exact .gap (run.cons printable text) gap other more

theorem IsRun.starts {r : List Char} (run : IsRun r) (t : List Char) :
    ∃ x v, r ++ t = x :: v ∧ isBlankOrEnd x = false := by
  obtain ⟨x, v, rfl⟩ := List.exists_cons_of_ne_nil run.nonempty
  have first := run.printable x (List.mem_cons_self ..)
  exact ⟨x, v ++ t, rfl, Style.solid_of_printable first.1 first.2⟩

theorem PlainText.starts {indent : Nat} {w s : List Char} (written : PlainText indent w s) :
    ∃ x v, w = x :: v ∧ isBlankOrEnd x = false := by
  cases written with
  | run run => simpa using run.starts []
  | gap run _ _ _ => exact run.starts _

namespace Token

def Stops (t : List Char) : Prop :=
  endsPlain false (t.headD '\x00') ((t.drop 1).headD '\x00') = true

theorem stops_of_blank {c : Char} {t : List Char} (blank : isBlankOrEnd c = true) :
    Stops (c :: t) := by
  simp [Stops, endsPlain, blank]

theorem plainRun_eq {r t : List Char} (run : IsRun r) (stops : Stops t) :
    plainRun false (r ++ t) = r := by
  have ended : plainRun false t = [] := by
    cases t with
    | nil => rfl
    | cons d t =>
      cases t <;> simp_all [Stops, plainRun]
  have solid : ∀ x ∈ r, isBlankOrEnd x = false :=
    fun x hx => Style.solid_of_printable (run.printable x hx).1 (run.printable x hx).2
  have last := run.last
  clear run
  induction r with
  | nil => exact ended
  | cons c r ih =>
    have here := solid c (List.mem_cons_self ..)
    have goes : endsPlain false c ((r ++ t).headD '\x00') = false := by
      cases r with
      | nil =>
        have other : c ≠ ':' := by simpa using last
        simp [endsPlain, here, other]
      | cons d r =>
        have next := solid d (by simp)
        simp [endsPlain, here, next]
    have more : plainRun false (r ++ t) = r := by
      cases r with
      | nil => exact ended
      | cons d r => exact ih (fun x hx => solid x (List.mem_cons_of_mem _ hx)) last
    simp only [List.cons_append, plainRun, goes, more]
    rfl

theorem isBlankOrEnd_of_blank (x : Char) (blank : (x == ' ') = true) : isBlankOrEnd x = true := by
  rw [beq_iff_eq.mp blank]
  rfl

theorem plainSpace_spaces {c : Cursor} {n : Nat} {t : List Char}
    (here : c.rest = List.replicate n ' ' ++ t) (solid : StartsSolid t) :
    plainSpace c = (List.replicate n ' ', c.skip n, false) := by
  have spaces := Cursor.span_spaces here rfl (solid.ends isBlankOrEnd_of_blank)
  have text := solid.unbroken (Cursor.rest_skip_spaces here)
  simp [plainSpace, spaces, text]

/-- A line break and the indentation of the next line. Where that line starts like the end of
a document, the scalar is over at the same place. -/
theorem plainSpace_newLine {c : Cursor} {n : Nat} {t : List Char}
    (here : c.rest = '\n' :: (List.replicate n ' ' ++ t)) (solid : StartsSolid t) :
    ∃ b, plainSpace c = (b, c.skip (n + 1), true) ∧ (0 < n → b = [' ']) := by
  have none : c.span (· == ' ') = ([], c) :=
    Cursor.span_eq (w := []) here (by simp) (by simp)
  have ended : isBreak c.peek = true := by simp [Cursor.peek, here, isBreak]
  have behind := Cursor.rest_next_cons here
  have breaks : plainBreaks (c.next.rest.length + 1) c.next = (some [], c.next.skip n) := by
    have spaces := Cursor.skipWhile_spaces behind rfl (solid.ends isBlankOrEnd_of_blank)
    have text := solid.unbroken (Cursor.rest_skip_spaces behind)
    simp [plainBreaks, spaces, text]
  have place : c.skip (n + 1) = c.next.skip n := rfl
  by_cases separator : c.next.atSeparator = true
  · cases n with
    | zero =>
      refine ⟨[], ?_, fun h => absurd h (Nat.lt_irrefl 0)⟩
      simp [plainSpace, none, ended, Cursor.lineBreak_of_lineFeed here, separator, Cursor.skip]
    | succ n =>
      have inside : c.next.atSeparator = false := by
        apply Cursor.not_atSeparator <;> simp [behind, List.replicate_succ]
      rw [inside] at separator
      cases separator
  · refine ⟨[' '], ?_, fun _ => rfl⟩
    have inside : c.next.atSeparator = false := by simpa using separator
    simp [plainSpace, none, ended, Cursor.lineBreak_of_lineFeed here, inside, breaks, place,
      folded]

/-- From the first place a reader takes what stands there for the text, stops at the second
place, and knows whether its line has ended. -/
def ReadsPlain (indent : Int) (c : Cursor) (s : List Char) (e : Cursor) (ended : Bool) : Prop :=
  ∀ fuel allowed space, c.rest.length < fuel →
    plainScalar false indent fuel allowed space c = (space ++ s, e, ended)

theorem reads_plain_run {indent : Int} {c e : Cursor} {r t b : List Char} {ended : Bool}
    (here : c.rest = r ++ t) (run : IsRun r) (stops : Stops t) (other : c.peek ≠ '#')
    (space : plainSpace (c.skip r.length) = (b, e, ended))
    (last : b = [] ∨ (e.column : Int) < indent) :
    ReadsPlain indent c r e ended := by
  intro fuel allowed space' enough
  obtain ⟨fuel, rfl⟩ := Nat.exists_eq_succ_of_ne_zero (Nat.ne_of_gt (Nat.zero_lt_of_lt enough))
  have nonempty : r.isEmpty = false := by simpa using run.nonempty
  have last : (b.isEmpty || e.peek == '#' || (!false && decide ((e.column : Int) < indent)))
      = true := by
    rcases last with rfl | last
    · rfl
    · simp [last]
  simp only [plainScalar, here, plainRun_eq run stops, beq_eq_false_iff_ne.mpr other, nonempty,
    space, last]
  simp

theorem reads_plain_gap {indent : Int} {c d e : Cursor} {r t b s : List Char}
    {ended ended' : Bool} (here : c.rest = r ++ t) (run : IsRun r) (stops : Stops t)
    (first : c.peek ≠ '#') (space : plainSpace (c.skip r.length) = (b, d, ended'))
    (blanks : b ≠ []) (other : d.peek ≠ '#') (indented : indent ≤ d.column)
    (shorter : d.rest.length < c.rest.length) (more : ReadsPlain indent d s e ended) :
    ReadsPlain indent c (r ++ (b ++ s)) e ended := by
  intro fuel allowed space' enough
  obtain ⟨fuel, rfl⟩ := Nat.exists_eq_succ_of_ne_zero (Nat.ne_of_gt (Nat.zero_lt_of_lt enough))
  have nonempty : r.isEmpty = false := by simpa using run.nonempty
  have goes : (b.isEmpty || d.peek == '#' || (!false && decide ((d.column : Int) < indent)))
      = false := by
    have blanks : b.isEmpty = false := by simpa using blanks
    simp [blanks, other, Int.not_lt.mpr indented]
  have rest := more fuel ended' b (Nat.lt_of_lt_of_le shorter (Nat.le_of_lt_succ enough))
  simp only [plainScalar, here, plainRun_eq run stops, beq_eq_false_iff_ne.mpr first, nonempty,
    space, goes, rest]
  simp

theorem peek_unmarked {c : Cursor} {w t : List Char} (here : c.rest = w ++ t) (nonempty : w ≠ [])
    (first : w.head? ≠ some '#') : c.peek ≠ '#' := by
  obtain ⟨x, w, rfl⟩ := List.exists_cons_of_ne_nil nonempty
  rw [Cursor.peek_of_rest here]
  simpa using first

/-- A gap is passed over for its blanks, and what follows is indented as far as the gap, or as the
line that the fold begins. -/
theorem gap_passed {indent : Int} {k : Nat} {g b t : List Char} (gap : Gap k g b) {c : Cursor}
    (here : c.rest = g ++ t) (solid : StartsSolid t) (fold : indent ≤ k) (positive : 0 < k)
    (indented : indent ≤ c.column) :
    ∃ ended, plainSpace c = (b, c.skip g.length, ended) ∧ b ≠ [] ∧ Stops (g ++ t) ∧
      indent ≤ (c.skip g.length).column := by
  cases gap with
  | spaces n =>
    refine ⟨false, ?_, by simp, stops_of_blank rfl, ?_⟩
    · simpa using plainSpace_spaces here solid
    · rw [Cursor.skip_of_printable here (List.forall_mem_replicate.mpr (.inr rfl))]
      exact Int.le_trans indented (Int.ofNat_le.mpr (Nat.le_add_right ..))
  | fold =>
    obtain ⟨b, line, single⟩ := plainSpace_newLine here solid
    have length : ('\n' :: List.replicate k ' ').length = k + 1 := by simp
    rw [single positive, ← length] at line
    refine ⟨true, line, by simp, stops_of_blank rfl, ?_⟩
    rw [length, Cursor.skip_newLine here]
    exact fold

/-- What is written plain is read up to where it is over. The column of a place within the
scalar is behind the indentation, as a run stands before it or an indentation. -/
theorem reads_plain {indent : Int} {k : Nat} {w s t b : List Char} {ended : Bool}
    (written : PlainText k w s) (stops : Stops t) {c e : Cursor} (here : c.rest = w ++ t)
    (first : w.head? ≠ some '#') (fold : indent ≤ k) (positive : 0 < k)
    (indented : indent ≤ c.column + 1)
    (space : plainSpace (c.skip w.length) = (b, e, ended))
    (last : b = [] ∨ (e.column : Int) < indent) : ReadsPlain indent c s e ended := by
  induction written generalizing c with
  | run run =>
    exact reads_plain_run here run stops (peek_unmarked here run.nonempty first) space last
  | @gap r g b w s run gap other more ih =>
    have unmarked := peek_unmarked here (by simp [run.nonempty]) first
    rw [List.append_assoc, List.append_assoc] at here
    have behind : (c.skip r.length).rest = g ++ (w ++ t) := Cursor.rest_skip_append here
    have after : ((c.skip r.length).skip g.length).rest = w ++ t := Cursor.rest_skip_append behind
    have long : 0 < r.length := List.length_pos_iff.mpr run.nonempty
    obtain ⟨x, v, rfl, start⟩ := more.starts
    have moved : indent ≤ (c.skip r.length).column := by
      rw [Cursor.skip_of_printable here (fun x hx => (run.printable x hx).1)]
      dsimp only
      omega
    obtain ⟨ended', passed, blanks, stops', column⟩ :=
      gap_passed gap behind (Style.startsSolid_cons start) fold positive moved
    have place : c.skip (r ++ (g ++ x :: v)).length =
        ((c.skip r.length).skip g.length).skip (x :: v).length := by
      rw [← Cursor.skip_add, ← Cursor.skip_add, List.length_append, List.length_append]
    rw [place] at space
    refine reads_plain_gap here run stops' unmarked passed blanks
      (peek_unmarked after (by simp) other) column ?_ (ih after other (by omega) space)
    rw [after, here]
    simp only [List.length_append]
    omega

/-- A key is read up to its colon. -/
theorem reads_plain_key {indent : Int} {k : Nat} {w s t : List Char} {c : Cursor}
    (written : PlainText k w s) (here : c.rest = w ++ ':' :: t)
    (blank : isBlankOrEnd (t.headD '\x00') = true) (first : w.head? ≠ some '#')
    (fold : indent ≤ k) (positive : 0 < k) (indented : indent ≤ c.column + 1) :
    ReadsPlain indent c s (c.skip w.length) false := by
  have stops : Stops (':' :: t) := by
    change (isBlankOrEnd ':' || ((':' == ':') && (isBlankOrEnd (t.headD '\x00') ||
      (false && isFlowIndicator (t.headD '\x00')))) || false) = true
    rw [blank]
    rfl
  have behind := Cursor.rest_skip_append here
  have space := plainSpace_spaces (n := 0) behind (Style.startsSolid_cons rfl)
  exact reads_plain written stops here first fold positive indented space (.inl rfl)

/-- A value is read with the line break after it and the indentation of the next line, where
that line is not indented as far as the value would have to be. -/
theorem reads_plain_line {indent : Int} {k n : Nat} {w s t : List Char} {c : Cursor}
    (written : PlainText k w s) (here : c.rest = w ++ '\n' :: (List.replicate n ' ' ++ t))
    (solid : StartsSolid t) (first : w.head? ≠ some '#') (fold : indent ≤ k) (positive : 0 < k)
    (indented : indent ≤ c.column + 1) (less : (n : Int) < indent) :
    ReadsPlain indent c s ((c.skip w.length).skip (n + 1)) true := by
  have stops : Stops ('\n' :: (List.replicate n ' ' ++ t)) := stops_of_blank rfl
  have behind := Cursor.rest_skip_append here
  obtain ⟨b, space, -⟩ := plainSpace_newLine behind solid
  refine reads_plain written stops here first fold positive indented space (.inr ?_)
  rw [Cursor.skip_newLine behind]
  exact less

end Token

namespace Style

/-- No character starts a comment or ends a key: a colon stands before text and a number sign
after text. -/
def isPlainFrom (s : List Char) : Bool :=
  s.all isPrintable && s.getLast? != some ' ' && !hasBadPart s

theorem isPlainFrom_tail {c : Char} {s : List Char} (fits : isPlainFrom (c :: s) = true) :
    isPrintable c = true ∧ isPlainFrom s = true := by
  simp only [isPlainFrom, List.all_cons, Bool.and_eq_true, bne_iff_ne, ne_eq,
    Bool.not_eq_true'] at fits ⊢
  obtain ⟨⟨⟨printable, all⟩, last⟩, part⟩ := fits
  cases s with
  | nil => exact ⟨printable, ⟨all, by simp⟩, rfl⟩
  | cons d s =>
    simp only [hasBadPart, Bool.or_eq_false_iff] at part
    exact ⟨printable, ⟨all, last⟩, part.2⟩

theorem isPlainFrom_last {c : Char} (fits : isPlainFrom [c] = true) : c ≠ ' ' := by
  simp only [isPlainFrom, Bool.and_eq_true, bne_iff_ne, ne_eq] at fits
  simpa using fits.1.2

theorem isPlainFrom_next {c d : Char} {s : List Char} (fits : isPlainFrom (c :: d :: s) = true) :
    (d = ':' → isBlankOrEnd (s.headD '\x00') = false) ∧ (c = ' ' → d ≠ '#') := by
  simp only [isPlainFrom, Bool.and_eq_true, Bool.not_eq_true', hasBadPart,
    Bool.or_eq_false_iff, Bool.and_eq_false_iff, beq_eq_false_iff_ne] at fits
  obtain ⟨_, ⟨colon, sign⟩, _⟩ := fits
  constructor
  · rintro rfl
    exact colon.resolve_left (fun h => h rfl)
  · rintro rfl
    exact sign.resolve_right (by decide)

/-- The rest of a plain text from a character that is no space on is written as a plain scalar. -/
def WrittenPlain (split : Bool) (indent : Nat) (s : List Char) : Prop :=
  ∀ column afterSpace, s ≠ [] → s.head? ≠ some ' ' →
    (s.head? = some ':' → isBlankOrEnd ((s.drop 1).headD '\x00') = false) →
    PlainText indent (plainFrom split indent column afterSpace s) s

/-- From a space on, a gap is written and then a plain scalar. Only where no space stands before it
may the gap be a fold. -/
def WrittenGap (split : Bool) (indent : Nat) (s : List Char) : Prop :=
  ∀ column afterSpace, s.head? = some ' ' →
    ∃ g w b t, plainFrom split indent column afterSpace s = g ++ w ∧ s = b ++ t ∧
      Gap indent g b ∧ w.head? ≠ some '#' ∧ PlainText indent w t ∧
      (afterSpace = true → ∃ n, g = List.replicate (n + 1) ' ')

variable {split : Bool} {indent : Nat} {c : Char} {s : List Char}

theorem WrittenPlain.cons (text : WrittenPlain split indent s) (gap : WrittenGap split indent s)
    (fits : isPlainFrom (c :: s) = true) : WrittenPlain split indent (c :: s) := by
  intro column afterSpace _ start colon
  have printable := (isPlainFrom_tail fits).1
  have solid : c ≠ ' ' := by simpa using start
  have spaceless : (c == ' ') = false := beq_eq_false_iff_ne.mpr solid
  have same : plainFrom split indent column afterSpace (c :: s) =
      c :: plainFrom split indent (column + 1) false s := by
    simp [plainFrom, spaceless]
  rw [same]
  cases s with
  | nil =>
    have other : c ≠ ':' := by
      rintro rfl
      exact absurd (colon rfl) (by decide)
    exact .run (.single printable solid other)
  | cons d s =>
    by_cases space : d = ' '
    · subst space
      have other : c ≠ ':' := by
        rintro rfl
        cases colon rfl
      obtain ⟨g, w, b, t, written, same, gap, sign, more, -⟩ := gap (column + 1) false rfl
      rw [written, same]
      exact .gap (.single printable solid other) gap sign more
    · have next := isPlainFrom_next fits
      refine (text (column + 1) false (by simp) (by simpa using space) ?_).cons printable solid
      intro same
      exact next.1 (by simpa using same)

/-- A space before more spaces makes their gap longer. -/
theorem WrittenGap.more (gap : WrittenGap split indent (' ' :: s)) :
    WrittenGap split indent (' ' :: ' ' :: s) := by
  intro column afterSpace _
  have same : plainFrom split indent column afterSpace (' ' :: ' ' :: s) =
      ' ' :: plainFrom split indent (column + 1) true (' ' :: s) := by
    simp [plainFrom]
  obtain ⟨g, w, b, t, written, rest, gap, sign, more, single⟩ := gap (column + 1) true rfl
  obtain ⟨n, rfl⟩ := single rfl
  have blanks : b = List.replicate (n + 1) ' ' := by
    generalize spaces : List.replicate (n + 1) ' ' = g at gap
    cases gap with
    | spaces m => rw [← spaces]
    | fold => cases spaces
  subst blanks
  rw [same, written, rest]
  exact ⟨_, w, _, t, rfl, rfl, .spaces (n + 1), sign, more, fun _ => ⟨n + 1, rfl⟩⟩

/-- A space before text is a gap of its own, or a fold. -/
theorem WrittenGap.one {d : Char} (text : WrittenPlain split indent (d :: s)) (solid : d ≠ ' ')
    (fits : isPlainFrom (' ' :: d :: s) = true) : WrittenGap split indent (' ' :: d :: s) := by
  intro column afterSpace _
  have next := isPlainFrom_next fits
  have more : ∀ column,
      PlainText indent (plainFrom split indent column true (d :: s)) (d :: s) := by
    intro column
    refine text column true (by simp) (by simpa using solid) ?_
    intro same
    exact next.1 (by simpa using same)
  have sign : ∀ column,
      (plainFrom split indent column true (d :: s)).head? ≠ some '#' := by
    intro column
    have other := next.2 rfl
    simpa [plainFrom, solid] using other
  rw [plainFrom]
  split
  · next fold =>
    simp only [Bool.and_eq_true, Bool.not_eq_true'] at fold
    refine ⟨_, _, [' '], _, rfl, rfl, .fold, sign _, more _, ?_⟩
    intro after
    rw [fold.1.1.1.2] at after
    cases after
  · exact ⟨[' '], _, [' '], _, rfl, rfl, .spaces 0, sign _, more _, fun _ => ⟨0, rfl⟩⟩

theorem WrittenGap.cons (text : WrittenPlain split indent s) (gap : WrittenGap split indent s)
    (fits : isPlainFrom (c :: s) = true) : WrittenGap split indent (c :: s) := by
  intro column afterSpace blank
  cases Option.some.inj blank
  cases s with
  | nil => exact absurd rfl (isPlainFrom_last fits)
  | cons d s =>
    by_cases space : d = ' '
    · subst space
      exact gap.more column afterSpace rfl
    · exact WrittenGap.one text space fits column afterSpace rfl

theorem plainFrom_written (split : Bool) (indent : Nat) (s : List Char)
    (fits : isPlainFrom s = true) : WrittenPlain split indent s ∧ WrittenGap split indent s := by
  induction s with
  | nil =>
    constructor
    · exact fun _ _ nonempty => absurd rfl nonempty
    · exact fun _ _ blank => nomatch blank
  | cons c s ih =>
    obtain ⟨text, gap⟩ := ih (isPlainFrom_tail fits).2
    constructor
    · exact text.cons gap fits
    · exact WrittenGap.cons text gap fits

theorem ofText_fits (s : List Char) :
    (ofText s = .plain → fitsPlain s = true ∧ s ≠ []) ∧
      (ofText s = .singleQuoted → fitsSingleQuotes s = true) := by
  unfold ofText
  split
  · next plain =>
    simp only [Bool.and_eq_true] at plain
    constructor
    · intro _
      refine ⟨plain.2, ?_⟩
      rintro rfl
      exact absurd plain.1 (by decide)
    · exact fun other => nomatch other
  · split
    · next fits =>
      constructor
      · exact fun other => nomatch other
      · exact fun _ => fits
    · constructor
      · exact fun other => nomatch other
      · exact fun other => nomatch other

theorem plainFrom_plain (split : Bool) (indent column : Nat) {s : List Char}
    (fits : fitsPlain s = true) (nonempty : s ≠ []) :
    PlainText indent (plainFrom split indent column false s) s := by
  obtain ⟨c, s, rfl⟩ := List.exists_cons_of_ne_nil nonempty
  simp only [fitsPlain, Bool.and_eq_true, bne_iff_ne, ne_eq, Bool.not_eq_true'] at fits
  obtain ⟨⟨⟨⟨⟨all, solid⟩, last⟩, _⟩, start⟩, part⟩ := fits
  have goes : isPlainFrom (c :: s) = true := by
    simp only [isPlainFrom, Bool.and_eq_true, bne_iff_ne, ne_eq, Bool.not_eq_true']
    exact ⟨⟨all, last⟩, part⟩
  apply (plainFrom_written split indent _ goes).1 column false nonempty (by simpa using solid)
  intro colon
  cases Option.some.inj colon
  simpa [isBadStart] using start

end Style

end ClusterManifest.Yaml
