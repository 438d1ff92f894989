import ClusterManifest.Proofs.Yaml.Quoted
import ClusterManifest.Yaml.Printer

/-! What the printer puts between quotes, wherever its lines are folded, is in the grammar for
the text that it prints. -/

namespace ClusterManifest.Yaml

theorem SingleQuoted.space {w s : List Char} (more : SingleQuoted w s)
    (next : StartsSolid w ∨ w.head? = some ' ') : SingleQuoted (' ' :: w) (' ' :: s) := by
  rcases next with solid | blank
  · exact .spaces 0 solid more
  · cases more with
    | nil => cases blank
    | char solid _ _ =>
      cases blank
      exact absurd solid (by decide)
    | quote _ => cases blank
    | spaces n solid more => exact .spaces (n + 1) solid more
    | fold => cases blank
    | breaks => cases blank

theorem DoubleQuoted.space {w : List Char} {s : List Text.CodePoint} (more : DoubleQuoted w s)
    (next : StartsSolid w ∨ w.head? = some ' ') :
    DoubleQuoted (' ' :: w) (Style.space :: s) := by
  rcases next with solid | blank
  · exact .spaces 0 solid more
  · cases more with
    | nil => cases blank
    | char solid _ _ =>
      cases blank
      exact absurd solid (by decide)
    | letter => cases blank
    | code => cases blank
    | spaces n solid more => exact .spaces (n + 1) solid more
    | fold => cases blank

/-- What stands between double quotes after a space that nothing shields. -/
theorem DoubleQuoted.afterSpace {w : List Char} {s : List Text.CodePoint}
    (written : DoubleQuoted (' ' :: w) s) : ∃ t, s = Style.space :: t ∧ DoubleQuoted w t := by
  generalize whole : ' ' :: w = u at written
  cases written with
  | nil => cases whole
  | char solid _ _ _ =>
    cases whole
    exact absurd solid (by decide)
  | letter => cases whole
  | code => cases whole
  | fold => cases whole
  | @spaces w' t n solid more =>
    cases whole
    cases n with
    | zero => exact ⟨t, rfl, more⟩
    | succ n => exact ⟨_, rfl, .spaces n solid more⟩

namespace Style

theorem isOrdinary_iff {c : Char} : isOrdinary c = true ↔ c = '\n' ∨ isPrintable c = true := by
  simp [isOrdinary, isPrintable]

theorem solid_of_printable {c : Char} (printable : isPrintable c = true) (text : c ≠ ' ') :
    isBlankOrEnd c = false := by
  have range := isPrintable_iff.mp printable
  have unbroken := not_isBreak_of_printable printable
  have tab : c ≠ '\t' := ne_of_toNat_ne (by simp; omega)
  have nul : c ≠ '\x00' := ne_of_toNat_ne (by simp; omega)
  simp [isBlankOrEnd, isSpaceOrEnd, isLineEnd, unbroken, tab, nul, text]

theorem startsSolid_cons {c : Char} {w : List Char} (solid : isBlankOrEnd c = false) :
    StartsSolid (c :: w) := by
  intro x hx
  cases hx
  exact solid

theorem fitsSingleQuotes_tail {c : Char} {s : List Char}
    (fits : fitsSingleQuotes (c :: s) = true) : fitsSingleQuotes s = true := by
  cases s with
  | nil => rfl
  | cons d s =>
    simp only [fitsSingleQuotes, List.all_cons, hasPair, Bool.and_eq_true, Bool.not_eq_true',
      Bool.or_eq_false_iff] at fits ⊢
    exact ⟨⟨fits.1.1.2, fits.1.2.2⟩, fits.2.2⟩

theorem fitsSingleQuotes_head {c : Char} {s : List Char}
    (fits : fitsSingleQuotes (c :: s) = true) : c = '\n' ∨ isPrintable c = true := by
  simp only [fitsSingleQuotes, List.all_cons, Bool.and_eq_true] at fits
  exact isOrdinary_iff.mp fits.1.1.1

theorem fitsSingleQuotes_pair {c d : Char} {s : List Char}
    (fits : fitsSingleQuotes (c :: d :: s) = true) :
    ¬(c = ' ' ∧ d = '\n') ∧ ¬(c = '\n' ∧ d = ' ') := by
  simp only [fitsSingleQuotes, hasPair, Bool.and_eq_true, Bool.not_eq_true',
    Bool.or_eq_false_iff, Bool.and_eq_false_iff, beq_eq_false_iff_ne] at fits
  constructor
  · rintro ⟨rfl, rfl⟩
    simpa using fits.1.2.1
  · rintro ⟨rfl, rfl⟩
    simpa using fits.2.1

/-- The spaces before what follows a line feed: none before another line feed. -/
def indentation (indent : Nat) (s : List Char) : List Char :=
  if s.head? == some '\n' then [] else List.replicate indent ' '

theorem singleQuotedFrom_solid {c : Char} {s : List Char} {split : Bool} {indent column : Nat}
    {before : Option Char} (printable : isPrintable c = true) (text : c ≠ ' ') :
    StartsSolid (singleQuotedFrom split indent column before (c :: s)) := by
  have line : c ≠ '\n' := by
    rintro rfl
    exact absurd printable (by decide)
  rw [singleQuotedFrom]
  simp only [beq_eq_false_iff_ne.mpr text, beq_eq_false_iff_ne.mpr line, Bool.false_and,
    Bool.false_eq_true, if_false]
  split
  · exact startsSolid_cons rfl
  · exact startsSolid_cons (solid_of_printable printable text)

theorem startsSolid_nil : StartsSolid [] := fun _ none => nomatch none

/-- The rest of a text is written in single quotes as the grammar has it, unless it is in the middle
of a group of line feeds. -/
def WrittenSingle (split : Bool) (indent : Nat) (s : List Char) : Prop :=
  ∀ column before, fitsSingleQuotes (before.toList ++ s) = true →
    (before ≠ some '\n' ∨ s.head? ≠ some '\n') →
    SingleQuoted (singleQuotedFrom split indent column before s) s

/-- What is written after a line feed is the rest of its group, and then text. -/
def WrittenGroup (split : Bool) (indent : Nat) (s : List Char) : Prop :=
  ∀ column, fitsSingleQuotes ('\n' :: s) = true →
    ∃ m w t, indentation indent s ++ singleQuotedFrom split indent column (some '\n') s =
        List.replicate m '\n' ++ (List.replicate indent ' ' ++ w) ∧
      s = List.replicate m '\n' ++ t ∧ StartsSolid w ∧ SingleQuoted w t

theorem writtenSingle_nil (split : Bool) (indent : Nat) : WrittenSingle split indent [] := by
  intro column before _ _
  simpa [singleQuotedFrom] using SingleQuoted.nil

theorem writtenGroup_nil (split : Bool) (indent : Nat) : WrittenGroup split indent [] := by
  intro column _
  exact ⟨0, [], [], by simp [indentation, singleQuotedFrom], rfl, startsSolid_nil, .nil⟩

section WrittenSingle

variable {split : Bool} {n : Nat} {c : Char} {s : List Char}

/-- A space becomes a line break where text follows. -/
theorem WrittenSingle.fold (text : WrittenSingle split (n + 1) s)
    (fits : fitsSingleQuotes (' ' :: s) = true) (nonempty : s ≠ [])
    (spaceless : s.head? ≠ some ' ') :
    SingleQuoted (newLine (n + 1) ++ singleQuotedFrom split (n + 1) (n + 1) (some ' ') s)
      (' ' :: s) := by
  obtain ⟨d, s, rfl⟩ := List.exists_cons_of_ne_nil nonempty
  have noBreak : d ≠ '\n' := fun same => (fitsSingleQuotes_pair fits).1 ⟨rfl, same⟩
  have noSpace : d ≠ ' ' := by simpa using spaceless
  have printable := (fitsSingleQuotes_head (fitsSingleQuotes_tail fits)).resolve_left noBreak
  exact .fold n (singleQuotedFrom_solid printable noSpace)
    (text (n + 1) (some ' ') fits (.inl (by decide)))

/-- The first line feed of a group is written twice. -/
theorem WrittenGroup.breaks (group : WrittenGroup split (n + 1) s)
    (fits : fitsSingleQuotes ('\n' :: s) = true) :
    SingleQuoted (['\n', '\n'] ++ (indentation (n + 1) s ++
      singleQuotedFrom split (n + 1) (n + 1) (some '\n') s)) ('\n' :: s) := by
  obtain ⟨m, w, t, written, rfl, solid, more⟩ := group (n + 1) fits
  rw [written]
  exact SingleQuoted.breaks m n solid more

/-- A space within a line stands before text or before more spaces. -/
theorem WrittenSingle.space (text : WrittenSingle split (n + 1) s)
    (fits : fitsSingleQuotes (' ' :: s) = true) (column : Nat) :
    SingleQuoted (' ' :: singleQuotedFrom split (n + 1) column (some ' ') s) (' ' :: s) := by
  apply (text column (some ' ') fits (.inl (by decide))).space
  cases s with
  | nil => exact .inl startsSolid_nil
  | cons d s =>
    by_cases again : d = ' '
    · subst again
      right
      simp [singleQuotedFrom]
    · left
      have noBreak : d ≠ '\n' := fun same => (fitsSingleQuotes_pair fits).1 ⟨rfl, same⟩
      have printable := (fitsSingleQuotes_head (fitsSingleQuotes_tail fits)).resolve_left noBreak
      exact singleQuotedFrom_solid printable again

theorem WrittenSingle.cons (text : WrittenSingle split (n + 1) s)
    (group : WrittenGroup split (n + 1) s) : WrittenSingle split (n + 1) (c :: s) := by
  intro column before fits first
  have fitsHere : fitsSingleQuotes (c :: s) = true := by
    cases before with
    | none => exact fits
    | some b => exact fitsSingleQuotes_tail fits
  rw [singleQuotedFrom]
  split
  · next fold =>
    simp only [Bool.and_eq_true, beq_iff_eq, bne_iff_ne, Bool.not_eq_true',
      List.isEmpty_eq_false_iff] at fold
    obtain ⟨⟨⟨⟨⟨⟨rfl, _⟩, _⟩, nonempty⟩, spaceless⟩, _⟩, _⟩ := fold
    exact text.fold fitsHere nonempty spaceless
  · split
    · next quote =>
      cases eq_of_beq quote
      exact .quote (text _ _ fitsHere (.inl (by decide)))
    · next unquoted =>
      split
      · next line =>
        cases eq_of_beq line
        -- this is the first line feed of its group, so it is written twice
        have alone : before ≠ some '\n' := first.resolve_right (fun other => other rfl)
        rw [beq_eq_false_iff_ne.mpr alone]
        simp only [Bool.false_eq_true, if_false]
        rw [List.append_assoc]
        exact group.breaks fitsHere
      · next line =>
        have line : c ≠ '\n' := by simpa using line
        have printable := (fitsSingleQuotes_head fitsHere).resolve_left line
        by_cases space : c = ' '
        · subst space
          exact text.space fitsHere (column + 1)
        · exact .char (solid_of_printable printable space) (by simpa using unquoted)
            (text (column + 1) (some c) fitsHere (.inl (by simpa using line)))

theorem WrittenGroup.cons (here : WrittenSingle split (n + 1) (c :: s))
    (group : WrittenGroup split (n + 1) s) : WrittenGroup split (n + 1) (c :: s) := by
  intro column fits
  by_cases line : c = '\n'
  · subst line
    obtain ⟨m, w, t, written, rfl, solid, more⟩ := group (n + 1) (fitsSingleQuotes_tail fits)
    refine ⟨m + 1, w, t, ?_, rfl, solid, more⟩
    rw [List.replicate_succ, List.cons_append, ← written]
    simp [indentation, singleQuotedFrom]
  · have text : c ≠ ' ' := fun same => (fitsSingleQuotes_pair fits).2 ⟨rfl, same⟩
    have printable := (fitsSingleQuotes_head (fitsSingleQuotes_tail fits)).resolve_left line
    have other : (c :: s).head? ≠ some '\n' := by simpa using line
    refine ⟨0, _, c :: s, ?_, rfl, singleQuotedFrom_solid printable text,
      here column (some '\n') fits (.inr other)⟩
    simp [indentation, line]

end WrittenSingle

theorem singleQuotedFrom_written (split : Bool) {indent : Nat} (indented : 0 < indent)
    (s : List Char) : WrittenSingle split indent s := by
  obtain ⟨n, rfl⟩ := Nat.exists_eq_succ_of_ne_zero (Nat.ne_of_gt indented)
  -- both parts go together: a group is followed by text, and text by a group
  have both : WrittenSingle split (n + 1) s ∧ WrittenGroup split (n + 1) s := by
    induction s with
    | nil => exact ⟨writtenSingle_nil _ _, writtenGroup_nil _ _⟩
    | cons c s ih =>
      have here : WrittenSingle split (n + 1) (c :: s) := ih.1.cons ih.2
      exact ⟨here, WrittenGroup.cons here ih.2⟩
  exact both.1

theorem hexDigit?_upper : ∀ d < 16, Text.hexDigit? (Nat.digitChar d).toUpper = some d := by
  decide

theorem upperHex_worth (width n : Nat) (small : n < Nat.pow 16 width) :
    ((upperHex width n).filterMap Text.hexDigit?).length = width ∧
      Text.ofDigits 16 ((upperHex width n).filterMap Text.hexDigit?) = n := by
  induction width generalizing n with
  | zero =>
    have none : n = 0 := by simpa using small
    subst none
    exact ⟨rfl, rfl⟩
  | succ width ih =>
    have higher := ih (n / 16) (by
      rw [Nat.div_lt_iff_lt_mul (by decide)]
      exact small)
    have last := hexDigit?_upper (n % 16) (Nat.mod_lt _ (by decide))
    have cut : (upperHex (width + 1) n).filterMap Text.hexDigit? =
        (upperHex width (n / 16)).filterMap Text.hexDigit? ++ [n % 16] := by
      simp [upperHex, Text.hexPadded, last]
    rw [cut, List.length_append, higher.1]
    refine ⟨rfl, ?_⟩
    rw [Text.ofDigits, List.foldl_append]
    change Text.ofDigits 16 _ * 16 + n % 16 = n
    rw [higher.2]
    omega

theorem length_upperHex (width n : Nat) : (upperHex width n).length = width := by
  rw [upperHex, List.length_map, Text.length_hexPadded]

theorem escapeLetter?_stands {x : Text.CodePoint} {d : Char} (letter : escapeLetter? x = some d) :
    Token.escape? d = some x := by
  unfold escapeLetter? at letter
  split at letter <;>
    first | contradiction | (cases letter; next h => exact congrArg some (Fin.ext h.symm))

theorem escape_written {x : Text.CodePoint} {w : List Char} {s : List Text.CodePoint}
    (more : DoubleQuoted w s) : DoubleQuoted (escape x ++ w) (x :: s) := by
  have byCode : ∀ (d : Char) (width : Nat), Token.escape? d = none →
      Token.escapeWidth? d = some width → x.val < Nat.pow 16 width →
      DoubleQuoted ('\\' :: d :: (upperHex width x.val ++ w)) (x :: s) := by
    intro d width unnamed known small
    have worth := upperHex_worth width x.val small
    have length := length_upperHex width x.val
    exact .code unnamed (by rw [length, known]) (by rw [length, worth.1]) worth.2 more
  rw [escape]
  split
  · next letter => exact .letter (escapeLetter?_stands letter) more
  · split
    · next small => exact byCode 'x' 2 rfl rfl small
    · split
      · next small => exact byCode 'u' 4 rfl rfl small
      · exact byCode 'U' 8 rfl rfl (Nat.lt_of_lt_of_le x.isLt (by decide))

/-- A code point that stands for itself is a character. -/
theorem isUnescaped_char {x : Text.CodePoint} (kind : isUnescaped x = true) :
    .ofChar x.char = x ∧ isPrintable x.char = true ∧ x.char ≠ '"' ∧ x.char ≠ '\\' := by
  simp only [isUnescaped, Bool.and_eq_true, decide_eq_true_eq, bne_iff_ne] at kind
  obtain ⟨⟨⟨low, high⟩, unquoted⟩, unescaped⟩ := kind
  have whole : x.isSurrogate = false := by
    rw [Text.CodePoint.isSurrogate, Bool.and_eq_false_iff]
    exact .inl (decide_eq_false (by omega))
  have char := Text.CodePoint.ofChar_char whole
  refine ⟨char, isPrintable_iff.mpr ?_, ?_, ?_⟩
  · rw [← Text.CodePoint.val_ofChar, char]
    exact ⟨low, high⟩
  · exact fun same => unquoted (by rw [← char, same])
  · exact fun same => unescaped (by rw [← char, same])

theorem isUnescaped_solid {x : Text.CodePoint} (kind : isUnescaped x = true)
    (text : x ≠ space) : isBlankOrEnd x.char = false := by
  obtain ⟨char, printable, -, -⟩ := isUnescaped_char kind
  refine solid_of_printable printable (fun blank => text ?_)
  rw [← char, blank]
  rfl

theorem escape_head (x : Text.CodePoint) : ∃ t, escape x = '\\' :: t := by
  rw [escape]
  split
  · exact ⟨_, rfl⟩
  · split
    · exact ⟨_, rfl⟩
    · split <;> exact ⟨_, rfl⟩

theorem doubleQuotedFrom_solid {x : Text.CodePoint} (text : x ≠ space) (split : Bool)
    (indent column : Nat) (first afterEscape : Bool) (s : List Text.CodePoint) :
    StartsSolid (doubleQuotedFrom split indent column first afterEscape (x :: s)) := by
  have backslash : ∀ t, StartsSolid ('\\' :: t) := fun t => startsSolid_cons rfl
  rw [doubleQuotedFrom]
  dsimp only
  split
  · next unescaped =>
    split
    · exact backslash _
    · exact startsSolid_cons (isUnescaped_solid unescaped text)
  · obtain ⟨t, written⟩ := escape_head x
    rw [written]
    split <;> exact backslash _

theorem doubleQuotedFrom_space (split : Bool) (indent column : Nat) (first afterEscape : Bool)
    (s : List Text.CodePoint) :
    StartsSolid (doubleQuotedFrom split indent column first afterEscape (space :: s)) ∨
      (doubleQuotedFrom split indent column first afterEscape (space :: s)).head? = some ' ' := by
  have unescaped : isUnescaped space = true := rfl
  rw [doubleQuotedFrom]
  simp only [unescaped, if_true]
  split
  · exact .inl (startsSolid_cons rfl)
  · exact .inr rfl

theorem doubleQuotedFrom_head (split : Bool) (indent column : Nat) (first afterEscape : Bool)
    (s : List Text.CodePoint) :
    StartsSolid (doubleQuotedFrom split indent column first afterEscape s) ∨
      (doubleQuotedFrom split indent column first afterEscape s).head? = some ' ' := by
  cases s with
  | nil =>
    left
    intro x hx
    cases hx
  | cons x s =>
    by_cases blank : x = space
    · subst blank
      exact doubleQuotedFrom_space ..
    · exact .inl (doubleQuotedFrom_solid blank _ _ _ _ _ _)

theorem doubleQuotedFrom_shortLine {column : Nat} (short : column ≤ width) (split : Bool)
    (indent : Nat) (afterEscape : Bool) (s : List Text.CodePoint) :
    doubleQuotedFrom split indent column false afterEscape (space :: s) =
      ' ' :: doubleQuotedFrom split indent (column + 1) false false s := by
  have unescaped : isUnescaped space = true := rfl
  have blank : space.char = ' ' := rfl
  rw [doubleQuotedFrom]
  simp [unescaped, blank, Nat.not_lt.mpr short]

/-- A fold, which a backslash shields when a space comes after it. -/
theorem fold_written {w : List Char} {s : List Text.CodePoint} {n : Nat}
    (rest : List Text.CodePoint) (more : DoubleQuoted w s)
    (plain : rest.head? ≠ some space → StartsSolid w)
    (shielded : rest.head? = some space →
      ∃ t u, w = ' ' :: t ∧ s = space :: u ∧ DoubleQuoted t u) :
    DoubleQuoted (quotedFold (n + 1) rest ++ w) s := by
  rw [quotedFold]
  by_cases blank : rest.head? = some space
  · obtain ⟨t, u, rfl, rfl, behind⟩ := shielded blank
    have letter : DoubleQuoted ('\\' :: ' ' :: t) (space :: u) := .letter rfl behind
    have fold := DoubleQuoted.fold n (startsSolid_cons rfl) letter
    simpa [blank, newLine] using fold
  · have fold := DoubleQuoted.fold n (plain blank) more
    simpa [blank, newLine] using fold

/-- The rest of a text is written in double quotes as the grammar has it. -/
def WrittenDouble (split : Bool) (indent : Nat) (s : List Text.CodePoint) : Prop :=
  ∀ column first afterEscape,
    DoubleQuoted (doubleQuotedFrom split indent column first afterEscape s) s

section WrittenDouble

variable {split : Bool} {n : Nat} {x : Text.CodePoint} {s : List Text.CodePoint}

theorem WrittenDouble.unescaped (text : WrittenDouble split (n + 1) s)
    (kind : isUnescaped x = true) (column : Nat) :
    DoubleQuoted (x.char :: doubleQuotedFrom split (n + 1) column false false s) (x :: s) := by
  by_cases blank : x = space
  · subst blank
    exact (text _ _ _).space (doubleQuotedFrom_head ..)
  · obtain ⟨char, -, unquoted, other⟩ := isUnescaped_char kind
    have written := DoubleQuoted.char (isUnescaped_solid kind blank) unquoted other
      (text column false false)
    rwa [char] at written

/-- A line is folded before a character that stands for itself. -/
theorem WrittenDouble.foldBefore (text : WrittenDouble split (n + 1) s)
    (kind : isUnescaped x = true) (column : Nat) :
    DoubleQuoted (quotedFold (n + 1) (x :: s) ++
      x.char :: doubleQuotedFrom split (n + 1) column false false s) (x :: s) := by
  apply fold_written _ (text.unescaped kind column)
  · intro solid
    have blank : x ≠ space := fun same => solid (congrArg some same)
    exact startsSolid_cons (isUnescaped_solid kind blank)
  · intro blank
    cases Option.some.inj blank
    exact ⟨_, _, rfl, rfl, text _ _ _⟩

/-- A line is folded after an escape. It is only folded where it is full, so that the first
character of the next one, which is not indented that far, stands unfolded. -/
theorem WrittenDouble.foldAfter (text : WrittenDouble split (n + 1) s)
    {column : Nat} (short : column ≤ width) :
    DoubleQuoted (quotedFold (n + 1) s ++ doubleQuotedFrom split (n + 1) column false true s)
      s := by
  apply fold_written _ (text _ _ _)
  · intro solid
    cases s with
    | nil => exact startsSolid_nil
    | cons y s =>
      have blank : y ≠ space := fun same => solid (congrArg some same)
      exact doubleQuotedFrom_solid blank _ _ _ _ _ _
  · intro blank
    obtain ⟨s, rfl⟩ : ∃ t, s = space :: t := by
      cases s with
      | nil => cases blank
      | cons y s => exact ⟨s, by rw [Option.some.inj blank]⟩
    have unfolded := doubleQuotedFrom_shortLine short split (n + 1) true s
    have written := text column false true
    rw [unfolded] at written
    obtain ⟨t, same, inner⟩ := written.afterSpace
    cases same
    exact ⟨_, _, unfolded, rfl, inner⟩

end WrittenDouble

theorem doubleQuotedFrom_written (split : Bool) {indent : Nat} (indented : 0 < indent)
    (shallow : indent < width) (s : List Text.CodePoint) : WrittenDouble split indent s := by
  obtain ⟨n, rfl⟩ := Nat.exists_eq_succ_of_ne_zero (Nat.ne_of_gt indented)
  induction s with
  | nil => exact fun _ _ _ => .nil
  | cons x s ih =>
    intro column first afterEscape
    rw [doubleQuotedFrom]
    dsimp only
    split
    · next kind =>
      split
      · exact ih.foldBefore kind _
      · exact ih.unescaped kind _
    · split
      · rw [List.append_assoc]
        apply escape_written
        apply ih.foldAfter
        split
        · exact shallow
        · exact Nat.le_of_lt shallow
      · exact escape_written (ih _ _ _)

end Style

end ClusterManifest.Yaml
