import ClusterManifest.Proofs.Json.Strings
import ClusterManifest.Proofs.Lists
import ClusterManifest.Proofs.Yaml.Numeral

/-! Reading numbers: each part takes as much as the grammar allows, so that a number is read whole
where what follows does not go on with it. -/

namespace ClusterManifest.Json

open Text (isAsciiDigit)

variable {s rest digits point places power : List Char} {exponent : Int} {c : Char}

theorem takeWhile_digits (plain : ∀ c ∈ digits, isAsciiDigit c = true) (ends : NoDigit rest) :
    (digits ++ rest).takeWhile isAsciiDigit = digits := by
  have none : rest.takeWhile isAsciiDigit = [] := by
    cases rest with
    | nil => rfl
    | cons c rest => rw [List.takeWhile_cons, ends c _ rfl, if_neg Bool.false_ne_true]
  rw [List.takeWhile_append_of_pos plain, none, List.append_nil]

theorem dropWhile_digits (plain : ∀ c ∈ digits, isAsciiDigit c = true) (ends : NoDigit rest) :
    (digits ++ rest).dropWhile isAsciiDigit = rest := by
  rw [List.dropWhile_append_of_pos plain]
  cases rest with
  | nil => rfl
  | cons c rest => rw [List.dropWhile_cons, ends c _ rfl, if_neg Bool.false_ne_true]

theorem noDigit_dropWhile (s : List Char) : NoDigit (s.dropWhile isAsciiDigit) := by
  intro c t first
  simpa [first] using List.head?_dropWhile_not isAsciiDigit s

theorem all_takeWhile (s : List Char) : ∀ c ∈ s.takeWhile isAsciiDigit, isAsciiDigit c = true :=
  List.all_eq_true.mp List.all_takeWhile

/-- A digit, and all the digits after it. -/
theorem digits_run (digit : isAsciiDigit c = true) :
    Digits (c :: s.takeWhile isAsciiDigit) :=
  ⟨List.cons_ne_nil _ _, List.forall_mem_cons.mpr ⟨digit, all_takeWhile s⟩⟩

theorem Digits.head (run : Digits digits) :
    ∃ c t, digits = c :: t ∧ isAsciiDigit c = true ∧ ∀ d ∈ t, isAsciiDigit d = true := by
  obtain ⟨c, t, rfl⟩ := List.exists_cons_of_ne_nil run.nonempty
  exact ⟨c, t, rfl, List.forall_mem_cons.mp run.plain⟩

theorem wholeDigits_complete (whole : Whole digits) (ends : NoDigit rest) :
    wholeDigits? (digits ++ rest) = some (digits, rest) := by
  obtain ⟨c, t, rfl, digit, others⟩ := whole.head
  by_cases zero : c = '0'
  · subst zero
    rw [whole.leading t rfl]
    rfl
  · simp [wholeDigits?, digit, takeWhile_digits others ends, dropWhile_digits others ends]

theorem wholeDigits_sound (read : wholeDigits? s = some (digits, rest)) :
    s = digits ++ rest ∧ Whole digits ∧ (digits = ['0'] ∨ NoDigit rest) := by
  unfold wholeDigits? at read
  split at read
  · cases read
    exact ⟨rfl, ⟨⟨by simp, forall_of_all (by decide)⟩, fun t same => (List.cons.inj same).2.symm⟩,
      .inl rfl⟩
  · next c s other =>
    split at read
    · next digit =>
      cases read
      refine ⟨?_, ⟨digits_run digit, fun t same => absurd (List.cons.inj same).1 ?_⟩,
        .inr (noDigit_dropWhile s)⟩
      · rw [List.cons_append, List.takeWhile_append_dropWhile]
      · rintro rfl
        exact other rfl
    · cases read
  · cases read

theorem fractionPart_digits (run : Digits digits) :
    fractionPart ('.' :: (digits ++ rest)) =
      ('.' :: (digits ++ rest).takeWhile isAsciiDigit,
        (digits ++ rest).dropWhile isAsciiDigit) := by
  obtain ⟨c, t, rfl, digit, -⟩ := run.head
  simp [fractionPart, digit]

theorem fractionPart_complete (fraction : Fraction point places) (ends : NoDigit rest)
    (bare : point = [] → NoFraction rest) : fractionPart (point ++ rest) = (point, rest) := by
  cases fraction with
  | none =>
    unfold fractionPart
    split
    · next d t same =>
      cases same
      split
      · next digit =>
        cases bare rfl ['.', d] [d] t (.some ⟨by simp, by simpa using digit⟩) rfl
      · rfl
    · rfl
  | some run =>
    rw [List.cons_append, fractionPart_digits run, takeWhile_digits run.plain ends,
      dropWhile_digits run.plain ends]

theorem noFraction_of_read (read : fractionPart rest = ([], s)) : NoFraction rest := by
  rintro _ _ t (_ | run) rfl
  · rfl
  · rw [List.cons_append, fractionPart_digits run] at read
    cases read

theorem fractionPart_sound (read : fractionPart s = (point, rest)) :
    s = point ++ rest ∧ (∃ places, Fraction point places) ∧ (point = [] → NoFraction rest) := by
  have parts : s = point ++ rest ∧ ∃ places, Fraction point places := by
    unfold fractionPart at read
    split at read
    · next d t =>
      split at read
      · next digit =>
        cases read
        exact ⟨by simp, _, .some (digits_run digit)⟩
      · cases read
        exact ⟨rfl, _, .none⟩
    · cases read
      exact ⟨rfl, _, .none⟩
  refine ⟨parts.1, parts.2, ?_⟩
  rintro rfl
  exact noFraction_of_read (parts.1 ▸ read)

/-- The sign of an exponent is taken where there is one. -/
def Unsigned (s : List Char) : Prop := ∀ t, s ≠ '+' :: t ∧ s ≠ '-' :: t

theorem sign_parts (s : List Char) : ∃ sign negative body, s = sign ++ body ∧
    ExponentSign sign negative ∧ (sign = [] → Unsigned body) := by
  by_cases plus : ∃ t, s = '+' :: t
  · obtain ⟨t, rfl⟩ := plus
    exact ⟨_, _, t, rfl, .plus, fun none => nomatch none⟩
  · by_cases minus : ∃ t, s = '-' :: t
    · obtain ⟨t, rfl⟩ := minus
      exact ⟨_, _, t, rfl, .minus, fun none => nomatch none⟩
    · exact ⟨_, _, s, rfl, .none, fun _ t =>
        ⟨fun same => plus ⟨t, same⟩, fun same => minus ⟨t, same⟩⟩⟩

theorem Digits.unsigned (run : Digits digits) (rest : List Char) : Unsigned (digits ++ rest) := by
  obtain ⟨c, t, rfl, digit, -⟩ := run.head
  have other : c ≠ '+' ∧ c ≠ '-' :=
    Text.digit_cases (p := fun c => c ≠ '+' ∧ c ≠ '-') (by decide) digit
  exact fun t' => ⟨fun same => other.1 (List.cons.inj same).1,
    fun same => other.2 (List.cons.inj same).1⟩

variable {letter : Char} {sign body : List Char} {negative : Bool}

theorem exponentPart_unmarked (other : ¬(letter = 'e' ∨ letter = 'E')) :
    exponentPart (letter :: rest) = ([], letter :: rest) := by
  simp [exponentPart, other]

theorem exponentPart_marked (mark : letter = 'e' ∨ letter = 'E')
    (signs : ExponentSign sign negative) (bare : sign = [] → Unsigned body) :
    exponentPart (letter :: (sign ++ body)) =
      if (body.takeWhile isAsciiDigit).isEmpty then ([], letter :: (sign ++ body))
      else (letter :: (sign ++ body.takeWhile isAsciiDigit), body.dropWhile isAsciiDigit) := by
  have marks : (letter == 'e' || letter == 'E') = true := by simpa using mark
  cases signs with
  | none =>
    unfold exponentPart
    simp only [marks, if_true, List.nil_append]
    split
    · next t => exact absurd rfl (bare rfl t).1
    · next t => exact absurd rfl (bare rfl t).2
    · rfl
  | plus | minus => simp [exponentPart, marks]

theorem exponentPart_digits (mark : letter = 'e' ∨ letter = 'E')
    (signs : ExponentSign sign negative) (run : Digits digits) :
    exponentPart (letter :: (sign ++ (digits ++ rest))) =
      (letter :: (sign ++ (digits ++ rest).takeWhile isAsciiDigit),
        (digits ++ rest).dropWhile isAsciiDigit) := by
  rw [exponentPart_marked mark signs (fun _ => run.unsigned rest)]
  obtain ⟨c, t, rfl, digit, -⟩ := run.head
  simp [digit]

theorem exponentPart_parts (read : exponentPart s = (power, rest)) :
    s = power ++ rest ∧ ∃ exponent, Exponent power exponent := by
  cases s with
  | nil =>
    cases read
    exact ⟨rfl, _, .none⟩
  | cons letter s =>
    by_cases mark : letter = 'e' ∨ letter = 'E'
    · obtain ⟨sign, negative, body, rfl, signs, unsigned⟩ := sign_parts s
      rw [exponentPart_marked mark signs unsigned] at read
      split at read
      · cases read
        exact ⟨rfl, _, .none⟩
      · next some =>
        cases read
        exact ⟨by simp, _, .some mark signs ⟨by simpa using some, all_takeWhile body⟩⟩
    · rw [exponentPart_unmarked mark] at read
      cases read
      exact ⟨rfl, _, .none⟩

theorem exponentPart_complete (written : Exponent power exponent) (ends : NoDigit rest)
    (bare : power = [] → NoExponent rest) : exponentPart (power ++ rest) = (power, rest) := by
  cases written with
  | none =>
    cases read : exponentPart rest with
    | mk power after =>
      obtain ⟨rfl, exponent, written⟩ := exponentPart_parts read
      cases bare rfl power exponent after written rfl
      exact read
  | some mark signs run =>
    rw [List.cons_append, List.append_assoc, exponentPart_digits mark signs run,
      takeWhile_digits run.plain ends, dropWhile_digits run.plain ends]

theorem noExponent_of_read (read : exponentPart rest = ([], s)) : NoExponent rest := by
  rintro _ _ t (_ | ⟨mark, signs, run⟩) rfl
  · rfl
  · rw [List.cons_append, List.append_assoc, exponentPart_digits mark signs run] at read
    cases read

theorem noDigit_exponent (written : Exponent power exponent) (ends : NoDigit rest) :
    NoDigit (power ++ rest) := by
  cases written with
  | none => exact ends
  | some mark _ _ =>
    intro c t same
    cases same
    rcases mark with rfl | rfl <;> decide

theorem noDigit_fraction (fraction : Fraction point places) (ends : NoDigit rest) :
    NoDigit (point ++ rest) := by
  cases fraction with
  | none => exact ends
  | some _ =>
    intro c t same
    cases same
    decide

theorem noFraction_exponent (written : Exponent power exponent) (bare : NoFraction rest) :
    NoFraction (power ++ rest) := by
  cases written with
  | none => exact bare
  | some mark _ _ =>
    rintro _ _ t (_ | _) same
    · rfl
    · obtain ⟨rfl, -⟩ := List.cons.inj same
      simp at mark

theorem noDigit_nil : NoDigit [] := fun _ _ same => nomatch same

theorem splitSign_exponent (signs : ExponentSign sign negative) (run : Digits digits) :
    Text.Numeral.splitSign (sign ++ digits) = (negative, digits) := by
  cases signs with
  | none => exact Text.Numeral.splitSign_digits run.plain
  | plus | minus => rfl

theorem Digits.all (run : Digits digits) :
    (digits.isEmpty || !digits.all isAsciiDigit) = false := by
  simpa using ⟨run.nonempty, run.plain⟩

/-- A decimal is worth its digits, the point left out, times a power of ten. -/
theorem ofUnsignedDecimal_parts (run : Digits digits) (fraction : Fraction point places)
    (written : Exponent power exponent) :
    Binary64.ofUnsignedDecimal? negative (digits ++ (point ++ power)) =
      some (.ofDecimal negative (worth (digits ++ places)) (exponent - places.length)) := by
  have powerEnds : NoDigit power := by simpa using noDigit_exponent written noDigit_nil
  have ends : NoDigit (point ++ power) := noDigit_fraction fraction powerEnds
  have some : digits ≠ [] := run.nonempty
  unfold Binary64.ofUnsignedDecimal?
  simp only [takeWhile_digits run.plain ends, dropWhile_digits run.plain ends]
  cases fraction with
  | none =>
    cases written with
    | none => simp [worth, some]
    | some mark signs power =>
      rcases mark with rfl | rfl <;>
        simp [splitSign_exponent signs power, power.all, worth, signed, some]
  | some after =>
    have taken := takeWhile_digits after.plain powerEnds
    have left := dropWhile_digits after.plain powerEnds
    cases written with
    | none =>
      rw [List.append_nil] at taken left
      simp [taken, left, worth, some]
    | some mark signs power =>
      rcases mark with rfl | rfl <;>
        simp [taken, left, splitSign_exponent signs power, power.all, worth, signed, some]

/-- What is read of a number after its sign, in the text from the sign on. -/
def readUnsigned (negative : Bool) (unsigned s : List Char) : Except Stop (Json × List Char) :=
  match wholeDigits? unsigned with
  | none => .error ⟨.value, s⟩
  | some (whole, afterWhole) =>
    let (fraction, afterFraction) := fractionPart afterWhole
    let (exponent, rest) := exponentPart afterFraction
    if fraction.isEmpty && exponent.isEmpty then
      match Text.Numeral.read 10 whole with
      | .error fault => .error ⟨.numeral fault, s⟩
      | .ok n => .ok (.int (if negative then -n else n), rest)
    else
      match Binary64.ofUnsignedDecimal? negative (whole ++ fraction ++ exponent) with
      | none => .error ⟨.value, s⟩
      | some x => .ok (.float x, rest)

theorem readNumber_minus (s : List Char) :
    readNumber ('-' :: s) = readUnsigned true s ('-' :: s) := rfl

theorem readNumber_plain (unsigned : ∀ t, s ≠ '-' :: t) :
    readNumber s = readUnsigned false s s := by
  unfold readNumber
  simp only
  rfl

theorem readNumber_digits (run : Digits digits) :
    readNumber (minus negative (digits ++ rest)) =
      readUnsigned negative (digits ++ rest) (minus negative (digits ++ rest)) := by
  cases negative with
  | true => exact readNumber_minus _
  | false => exact readNumber_plain (fun t => (run.unsigned rest t).2)

theorem readUnsigned_whole (whole : Whole digits) (ends : NumberEnd rest) :
    readUnsigned negative (digits ++ rest) s =
      if Text.Numeral.digitLimit < digits.length then
        .error ⟨.numeral (.tooLong digits.length), s⟩
      else .ok (.int (signed negative (worth digits)), rest) := by
  have noPoint : fractionPart rest = ([], rest) :=
    fractionPart_complete .none ends.digit (fun _ => ends.fraction)
  have noPower : exponentPart rest = ([], rest) :=
    exponentPart_complete .none ends.digit (fun _ => ends.exponent)
  simp only [readUnsigned, wholeDigits_complete whole ends.digit, noPoint, noPower,
    List.isEmpty_nil, Bool.and_self, if_true, Text.Numeral.read_ten whole.nonempty whole.plain]
  by_cases long : Text.Numeral.digitLimit < digits.length
  · rw [if_pos long, if_pos long]
  · rw [if_neg long, if_neg long]
    rfl

theorem readUnsigned_decimal (whole : Whole digits) (fraction : Fraction point places)
    (written : Exponent power exponent) (some : point ++ power ≠ []) (ends : NumberEnd rest) :
    readUnsigned negative (digits ++ (point ++ (power ++ rest))) s =
      .ok (.float (.ofDecimal negative (worth (digits ++ places)) (exponent - places.length)),
        rest) := by
  have powerEnds := noDigit_exponent written ends.digit
  have wholeRead := wholeDigits_complete whole (noDigit_fraction fraction powerEnds)
  have pointRead := fractionPart_complete fraction powerEnds
    (fun _ => noFraction_exponent written ends.fraction)
  have powerRead := exponentPart_complete written ends.digit (fun _ => ends.exponent)
  have notWhole : (point.isEmpty && power.isEmpty) = false := by
    simpa [List.isEmpty_iff] using some
  have value : Binary64.ofUnsignedDecimal? negative _ = _ :=
    ofUnsignedDecimal_parts whole.toDigits fraction written
  simp only [readUnsigned, wholeRead, pointRead, powerRead, notWhole, Bool.false_eq_true, if_false,
    List.append_assoc, value]

/-- The failure of a number that is too long. -/
def Told (long : Prop) (stop : Stop) : Prop := ∀ fault, stop.cause = .numeral fault → long

theorem readUnsigned_sound (negative : Bool) (unsigned s : List Char) :
    Ends (Told (∃ digits rest, unsigned = digits ++ rest ∧ Whole digits ∧ ¬Short digits ∧
        NumberEnd rest))
      (fun read => ∃ w, unsigned = w ++ read.2 ∧ Number Short (minus negative w) read.1)
      (readUnsigned negative unsigned s) := by
  unfold readUnsigned
  split
  · exact .error (fun _ same => nomatch same)
  · next digits afterWhole wholeRead =>
    obtain ⟨rfl, whole, last⟩ := wholeDigits_sound wholeRead
    cases pointRead : fractionPart afterWhole with
    | mk point afterPoint =>
    cases powerRead : exponentPart afterPoint with
    | mk power rest =>
    obtain ⟨rfl, ⟨places, fraction⟩, noFraction⟩ := fractionPart_sound pointRead
    obtain ⟨rfl, exponent, written⟩ := exponentPart_parts powerRead
    dsimp only
    rw [powerRead]
    split
    · next bare =>
      obtain ⟨rfl, rfl⟩ : point = [] ∧ power = [] := by simpa using bare
      rw [Text.Numeral.read_ten whole.nonempty whole.plain]
      by_cases long : Text.Numeral.digitLimit < digits.length
      · rw [if_pos long]
        have ended : NoDigit rest := by
          refine last.resolve_left ?_
          rintro rfl
          exact absurd long (by decide)
        exact .error (fun _ _ => ⟨digits, rest, rfl, whole, Nat.not_le.mpr long, ended,
          noFraction rfl, noExponent_of_read powerRead⟩)
      · rw [if_neg long]
        exact .ok ⟨digits, rfl, .whole whole (Nat.not_lt.mp long)⟩
    · next more =>
      have value : Binary64.ofUnsignedDecimal? negative _ = _ :=
        ofUnsignedDecimal_parts whole.toDigits fraction written
      rw [List.append_assoc, value]
      refine .ok ⟨digits ++ (point ++ power), by simp, .decimal whole fraction written ?_⟩
      simpa [List.isEmpty_iff] using more

theorem minus_append (negative : Bool) (s t : List Char) :
    minus negative s ++ t = minus negative (s ++ t) := by
  cases negative <;> rfl

theorem readNumber_parts (s : List Char) : ∃ negative unsigned,
    s = minus negative unsigned ∧ readNumber s = readUnsigned negative unsigned s := by
  by_cases signs : ∃ t, s = '-' :: t
  · obtain ⟨t, rfl⟩ := signs
    exact ⟨true, t, rfl, readNumber_minus t⟩
  · exact ⟨false, s, rfl, readNumber_plain (fun t same => signs ⟨t, same⟩)⟩

theorem readNumber_sound (s : List Char) :
    Ends (Told (Overlong s)) (fun read => ∃ w, s = w ++ read.2 ∧ Number Short w read.1)
      (readNumber s) := by
  obtain ⟨negative, unsigned, whole, read⟩ := readNumber_parts s
  rw [read]
  refine (readUnsigned_sound negative unsigned s).imp ?_ ?_
  · rintro stop told fault cause
    obtain ⟨digits, rest, rfl, digitsWhole, long, ends⟩ := told fault cause
    rw [whole, ← minus_append]
    exact .number digitsWhole long ends
  · rintro ⟨v, rest⟩ ⟨w, rfl, written⟩
    exact ⟨_, by rw [whole, minus_append], written⟩

theorem readNumber_whole (whole : Whole digits) (ends : NumberEnd rest) :
    readNumber (minus negative digits ++ rest) =
      if Text.Numeral.digitLimit < digits.length then
        .error ⟨.numeral (.tooLong digits.length), minus negative digits ++ rest⟩
      else .ok (.int (signed negative (worth digits)), rest) := by
  rw [minus_append, readNumber_digits whole.toDigits, readUnsigned_whole whole ends]

/-- The failure of a number that is too long, in a text that the grammar has all the same. -/
def Oversized (fits : List Char → Prop) (stop : Stop) : Prop :=
  (∃ fault, stop.cause = .numeral fault) ∧ ∃ digits, fits digits ∧ ¬Short digits

/-- A number of the grammar is read whole, or it is too long. -/
theorem readNumber_complete {fits : List Char → Prop} {w : List Char} {v : Json}
    (written : Number fits w v) (ends : NumberEnd rest) :
    Ends (Oversized fits) (fun read => read = (v, rest)) (readNumber (w ++ rest)) := by
  cases written with
  | @whole negative digits whole fit =>
    rw [readNumber_whole whole ends]
    by_cases long : Text.Numeral.digitLimit < digits.length
    · rw [if_pos long]
      exact .error ⟨⟨_, rfl⟩, digits, fit, Nat.not_le.mpr long⟩
    · rw [if_neg long]
      exact .ok rfl
  | decimal whole fraction written some =>
    rw [minus_append, List.append_assoc, List.append_assoc, readNumber_digits whole.toDigits,
      readUnsigned_decimal whole fraction written some ends]
    exact .ok rfl

end ClusterManifest.Json
