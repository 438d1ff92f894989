import ClusterManifest.Proofs.Result
import ClusterManifest.Proofs.Text.Digit
import ClusterManifest.Proofs.Text.Split
import ClusterManifest.Proofs.Yaml.Scalar
import ClusterManifest.Yaml.Scalar
import Mathlib.Data.List.TakeWhile

/-! Whole numbers in decimal: they stand plain, look like numbers and nothing else, and are
read as what they are. -/

namespace ClusterManifest

namespace Text

namespace Numeral

theorem write_ok {n : Int} {w : List Char} (written : write n = .ok w) :
    w = decimalInt n ∧ (decimal n.natAbs).length ≤ digitLimit := by
  unfold write at written
  dsimp only at written
  split at written
  · cases written
  · next short => exact ⟨by rw [← Except.ok.inj written]; rfl, Nat.not_lt.mp short⟩

theorem filterMap_digits {s : List Char} (digits : ∀ c ∈ s, isAsciiDigit c = true) :
    s.filterMap (digitInBase? 10) = s.map asciiDigitValue := by
  induction s with
  | nil => rfl
  | cons c s ih =>
    have first := digit_cases (p := fun d => digitInBase? 10 d = some (asciiDigitValue d))
      (by decide) (digits c (List.mem_cons_self ..))
    have more := ih (fun d hd => digits d (List.mem_cons_of_mem _ hd))
    rw [List.filterMap_cons_some first, List.map_cons, more]

theorem singleUnderscores_of_none {s : List Char} (none : ∀ c ∈ s, c ≠ '_') :
    singleUnderscores s = true := by
  induction s with
  | nil => rfl
  | cons c s ih =>
    have first := none c (List.mem_cons_self ..)
    have more := ih (fun d hd => none d (List.mem_cons_of_mem _ hd))
    unfold singleUnderscores
    split
    · next h => exact absurd (List.cons.inj h).1 first
    · next h => exact absurd (List.cons.inj h).1 first
    · next h => rwa [← (List.cons.inj h).2]
    · rfl

theorem map_plainChar_digits {s : List Char} (digits : ∀ c ∈ s, isAsciiDigit c = true) :
    s.map plainChar = s := by
  have each : ∀ c ∈ s, plainChar c = c :=
    fun c hc => digit_cases (p := fun c => plainChar c = c) (by decide) (digits c hc)
  rw [List.map_congr_left each, List.map_id']

theorem dropSpace_digits {s : List Char} (digits : ∀ c ∈ s, isAsciiDigit c = true) :
    s.dropWhile isUnicodeSpace = s := by
  cases s with
  | nil => rfl
  | cons c s =>
    have solid : isUnicodeSpace c = false :=
      digit_cases (p := fun c => isUnicodeSpace c = false) (by decide)
        (digits c (List.mem_cons_self ..))
    rw [List.dropWhile_cons, solid]
    rfl

theorem splitSign_digits {s : List Char} (digits : ∀ c ∈ s, isAsciiDigit c = true) :
    splitSign s = (false, s) := by
  unfold splitSign
  split
  · exact absurd (digits '-' (List.mem_cons_self ..)) (by decide)
  · exact absurd (digits '+' (List.mem_cons_self ..)) (by decide)
  · rfl

/-- A numeral of digits alone is read for what they are worth in its base, or it is too long. -/
theorem read_of_digits {base : Nat} {s : List Char} (nonempty : s ≠ [])
    (unmarked : dropBaseMark base s = s)
    (digits : ∀ c ∈ s, isAsciiDigit c = true ∧ (digitInBase? base c).isSome = true) :
    read base s =
      if base = 10 && digitLimit < (s.filterMap (digitInBase? base)).length then
        .error (.tooLong (s.filterMap (digitInBase? base)).length)
      else .ok (ofDigits base (s.filterMap (digitInBase? base)) : Int) := by
  have ascii : ∀ c ∈ s, isAsciiDigit c = true := fun c hc => (digits c hc).1
  have each : ∀ d ∈ s, (d == '_' || (digitInBase? base d).isSome) = true := by
    intro d hd
    rw [(digits d hd).2, Bool.or_true]
  have other : ∀ d ∈ s, d ≠ '_' :=
    fun d hd => digit_cases (p := fun d => d ≠ '_') (by decide) (ascii d hd)
  have head : (s.head? == some '_') = false :=
    beq_eq_false_iff_ne.mpr (fun same => other '_' (List.mem_of_head? same) rfl)
  have some : (s.filterMap (digitInBase? base)).isEmpty = false := by
    obtain ⟨c, t, rfl⟩ := List.exists_cons_of_ne_nil nonempty
    obtain ⟨value, digit⟩ := Option.isSome_iff_exists.mp (digits c (List.mem_cons_self ..)).2
    rw [List.filterMap_cons_some digit]
    rfl
  simp only [read, map_plainChar_digits ascii, dropSpace_digits ascii, splitSign_digits ascii,
    unmarked, List.takeWhile_eq_self_iff.mpr each, List.dropWhile_eq_nil_iff.mpr each,
    singleUnderscores_of_none other, head, some]
  simp

theorem read_digits {base : Nat} {s : List Char} (nonempty : s ≠ [])
    (unmarked : dropBaseMark base s = s)
    (digits : ∀ c ∈ s, isAsciiDigit c = true ∧ (digitInBase? base c).isSome = true)
    (short : base = 10 → s.length ≤ digitLimit) :
    read base s = .ok (ofDigits base (s.filterMap (digitInBase? base)) : Int) := by
  have within : (decide (base = 10) &&
      decide (digitLimit < (s.filterMap (digitInBase? base)).length)) = false := by
    rw [Bool.and_eq_false_imp, decide_eq_true_eq, decide_eq_false_iff_not, Nat.not_lt]
    exact fun decimal => Nat.le_trans (List.length_filterMap_le ..) (short decimal)
  rw [read_of_digits nonempty unmarked digits, within]
  rfl

/-- Digits in base ten are worth what they write, unless there are too many. -/
theorem read_ten {s : List Char} (nonempty : s ≠ []) (digits : ∀ c ∈ s, isAsciiDigit c = true) :
    read 10 s =
      if digitLimit < s.length then .error (.tooLong s.length)
      else .ok (ofDigits 10 (s.map asciiDigitValue) : Int) := by
  have unmarked : dropBaseMark 10 s = s := by
    unfold dropBaseMark
    split
    · simp [baseMarks, *]
    · rfl
  have each : ∀ c ∈ s, isAsciiDigit c = true ∧ (digitInBase? 10 c).isSome = true :=
    fun c within => ⟨digits c within, digit_cases (p := fun c => (digitInBase? 10 c).isSome = true)
      (by decide) (digits c within)⟩
  rw [read_of_digits nonempty unmarked each, filterMap_digits digits, List.length_map]
  simp

theorem read_decimal {n : Nat} (short : (decimal n).length ≤ digitLimit) :
    read 10 (decimal n) = .ok (n : Int) := by
  rw [read_ten (decimal_ne_nil n) (fun c => isAsciiDigit_of_decimal), ofDigits_decimal,
    if_neg (Nat.not_lt.mpr short)]

end Numeral

end Text

namespace Yaml

theorem head_of_decimal (n : Nat) : ∃ c t, Text.decimal n = c :: t ∧
    Text.isAsciiDigit c = true := by
  obtain ⟨c, t, same⟩ := List.exists_cons_of_ne_nil (Text.decimal_ne_nil n)
  exact ⟨c, t, same, Text.isAsciiDigit_of_decimal (by rw [same]; exact List.mem_cons_self ..)⟩

theorem isRun_decimalInt (n : Int) : IsRun (Text.decimalInt n) := by
  have digit : ∀ c ∈ Text.decimal n.natAbs, isPrintable c = true ∧ c ≠ ' ' := by
    intro c hc
    exact Text.digit_cases (p := fun c => isPrintable c = true ∧ c ≠ ' ') (by decide)
      (Text.isAsciiDigit_of_decimal hc)
  have last : (Text.decimal n.natAbs).getLast? ≠ some ':' := by
    intro same
    have colon := Text.isAsciiDigit_of_decimal (List.mem_of_getLast? same)
    exact absurd colon (by decide)
  have run : IsRun (Text.decimal n.natAbs) := ⟨Text.decimal_ne_nil _, digit, last⟩
  unfold Text.decimalInt
  split
  · exact run.cons rfl (by decide)
  · exact run

theorem startsPlain_decimalInt (n : Int) : StartsPlain (Text.decimalInt n) := by
  obtain ⟨c, t, same, digit⟩ := head_of_decimal n.natAbs
  have first : isBlankOrEnd c = false ∧ isIndicator c = false ∧ c ≠ '-' ∧ c ≠ '.' :=
    Text.digit_cases (p := fun c => isBlankOrEnd c = false ∧ isIndicator c = false ∧
      c ≠ '-' ∧ c ≠ '.') (by decide) digit
  unfold Text.decimalInt
  split
  · refine ⟨⟨'-', c :: t, by rw [same], rfl, .inr ⟨by decide, c, t, rfl, first.1⟩⟩, ?_, ?_⟩
    · simp [same, first]
    · simp
  · refine ⟨⟨c, t, same, first.1, .inl first.2.1⟩, ?_, ?_⟩
    · simp [same, first]
    · simp [same, first]

theorem written_decimalInt (indent : Nat) (n : Int) :
    Written indent (Text.decimalInt n) (.text (Text.decimalInt n)) true :=
  .plain (.run (isRun_decimalInt n)) (startsPlain_decimalInt n)

namespace Tag

theorem unsigned_decimalInt (n : Int) : unsigned (Text.decimalInt n) = Text.decimal n.natAbs := by
  obtain ⟨c, t, same, digit⟩ := head_of_decimal n.natAbs
  have other : c ≠ '-' ∧ c ≠ '+' :=
    Text.digit_cases (p := fun c => c ≠ '-' ∧ c ≠ '+') (by decide) digit
  unfold Text.decimalInt
  split
  · rfl
  · rw [same]
    unfold unsigned
    split
    · next h => exact absurd (List.cons.inj h).1 other.1
    · next h => exact absurd (List.cons.inj h).1 other.2
    · rfl

theorem isInt_decimalInt (n : Int) : isInt (Text.decimalInt n) = true := by
  rw [isInt, unsigned_decimalInt]
  by_cases zero : n.natAbs = 0
  · rw [Text.decimal_single zero]
    rfl
  · obtain ⟨c, t, same, low, high⟩ := Text.decimal_head (Nat.pos_of_ne_zero zero)
    have digits : ∀ d ∈ c :: t, Text.isAsciiDigit d = true := by
      intro d hd
      exact Text.isAsciiDigit_of_decimal (by rw [same]; exact hd)
    have whole : colonParts (c :: t) = [c :: t] := by
      refine Text.splitWhere_of_none (fun d hd => ?_)
      exact Text.digit_cases (p := fun d => (d == ':') = false) (by decide) (digits d hd)
    have all : (c :: t).all isDigitOrMark = true := by
      rw [List.all_eq_true]
      intro d hd
      simp [isDigitOrMark, digits d hd]
    have first : c ≠ '0' := by
      rintro rfl
      exact absurd low (by decide)
    rw [same, isIntUnsigned.eq_def]
    split
    · next h => exact absurd (List.cons.inj h).1 first
    · next h => exact absurd (List.cons.inj h).1 first
    · next h => exact absurd (List.cons.inj h).1 first
    · next h => exact absurd (List.cons.inj h).1 first
    · rw [whole]
      simp [low, high, all]

theorem head_of_decimalInt (n : Int) : ∃ c t, Text.decimalInt n = c :: t ∧
    (c = '-' ∨ Text.isAsciiDigit c = true) := by
  obtain ⟨c, t, same, digit⟩ := head_of_decimal n.natAbs
  unfold Text.decimalInt
  split
  · exact ⟨'-', _, rfl, .inl rfl⟩
  · exact ⟨c, t, same, .inr digit⟩

theorem last_of_decimalInt (n : Int) : (Text.decimalInt n).getLast? ≠ some '\n' := by
  intro same
  have within := List.mem_of_getLast? same
  unfold Text.decimalInt at within
  split at within
  · rcases List.mem_cons.mp within with first | within
    · exact absurd first (by decide)
    · exact absurd (Text.isAsciiDigit_of_decimal within) (by decide)
  · exact absurd (Text.isAsciiDigit_of_decimal within) (by decide)

/-- Whether a text starts as a whole number does. -/
def startsNumber (s : List Char) : Bool := s.head?.any (fun c => c == '-' || Text.isAsciiDigit c)

theorem startsNumber_decimalInt (n : Int) : startsNumber (Text.decimalInt n) = true := by
  obtain ⟨c, t, same, first⟩ := head_of_decimalInt n
  rw [same]
  simpa [startsNumber] using first

theorem not_contains_number {s : List Char} (number : startsNumber s = true)
    {texts : List (List Char)} (other : ∀ t ∈ texts, startsNumber t = false) :
    texts.contains s = false := by
  rw [List.contains_eq_mem, decide_eq_false_iff_not]
  intro within
  rw [other s within] at number
  cases number

theorem not_isTruth_number {s : List Char} (number : startsNumber s = true) :
    isTruth s = false := by
  have letters : ∀ entry ∈ truths, ∀ t ∈ spellings entry.1, startsNumber t = false := by decide
  rw [isTruth, List.any_eq_false]
  intro entry within
  rw [not_contains_number number (letters entry within)]
  exact Bool.false_ne_true

/-- What starts as a number and goes on without a point is no fraction. -/
theorem not_isFloat_number {s : List Char} (number : startsNumber s = true)
    (magnitude : startsNumber (unsigned s) = true)
    (pointless : isFloatUnsigned (unsigned s) = false) : isFloat s = false := by
  have infinite : (spellings "inf" |>.map ('.' :: ·)).contains (unsigned s) = false :=
    not_contains_number magnitude (by decide)
  have nan : [".nan", ".NaN", ".NAN"].any (fun name => name.toList == s) = false := by
    have points : ∀ name ∈ [".nan", ".NaN", ".NAN"], startsNumber name.toList = false := by decide
    rw [List.any_eq_false]
    intro name within same
    rw [← eq_of_beq same, points name within] at number
    cases number
  have first : isPointFirst s = false := by
    unfold isPointFirst
    split
    · cases number
    · rfl
  simp only [isFloat, pointless, first, infinite, nan]
  rfl

theorem not_isFloat_decimalInt (n : Int) : isFloat (Text.decimalInt n) = false := by
  have marks : ∀ c ∈ Text.decimal n.natAbs, isDigitOrMark c = true := by
    intro c hc
    simp [isDigitOrMark, Text.isAsciiDigit_of_decimal hc]
  have magnitude : startsNumber (unsigned (Text.decimalInt n)) = true := by
    obtain ⟨c, t, same, digit⟩ := head_of_decimal n.natAbs
    rw [unsigned_decimalInt, same]
    simp [startsNumber, digit]
  refine not_isFloat_number (startsNumber_decimalInt n) magnitude ?_
  rw [unsigned_decimalInt]
  simp only [isFloatUnsigned, List.dropWhile_eq_nil_iff.mpr marks]

/-- What looks like a whole number, and like no fraction, is nothing that would count before. -/
theorem ofPlain_number {s : List Char} (number : startsNumber s = true)
    (pointless : isFloat s = false) (whole : isInt s = true)
    (line : s.getLast? ≠ some '\n') : ofPlain s = .int := by
  have last := beq_eq_false_iff_ne.mpr line
  have not : ∀ p : List Char → Bool, p s = false → looksLike p s = false := by
    intro p no
    simp [looksLike, no, last]
  have int : looksLike isInt s = true := by simp [looksLike, whole]
  rw [ofPlain, not _ (not_isTruth_number number), not _ pointless, int]
  rfl

theorem ofPlain_decimalInt (n : Int) : ofPlain (Text.decimalInt n) = .int :=
  ofPlain_number (startsNumber_decimalInt n) (not_isFloat_decimalInt n) (isInt_decimalInt n)
    (last_of_decimalInt n)

end Tag

namespace Scalar

theorem magnitude_decimal {n : Nat} (short : (Text.decimal n).length ≤ Text.Numeral.digitLimit) :
    magnitude (Text.decimal n) = .ok (n : Int) := by
  by_cases zero : n = 0
  · subst zero
    rfl
  · obtain ⟨c, t, same, low, _⟩ := Text.decimal_head (Nat.pos_of_ne_zero zero)
    have read := Text.Numeral.read_decimal short
    have first : c ≠ '0' := by
      rintro rfl
      exact absurd low (by decide)
    have colon : (c :: t).contains ':' = false := by
      rw [List.contains_eq_mem, decide_eq_false_iff_not, ← same]
      intro within
      exact absurd (Text.isAsciiDigit_of_decimal within) (by decide)
    rw [same] at read ⊢
    rw [magnitude.eq_def]
    split
    · next h => cases h
    · next h => exact absurd (List.cons.inj h).1 first
    · next h => exact absurd (List.cons.inj h).1 first
    · next h => exact absurd (List.cons.inj h).1 first
    · next h => exact absurd (List.cons.inj h).1 first
    · rw [colon, read]
      rfl

theorem ofText_decimalInt {n : Int}
    (short : (Text.decimal n.natAbs).length ≤ Text.Numeral.digitLimit) :
    ofText .int (Text.decimalInt n) = .ok (.int n) := by
  have unmarked : ∀ d ∈ Text.decimal n.natAbs, (d != '_') = true := by
    intro d hd
    exact Text.digit_cases (p := fun d => (d != '_') = true) (by decide)
      (Text.isAsciiDigit_of_decimal hd)
  have kept : (Text.decimal n.natAbs).filter (· != '_') = Text.decimal n.natAbs :=
    List.filter_eq_self.mpr unmarked
  have nonempty : (Text.decimalInt n).isEmpty = false := by
    obtain ⟨_, _, same, _⟩ := Tag.head_of_decimalInt n
    rw [same]
    rfl
  have parts : Text.Numeral.splitSign ((Text.decimalInt n).filter (· != '_')) =
      (decide (n < 0), Text.decimal n.natAbs) := by
    by_cases negative : n < 0
    · rw [Text.decimalInt, if_pos negative, List.filter_cons_of_pos (by decide), kept,
        decide_eq_true negative]
      rfl
    · rw [Text.decimalInt, if_neg negative, kept, decide_eq_false negative]
      exact Text.Numeral.splitSign_digits (fun _ => Text.isAsciiDigit_of_decimal)
  have worth := magnitude_decimal short
  have read : integer (Text.decimalInt n) = .ok n := by
    simp only [integer, parts, worth, bind, Except.bind, decide_eq_true_eq, Except.ok.injEq]
    split <;> omega
  simp only [ofText, nonempty, read]
  rfl

end Scalar

end Yaml

end ClusterManifest
