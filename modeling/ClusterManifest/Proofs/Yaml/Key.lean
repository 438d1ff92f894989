import ClusterManifest.Proofs.Yaml.Printed
import ClusterManifest.Proofs.Yaml.Scalar

/-! How a name is written before its colon: on one line, of printable characters, and the same
wherever it stands. -/

namespace ClusterManifest.Yaml.Style

theorem plainFrom_unsplit (indent column : Nat) (afterSpace : Bool) (s : List Char) :
    plainFrom false indent column afterSpace s = s := by
  induction s generalizing column afterSpace with
  | nil => rfl
  | cons c s ih => simp [plainFrom, ih]

/-- What single quotes hold for a character within a line. -/
def singleQuotedChar (c : Char) : List Char := if c == '\'' then ['\'', '\''] else [c]

theorem singleQuotedFrom_unsplit {s : List Char} (line : ∀ c ∈ s, c ≠ '\n')
    (indent column : Nat) (before : Option Char) :
    singleQuotedFrom false indent column before s = s.flatMap singleQuotedChar := by
  induction s generalizing column before with
  | nil => rfl
  | cons c s ih =>
    have first := line c (List.mem_cons_self ..)
    have more := ih (fun d hd => line d (List.mem_cons_of_mem _ hd))
    rw [List.flatMap_cons, ← more (column + 1) (some c)]
    by_cases quote : c = '\''
    · subst quote
      simp [singleQuotedFrom, singleQuotedChar, more]
    · simp [singleQuotedFrom, singleQuotedChar, first, quote]

/-- What double quotes hold for a code point. -/
def doubleQuotedCode (x : Text.CodePoint) : List Char :=
  if isUnescaped x then [x.char] else escape x

theorem doubleQuotedFrom_unsplit (indent column : Nat) (first afterEscape : Bool)
    (s : List Text.CodePoint) :
    doubleQuotedFrom false indent column first afterEscape s = s.flatMap doubleQuotedCode := by
  induction s generalizing column first afterEscape with
  | nil => rfl
  | cons x s ih =>
    rw [List.flatMap_cons, doubleQuotedCode, doubleQuotedFrom]
    by_cases unescaped : isUnescaped x = true
    · simp [unescaped, ih]
    · simp [unescaped, ih]

theorem isSimpleKey_line {s : List Char} (simple : isSimpleKey s = true) :
    ∀ c ∈ s, c ≠ '\n' := by
  intro c within
  simp only [isSimpleKey, Bool.and_eq_true, Bool.not_eq_true', List.any_eq_false] at simple
  have ends := simple.1.2 c within
  rintro rfl
  exact ends rfl

theorem write_simpleKey {s : List Char} (simple : isSimpleKey s = true) (indent column : Nat) :
    write false indent column s = write false 0 0 s := by
  have line := isSimpleKey_line simple
  unfold write
  split
  · rw [plainFrom_unsplit, plainFrom_unsplit]
  · rw [singleQuotedFrom_unsplit line, singleQuotedFrom_unsplit line]
  · simp only [inDoubleQuotes, doubleQuotedFrom_unsplit]

theorem upperHex_printable (width n : Nat) : ∀ c ∈ upperHex width n, isPrintable c = true := by
  have digit : ∀ d < 16, isPrintable (Nat.digitChar d).toUpper = true := by decide
  induction width generalizing n with
  | zero => simp [upperHex, Text.hexPadded]
  | succ width ih =>
    intro c within
    simp only [upperHex, Text.hexPadded, List.map_append, List.mem_append] at within
    rcases within with higher | last
    · exact ih _ c higher
    · rw [List.mem_map] at last
      obtain ⟨d, within, rfl⟩ := last
      rw [List.mem_singleton.mp within]
      exact digit _ (Nat.mod_lt _ (by decide))

theorem escape_printable (x : Text.CodePoint) : ∀ d ∈ escape x, isPrintable d = true := by
  have letter : ∀ d, escapeLetter? x = some d → isPrintable d = true := by
    intro d letter
    unfold escapeLetter? at letter
    split at letter <;> first | contradiction | (cases letter; rfl)
  have code : ∀ (mark : Char) (width : Nat), isPrintable mark = true →
      ∀ d ∈ '\\' :: mark :: upperHex width x.val, isPrintable d = true := by
    intro mark width printable d within
    simp only [List.mem_cons] at within
    rcases within with rfl | rfl | digit
    · rfl
    · exact printable
    · exact upperHex_printable width x.val d digit
  intro d within
  unfold escape at within
  split at within
  · next found =>
    simp only [List.mem_cons, List.not_mem_nil, or_false] at within
    rcases within with rfl | rfl
    · rfl
    · exact letter _ found
  · split at within
    · exact code 'x' 2 rfl d within
    · split at within
      · exact code 'u' 4 rfl d within
      · exact code 'U' 8 rfl d within

theorem fitsPlain_printable {s : List Char} (fits : fitsPlain s = true) :
    ∀ c ∈ s, isPrintable c = true := by
  cases s with
  | nil => simp
  | cons c s =>
    simp only [fitsPlain, Bool.and_eq_true] at fits
    exact List.all_eq_true.mp fits.1.1.1.1.1

theorem fitsSingleQuotes_ordinary {s : List Char} (fits : fitsSingleQuotes s = true) :
    ∀ c ∈ s, c = '\n' ∨ isPrintable c = true := by
  simp only [fitsSingleQuotes, Bool.and_eq_true] at fits
  exact fun c within => isOrdinary_iff.mp (List.all_eq_true.mp fits.1.1 c within)

theorem write_simpleKey_printable {s : List Char} (simple : isSimpleKey s = true)
    (indent column : Nat) : ∀ c ∈ write false indent column s, isPrintable c = true := by
  have line := isSimpleKey_line simple
  intro c within
  unfold write at within
  split at within
  · next style =>
    rw [plainFrom_unsplit] at within
    exact fitsPlain_printable ((ofText_fits s).1 style).1 c within
  · next style =>
    have fits := fitsSingleQuotes_ordinary ((ofText_fits s).2 style)
    rw [singleQuotedFrom_unsplit line] at within
    simp only [List.cons_append, List.mem_cons, List.mem_append, List.mem_flatMap,
      List.not_mem_nil, or_false] at within
    rcases within with rfl | ⟨d, inside, written⟩ | rfl
    · rfl
    · have printable := (fits d inside).resolve_left (line d inside)
      unfold singleQuotedChar at written
      split at written
      · have quote : c = '\'' := by simpa using written
        rw [quote]
        rfl
      · rw [List.mem_singleton.mp written]
        exact printable
    · rfl
  · rw [inDoubleQuotes, doubleQuotedFrom_unsplit] at within
    simp only [List.cons_append, List.mem_cons, List.mem_append, List.mem_flatMap,
      List.not_mem_nil, or_false] at within
    rcases within with rfl | ⟨x, _, written⟩ | rfl
    · rfl
    · unfold doubleQuotedCode at written
      split at written
      · next unescaped =>
        rw [List.mem_singleton.mp written]
        exact (isUnescaped_char unescaped).2.1
      · exact escape_printable x c written
    · rfl

end ClusterManifest.Yaml.Style
