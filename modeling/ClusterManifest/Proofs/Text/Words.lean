import ClusterManifest.Proofs.Text.Split

/-! Words and lines of a text. A word is found with the blanks before it and with what comes after
it; and a text has something on two lines where trimming leaves a line break in it. -/

namespace ClusterManifest.Text

def Blanks (s : List Char) : Prop := ∀ c ∈ s, isBlank c = true

structure IsWord (s : List Char) : Prop where
  nonempty : s ≠ []
  solid : ∀ c ∈ s, isBlank c = false

/-- Nothing at all, or what starts with a blank: a word before it ends there. -/
def Parted (s : List Char) : Prop := ∀ c ∈ s.head?, isBlank c = true

theorem words_cons_blank {c : Char} {s : List Char} (blank : isBlank c = true) :
    words (c :: s) = words s := by
  simp [words, splitWhere, blank]

theorem words_append_blanks {indent s : List Char} (blanks : Blanks indent) :
    words (indent ++ s) = words s := by
  induction indent with
  | nil => rfl
  | cons c indent ih =>
    obtain ⟨blank, others⟩ := List.forall_mem_cons.mp blanks
    exact (words_cons_blank blank).trans (ih others)

theorem words_append {word rest : List Char} (solid : IsWord word) (parted : Parted rest) :
    words (word ++ rest) = word :: words rest := by
  cases rest with
  | nil => simp [words, splitWhere_of_none solid.solid, splitWhere, solid.nonempty]
  | cons c rest =>
    have blank : isBlank c = true := parted c rfl
    have split : splitWhere isBlank (word ++ c :: rest) = word :: splitWhere isBlank rest :=
      splitWhere_append solid.solid blank
    rw [words_cons_blank blank]
    simp [words, split, solid.nonempty]

theorem head_dropWhile {p : Char → Bool} {s : List Char} {c : Char}
    (first : (s.dropWhile p).head? = some c) : p c = false := by
  have stopped := List.head?_dropWhile_not p s
  rw [first] at stopped
  simpa using stopped

/-- The first word of a text stands after blanks, and the other words after it. -/
theorem words_cons {s word : List Char} {others : List (List Char)}
    (found : words s = word :: others) :
    ∃ indent rest, s = indent ++ (word ++ rest) ∧ Blanks indent ∧ IsWord word ∧ Parted rest ∧
      words rest = others := by
  have blanks : Blanks (s.takeWhile isBlank) := List.all_eq_true.mp List.all_takeWhile
  have whole := List.takeWhile_append_dropWhile (p := isBlank) (l := s)
  have inner := List.takeWhile_append_dropWhile (p := fun c => !isBlank c)
    (l := s.dropWhile isBlank)
  have first : IsWord ((s.dropWhile isBlank).takeWhile (fun c => !isBlank c)) := by
    refine ⟨?_, fun c among => ?_⟩
    · cases starts : s.dropWhile isBlank with
      | nil =>
        rw [starts, List.append_nil] at whole
        have none := words_append_blanks (s := []) blanks
        rw [List.append_nil, whole, found] at none
        cases none
      | cons c t =>
        have solid : isBlank c = false := head_dropWhile (by rw [starts]; rfl)
        simp [solid]
    · simpa using List.all_eq_true.mp List.all_takeWhile c among
  have parted : Parted ((s.dropWhile isBlank).dropWhile (fun c => !isBlank c)) := by
    intro c starts
    simpa using head_dropWhile (Option.mem_def.mp starts)
  have later := words_append first parted
  rw [inner] at later
  have cut := words_append_blanks (s := s.dropWhile isBlank) blanks
  rw [whole, later, found] at cut
  cases cut
  exact ⟨_, _, by rw [inner, whole], blanks, first, parted, rfl⟩

/-- The ends of lines that Unicode knows, in all its forms. -/
def isLineBreak (c : Char) : Bool :=
  let n := c.toNat
  (10 ≤ n && n ≤ 13) || (28 ≤ n && n ≤ 30) || n == 0x85 || n == 0x2028 || n == 0x2029

theorem isBlank_of_lineBreak {c : Char} (ends : isLineBreak c = true) : isBlank c = true := by
  simp only [isLineBreak, isBlank] at ends ⊢
  grind

/-- There is something on either side of a line break. -/
def TwoLines (s : List Char) : Prop :=
  ∃ before c after, s = before ++ c :: after ∧ isLineBreak c = true ∧
    (∃ d ∈ before, isBlank d = false) ∧ ∃ d ∈ after, isBlank d = false

/-- Neither end is blank. -/
structure Trimmed (s : List Char) : Prop where
  first : ∀ c ∈ s.head?, isBlank c = false
  last : ∀ c ∈ s.getLast?, isBlank c = false

theorem trim_parts (s : List Char) : ∃ indent tail, s = indent ++ (trim s ++ tail) ∧
    Blanks indent ∧ Blanks tail := by
  refine ⟨s.takeWhile isBlank, ((s.dropWhile isBlank).reverse.takeWhile isBlank).reverse, ?_, ?_,
    ?_⟩
  · rw [trim, trimWhere, ← List.reverse_append, List.takeWhile_append_dropWhile,
      List.reverse_reverse, List.takeWhile_append_dropWhile]
  · exact List.all_eq_true.mp List.all_takeWhile
  · intro c among
    exact List.all_eq_true.mp List.all_takeWhile c (List.mem_reverse.mp among)

theorem trimmed_trim (s : List Char) : Trimmed (trim s) := by
  constructor
  · intro c starts
    have inner :=
      List.takeWhile_append_dropWhile (p := isBlank) (l := (s.dropWhile isBlank).reverse)
    have front : trim s ++ ((s.dropWhile isBlank).reverse.takeWhile isBlank).reverse =
        s.dropWhile isBlank := by
      rw [trim, trimWhere, ← List.reverse_append, inner, List.reverse_reverse]
    have head : (s.dropWhile isBlank).head? = some c := by
      rw [← front, List.head?_append, Option.mem_def.mp starts]
      rfl
    exact head_dropWhile head
  · intro c ends
    rw [trim, trimWhere, List.getLast?_reverse] at ends
    exact head_dropWhile (Option.mem_def.mp ends)

theorem trim_of_trimmed {s : List Char} (trimmed : Trimmed s) : trim s = s := by
  have kept {t : List Char} (solid : ∀ c ∈ t.head?, isBlank c = false) :
      t.dropWhile isBlank = t := by
    cases t with
    | nil => rfl
    | cons c t => simp [solid c rfl]
  have back : s.reverse.dropWhile isBlank = s.reverse :=
    kept (by simpa using trimmed.last)
  rw [trim, trimWhere, kept trimmed.first, back, List.reverse_reverse]

theorem solid_before {s t : List Char} {c : Char}
    (first : ∀ d ∈ (s ++ c :: t).head?, isBlank d = false) (blank : isBlank c = true) :
    ∃ d ∈ s, isBlank d = false := by
  cases s with
  | nil =>
    have solid := first c rfl
    rw [blank] at solid
    cases solid
  | cons d s => exact ⟨d, List.mem_cons_self .., first d rfl⟩

/-- What stands behind more than the front of a list, and ahead of more than its back, is between
the two. -/
theorem mem_between {front middle back before after : List Char} {c : Char}
    (same : front ++ (middle ++ back) = before ++ c :: after) (behind : ¬before ⊆ front)
    (ahead : ¬after ⊆ back) : c ∈ middle := by
  rcases List.append_eq_append_iff.mp same with ⟨extra, rfl, rest⟩ | ⟨extra, rfl, -⟩
  · rcases List.append_eq_append_iff.mp rest with ⟨extra, -, rfl⟩ | ⟨inner, rfl, later⟩
    · exact absurd (List.subset_append_of_subset_right _ (List.subset_cons_self ..)) ahead
    · cases inner with
      | nil =>
        rw [List.nil_append] at later
        exact absurd (later ▸ List.subset_cons_self ..) ahead
      | cons d inner =>
        cases (List.cons.inj later).1
        exact List.mem_append_right _ (List.mem_cons_self ..)
  · exact absurd (List.subset_append_left ..) behind

/-- There is something on two lines where trimming leaves a line break. -/
theorem twoLines_iff {s : List Char} : TwoLines s ↔ ∃ c ∈ trim s, isLineBreak c = true := by
  obtain ⟨indent, tail, parts, leading, trailing⟩ := trim_parts s
  have trimmed := trimmed_trim s
  constructor
  · rintro ⟨before, c, after, same, ends, ⟨b, amongBefore, solidBefore⟩, d, amongAfter, solidAfter⟩
    -- The break is behind something solid, so behind the indent; and before something solid, so
    -- before the tail.
    have behind : ¬before ⊆ indent :=
      fun within => by simp [leading b (within amongBefore)] at solidBefore
    have ahead : ¬after ⊆ tail :=
      fun within => by simp [trailing d (within amongAfter)] at solidAfter
    exact ⟨c, mem_between (parts.symm.trans same) behind ahead, ends⟩
  · rintro ⟨c, among, ends⟩
    obtain ⟨before, after, same⟩ := List.append_of_mem among
    have blank := isBlank_of_lineBreak ends
    obtain ⟨b, amongBefore, solidBefore⟩ :=
      solid_before (s := before) (t := after) (same ▸ trimmed.first) blank
    have reversed : ∀ e ∈ (after.reverse ++ c :: before.reverse).head?, isBlank e = false := by
      intro e starts
      refine trimmed.last e ?_
      rw [same, ← List.head?_reverse]
      simpa using starts
    obtain ⟨d, amongAfter, solidAfter⟩ := solid_before reversed blank
    refine ⟨indent ++ before, c, after ++ tail, ?_, ends, ⟨b, by simp [amongBefore], solidBefore⟩,
      d, List.mem_append_left _ (List.mem_reverse.mp amongAfter), solidAfter⟩
    rw [same] at parts
    simpa using parts

end ClusterManifest.Text
