import ClusterManifest.Yaml.Cursor

/-! How a cursor moves. Everywhere a place is reached by passing over a number of characters,
so a place is known by that number; and over printable characters index and column go along
with it, while a line feed starts the next line. -/

namespace ClusterManifest.Yaml

/-- A character of printable ASCII. -/
def isPrintable (c : Char) : Bool := ' ' ≤ c && c ≤ '~'

theorem isPrintable_iff {c : Char} : isPrintable c = true ↔ 32 ≤ c.toNat ∧ c.toNat ≤ 126 := by
  have lower : ' ' ≤ c ↔ 32 ≤ c.toNat := Iff.rfl
  have upper : c ≤ '~' ↔ c.toNat ≤ 126 := Iff.rfl
  simp only [isPrintable, Bool.and_eq_true, decide_eq_true_eq, lower, upper]

theorem ne_of_toNat_ne {c d : Char} (differ : c.toNat ≠ d.toNat) : c ≠ d :=
  fun same => differ (congrArg Char.toNat same)

theorem not_isBreak_of_printable {c : Char} (printable : isPrintable c = true) :
    isBreak c = false := by
  have range := isPrintable_iff.mp printable
  simp only [isBreak, Bool.or_eq_false_iff, beq_eq_false_iff_ne]
  refine ⟨⟨⟨⟨?_, ?_⟩, ?_⟩, ?_⟩, ?_⟩ <;>
    refine ne_of_toNat_ne ?_ <;> simp <;> omega

namespace Cursor

theorem peek_of_rest {c : Cursor} {x : Char} {t : List Char} (here : c.rest = x :: t) :
    c.peek = x := by
  simp [peek, here]

theorem peekAt_of_rest {c : Cursor} {s t : List Char} (here : c.rest = s ++ t) :
    c.peekAt s.length = t.headD '\x00' := by
  simp [peekAt, here]

theorem skip_add (m n : Nat) (c : Cursor) : c.skip (m + n) = (c.skip m).skip n := by
  induction m generalizing c with
  | zero => simp [skip]
  | succ m ih =>
    rw [Nat.succ_add]
    exact ih c.next

theorem skip_one (c : Cursor) : c.skip 1 = c.next := rfl

theorem rest_next (c : Cursor) : c.next.rest = c.rest.drop 1 := by
  unfold next
  split
  · next h => simp [h]
  · next h => split <;> simp [h]

theorem rest_next_cons {c : Cursor} {x : Char} {t : List Char} (here : c.rest = x :: t) :
    c.next.rest = t := by
  rw [rest_next, here]
  rfl

theorem rest_skip (n : Nat) (c : Cursor) : (c.skip n).rest = c.rest.drop n := by
  induction n generalizing c with
  | zero => rfl
  | succ n ih =>
    rw [skip, ih, rest_next, List.drop_drop, Nat.add_comm]

theorem rest_skip_append {c : Cursor} {s t : List Char} (here : c.rest = s ++ t) :
    (c.skip s.length).rest = t := by
  rw [rest_skip, here, List.drop_left]

theorem rest_skip_spaces {c : Cursor} {n : Nat} {t : List Char}
    (here : c.rest = List.replicate n ' ' ++ t) : (c.skip n).rest = t := by
  have behind := rest_skip_append here
  rwa [List.length_replicate] at behind

theorem line_le_next (c : Cursor) : c.line ≤ c.next.line := by
  unfold next
  split
  · exact Nat.le_refl _
  · split
    · exact Nat.le_succ _
    · exact Nat.le_refl _

theorem line_le_skip (n : Nat) (c : Cursor) : c.line ≤ (c.skip n).line := by
  induction n generalizing c with
  | zero => exact Nat.le_refl _
  | succ n ih => exact Nat.le_trans (line_le_next c) (ih c.next)

theorem next_of_printable {c : Cursor} {x : Char} {t : List Char} (here : c.rest = x :: t)
    (printable : isPrintable x = true) :
    c.next = ⟨t, c.index + 1, c.line, c.column + 1⟩ := by
  have unbroken := not_isBreak_of_printable printable
  have unmarked : (x == '\uFEFF') = false := by
    have range := isPrintable_iff.mp printable
    refine beq_eq_false_iff_ne.mpr (ne_of_toNat_ne ?_)
    simp
    omega
  simp [next, here, unbroken, unmarked]

theorem next_of_lineFeed {c : Cursor} {t : List Char} (here : c.rest = '\n' :: t) :
    c.next = ⟨t, c.index + 1, c.line + 1, 0⟩ := by
  simp [next, here, isBreak]

theorem skip_of_printable {c : Cursor} {s t : List Char} (here : c.rest = s ++ t)
    (printable : ∀ x ∈ s, isPrintable x = true) :
    c.skip s.length = ⟨t, c.index + s.length, c.line, c.column + s.length⟩ := by
  induction s generalizing c with
  | nil =>
    simp only [List.nil_append] at here
    subst here
    rfl
  | cons x s ih =>
    have first := next_of_printable here (printable x (List.mem_cons_self ..))
    have behind : c.next.rest = s ++ t := by rw [first]; rfl
    rw [List.length_cons, skip, ih behind (fun y hy => printable y (List.mem_cons_of_mem _ hy)),
      first]
    simp only [Cursor.mk.injEq, true_and]
    omega

theorem skip_newLine {c : Cursor} {k : Nat} {t : List Char}
    (here : c.rest = '\n' :: (List.replicate k ' ' ++ t)) :
    c.skip (k + 1) = ⟨t, c.index + 1 + k, c.line + 1, k⟩ := by
  have first := next_of_lineFeed here
  have behind : c.next.rest = List.replicate k ' ' ++ t := by rw [first]
  have rest := skip_of_printable behind (List.forall_mem_replicate.mpr (.inr rfl))
  rw [List.length_replicate] at rest
  rw [Nat.add_comm, skip_add, skip_one, rest, first]
  simp only [Cursor.mk.injEq, true_and]
  omega

theorem span_eq {p : Char → Bool} {c : Cursor} {w t : List Char} (here : c.rest = w ++ t)
    (within : ∀ x ∈ w, p x = true) (ends : ∀ x, t.head? = some x → p x = false) :
    c.span p = (w, c.skip w.length) := by
  have taken : c.rest.takeWhile p = w := by
    rw [here, List.takeWhile_append_of_pos within]
    cases t with
    | nil => simp
    | cons x t => simp [ends x rfl]
  simp only [span, taken]

theorem skipWhile_eq {p : Char → Bool} {c : Cursor} {w t : List Char}
    (here : c.rest = w ++ t) (within : ∀ x ∈ w, p x = true)
    (ends : ∀ x, t.head? = some x → p x = false) :
    c.skipWhile p = c.skip w.length := by
  rw [skipWhile, span_eq here within ends]

theorem span_spaces {p : Char → Bool} {c : Cursor} {n : Nat} {t : List Char}
    (here : c.rest = List.replicate n ' ' ++ t) (space : p ' ' = true)
    (ends : ∀ x, t.head? = some x → p x = false) :
    c.span p = (List.replicate n ' ', c.skip n) := by
  have spaces := span_eq here (List.forall_mem_replicate.mpr (.inr space)) ends
  rwa [List.length_replicate] at spaces

theorem skipWhile_spaces {p : Char → Bool} {c : Cursor} {n : Nat} {t : List Char}
    (here : c.rest = List.replicate n ' ' ++ t) (space : p ' ' = true)
    (ends : ∀ x, t.head? = some x → p x = false) : c.skipWhile p = c.skip n := by
  rw [skipWhile, span_spaces here space ends]

theorem lineBreak_of_lineFeed {c : Cursor} {t : List Char} (here : c.rest = '\n' :: t) :
    c.lineBreak = (['\n'], c.next) := by
  simp [lineBreak, here]

theorem not_atSeparator {c : Cursor} (hyphen : c.rest.head? ≠ some '-')
    (point : c.rest.head? ≠ some '.') : c.atSeparator = false := by
  cases h : c.rest with
  | nil => simp [atSeparator, atMark, h]
  | cons x t =>
    rw [h] at hyphen point
    simp only [List.head?_cons, ne_eq, Option.some.injEq] at hyphen point
    simp [atSeparator, atMark, h, hyphen, point]

end Cursor

end ClusterManifest.Yaml
