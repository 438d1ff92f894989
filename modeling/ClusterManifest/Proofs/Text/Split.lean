import ClusterManifest.Text.Blank

/-! Cutting a text at its separators: pieces without one, put together with one between any two,
are found again. -/

namespace ClusterManifest.Text

variable {p : Char → Bool} {separator : Char}

theorem splitWhere_of_none {s : List Char} (none : ∀ c ∈ s, p c = false) :
    splitWhere p s = [s] := by
  induction s with
  | nil => rfl
  | cons c s ih =>
    have more := ih (fun d hd => none d (List.mem_cons_of_mem _ hd))
    simp [splitWhere, none c (List.mem_cons_self ..), more]

theorem splitWhere_append {s t : List Char} {c : Char} (none : ∀ d ∈ s, p d = false)
    (separates : p c = true) : splitWhere p (s ++ c :: t) = s :: splitWhere p t := by
  induction s with
  | nil => simp [splitWhere, separates]
  | cons d s ih =>
    have more := ih (fun e he => none e (List.mem_cons_of_mem _ he))
    simp [splitWhere, none d (List.mem_cons_self ..), more]

theorem splitAtChar_of_none {s : List Char} (none : separator ∉ s) :
    splitAtChar separator s = [s] :=
  splitWhere_of_none (fun _ within =>
    beq_eq_false_iff_ne.mpr (fun same => none (same ▸ within)))

theorem splitAtChar_append {s t : List Char} (none : separator ∉ s) :
    splitAtChar separator (s ++ separator :: t) = s :: splitAtChar separator t :=
  splitWhere_append (fun _ within =>
    beq_eq_false_iff_ne.mpr (fun same => none (same ▸ within))) (beq_self_eq_true _)

theorem joinWith_cons {between piece : List Char} {pieces : List (List Char)}
    (more : pieces ≠ []) :
    joinWith between (piece :: pieces) = piece ++ between ++ joinWith between pieces := by
  cases pieces with
  | nil => exact absurd rfl more
  | cons q qs => rfl

theorem splitAtChar_joinWith {pieces : List (List Char)} (nonempty : pieces ≠ [])
    (none : ∀ piece ∈ pieces, separator ∉ piece) :
    splitAtChar separator (joinWith [separator] pieces) = pieces := by
  induction pieces with
  | nil => exact absurd rfl nonempty
  | cons piece pieces ih =>
    have first := none piece (List.mem_cons_self ..)
    have more := fun q hq => none q (List.mem_cons_of_mem piece hq)
    by_cases last : pieces = []
    · subst last
      exact splitAtChar_of_none first
    · rw [joinWith_cons last, List.append_assoc, List.singleton_append,
        splitAtChar_append first, ih last more]

theorem joinWith_append {between : List Char} {front back : List (List Char)}
    (some : front ≠ []) (more : back ≠ []) :
    joinWith between (front ++ back) =
      joinWith between front ++ between ++ joinWith between back := by
  induction front with
  | nil => exact absurd rfl some
  | cons piece front ih =>
    by_cases last : front = []
    · subst last
      exact joinWith_cons more
    · have longer : front ++ back ≠ [] := by simp [last]
      rw [List.cons_append, joinWith_cons longer, joinWith_cons last, ih last]
      simp only [List.append_assoc]

theorem mem_joinWith {c : Char} {between : List Char} {pieces : List (List Char)}
    (within : c ∈ joinWith between pieces) :
    c ∈ between ∨ ∃ piece ∈ pieces, c ∈ piece := by
  induction pieces with
  | nil => cases within
  | cons piece pieces ih =>
    by_cases last : pieces = []
    · subst last
      exact .inr ⟨piece, List.mem_cons_self .., within⟩
    · rw [joinWith_cons last, List.mem_append, List.mem_append] at within
      rcases within with (first | here) | later
      · exact .inr ⟨piece, List.mem_cons_self .., first⟩
      · exact .inl here
      · rcases ih later with here | ⟨q, hq, inside⟩
        · exact .inl here
        · exact .inr ⟨q, List.mem_cons_of_mem _ hq, inside⟩

theorem mem_of_mem_splitWhere {s piece : List Char} {c : Char}
    (among : piece ∈ splitWhere p s) (within : c ∈ piece) : c ∈ s ∧ p c = false := by
  induction s generalizing piece with
  | nil =>
    rw [splitWhere, List.mem_singleton] at among
    subst among
    cases within
  | cons d s ih =>
    have later : ∀ {q}, q ∈ splitWhere p s → c ∈ q → c ∈ d :: s ∧ p c = false :=
      fun hq hc => ⟨List.mem_cons_of_mem _ (ih hq hc).1, (ih hq hc).2⟩
    rw [splitWhere] at among
    split at among
    · rcases List.mem_cons.mp among with rfl | more
      · cases within
      · exact later more within
    · next plain =>
      split at among
      · rw [List.mem_singleton] at among
        subst among
        rw [List.mem_singleton] at within
        subst within
        exact ⟨List.mem_cons_self .., by simpa using plain⟩
      · next first rest same =>
        rcases List.mem_cons.mp among with rfl | more
        · rcases List.mem_cons.mp within with rfl | inside
          · exact ⟨List.mem_cons_self .., by simpa using plain⟩
          · exact later (by rw [same]; exact List.mem_cons_self ..) inside
        · exact later (by rw [same]; exact List.mem_cons_of_mem _ more) within

theorem separator_notMem {s piece : List Char} (among : piece ∈ splitAtChar separator s) :
    separator ∉ piece := by
  intro within
  have other := (mem_of_mem_splitWhere among within).2
  simp at other

end ClusterManifest.Text
