import ClusterManifest.Proofs.Console.Markup

/-! Escaped text can always be shown: each of its tags has one backslash more than twice those that
it had, so that none of them opens or closes anything. -/

namespace ClusterManifest.Console.Markup

def escapedPieces (s : List Char) : List Char := (pieces s).flatMap Piece.escaped

theorem escaped_pushPlain (c : Char) (ps : List Piece) :
    (pushPlain c ps).flatMap Piece.escaped = c :: ps.flatMap Piece.escaped := by
  unfold pushPlain
  split <;> simp [Piece.escaped]

theorem escapedPieces_nil : escapedPieces [] = [] := by
  rw [escapedPieces, pieces_nil]
  rfl

theorem escapedPieces_cons {c : Char} {s : List Char}
    (none : tag? ((c :: s).dropWhile isBackslash) = none) :
    escapedPieces (c :: s) = c :: escapedPieces s := by
  rw [escapedPieces, pieces_cons none, escaped_pushPlain]
  rfl

theorem escapedPieces_tag {c : Char} {s inner after : List Char}
    (found : tag? ((c :: s).dropWhile isBackslash) = some (inner, after)) :
    escapedPieces (c :: s) =
      List.replicate (2 * ((c :: s).takeWhile isBackslash).length + 1) '\\' ++
        '[' :: (inner ++ ']' :: escapedPieces after) := by
  rw [escapedPieces, pieces_tag found]
  simp [Piece.escaped, escapedPieces, List.replicate_succ']

theorem alike_bracket {backslashes : List Char} (all : ∀ c ∈ backslashes, isBackslash c = true)
    (rest : List Char) : (backslashes ++ '[' :: rest).head?.any startsTag = false ∧
      ((backslashes ++ '[' :: rest).dropWhile isUnbracketed).head? = some '[' := by
  have sign : ∀ c ∈ backslashes, c = '\\' := fun c among => beq_iff_eq.mp (all c among)
  constructor
  · cases backslashes with
    | nil => rfl
    | cons c backslashes =>
      rw [sign c (List.mem_cons_self ..)]
      rfl
  · rw [List.dropWhile_append_of_pos (fun c among => by rw [sign c among]; rfl)]
    rfl

/-- Escaping changes neither the first character, if it starts a tag, nor the first bracket. -/
theorem escapedPieces_alike (s : List Char) :
    (escapedPieces s).head?.any startsTag = s.head?.any startsTag ∧
      ((escapedPieces s).dropWhile isUnbracketed).head? = (s.dropWhile isUnbracketed).head? := by
  induction s using pieces.induct with
  | case1 => simp [escapedPieces_nil]
  | case2 c rest inner after found _ ih =>
    -- The tag stands behind backslashes on both sides, in whatever number.
    have whole := List.takeWhile_append_dropWhile (p := isBackslash) (l := c :: rest)
    rw [(tag_spelled found).1] at whole
    have signs : ∀ d ∈ (c :: rest).takeWhile isBackslash, isBackslash d = true :=
      List.all_eq_true.mp List.all_takeWhile
    have before := alike_bracket signs (inner ++ ']' :: after)
    rw [whole] at before
    have more : ∀ d ∈ List.replicate (2 * ((c :: rest).takeWhile isBackslash).length + 1) '\\',
        isBackslash d = true := fun d among => beq_iff_eq.mpr (List.eq_of_mem_replicate among)
    have escaped := alike_bracket more (inner ++ ']' :: escapedPieces after)
    rw [escapedPieces_tag found, before.1, before.2, escaped.1, escaped.2]
    exact ⟨rfl, rfl⟩
  | case3 c rest none ih =>
    rw [escapedPieces_cons none]
    refine ⟨rfl, ?_⟩
    cases plain : isUnbracketed c with
    | true => simpa [plain] using ih.2
    | false => simp [plain]

theorem tag_escapedPieces {s : List Char} (none : tag? (s.dropWhile isBackslash) = none) :
    tag? ((escapedPieces s).dropWhile isBackslash) = Option.none := by
  induction s with
  | nil =>
    rw [escapedPieces_nil]
    rfl
  | cons c s ih =>
    rw [escapedPieces_cons none]
    by_cases backslash : isBackslash c = true
    · rw [List.dropWhile_cons_of_pos backslash] at none ⊢
      exact ih none
    · rw [List.dropWhile_cons_of_neg backslash] at none ⊢
      by_cases bracket : c = '['
      · subst bracket
        rw [← Option.not_isSome_iff_eq_none, tag_open] at none ⊢
        rwa [(escapedPieces_alike s).1, (escapedPieces_alike s).2]
      · exact tag_none (by simpa using bracket)

/-- A piece as it is cut from the escaped text: a tag has its backslashes twice and one more. -/
def Piece.silenced : Piece → Piece
  | .plain text => .plain text
  | .tag backslashes inner => .tag (2 * backslashes + 1) inner

theorem silenced_pushPlain (c : Char) (ps : List Piece) :
    (pushPlain c ps).map Piece.silenced = pushPlain c (ps.map Piece.silenced) := by
  cases ps with
  | nil => rfl
  | cons piece ps => cases piece <;> rfl

theorem pieces_escapedPieces (s : List Char) :
    pieces (escapedPieces s) = (pieces s).map Piece.silenced := by
  induction s using pieces.induct with
  | case1 => simp [escapedPieces_nil, pieces_nil]
  | case2 c rest inner after found _ ih =>
    obtain ⟨-, d, inside, rfl, starts, plain⟩ := tag_spelled found
    rw [escapedPieces_tag found, pieces_backslashes _ starts plain, pieces_tag found, ih]
    rfl
  | case3 c rest none ih =>
    have still := tag_escapedPieces none
    rw [escapedPieces_cons none] at still ⊢
    rw [pieces_cons still, pieces_cons none, silenced_pushPlain, ih]

/-- Every tag of an escaped text is plain text. -/
theorem tags_escapedPieces (s : List Char) :
    ∀ tag ∈ tags (escapedPieces s), tag.1 % 2 = 1 := by
  rw [tags, pieces_escapedPieces]
  induction pieces s with
  | nil => simp [tagsOf]
  | cons piece ps ih =>
    cases piece with
    | plain text => exact ih
    | tag backslashes inner =>
      rw [List.map_cons, Piece.silenced, tagsOf, List.forall_mem_cons]
      exact ⟨by dsimp only; omega, ih⟩

theorem tags_closeBackslash (s : List Char) : tags (closeBackslash s) = tags s := by
  unfold closeBackslash
  split
  · rfl
  · exact tags_append_bare (by simp [Bare]) s
  · rfl

theorem tags_escape (s : List Char) : ∀ tag ∈ tags (escape s), tag.1 % 2 = 1 := by
  rw [escape, tags_closeBackslash]
  exact tags_escapedPieces s

variable [LiteralReader]

theorem balanced_of_odd {tags : List (Nat × List Char)} (odd : ∀ tag ∈ tags, tag.1 % 2 = 1)
    (opened : List Tag) : Balanced opened tags := by
  induction tags with
  | nil => trivial
  | cons tag tags ih =>
    rw [List.forall_mem_cons] at odd
    unfold Balanced
    rw [if_pos odd.1]
    exact ih odd.2

/-- An escaped text can be shown, whatever the text is. -/
theorem legible_escape (s : List Char) : Legible (escape s) where
  balanced := balanced_of_odd (tags_escape s) []
  styled := (styled_silent (tags_escape s) (List.forall_mem_nil _)).mpr (List.forall_mem_nil _)

end ClusterManifest.Console.Markup
