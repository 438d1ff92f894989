import ClusterManifest.Proofs.Console.Escape
import Mathlib.Data.List.TakeWhile

/-! What a markup text shows, and how an escaped text comes out of it. Escaping keeps brackets, but
pictographs still take the place of their names, and backslashes are lost before some brackets and
gained at the end of a text. -/

namespace ClusterManifest.Console

namespace Emoji

theorem replace_other {c : Char} (other : c ≠ ':') (s : List Char) :
    replace (c :: s) = c :: replace s := by
  rw [replace]
  exact other

/-- The two cases of a colon that another one follows. -/
theorem replace_closed {name : List Char} (whole : ':' ∉ name) (after : List Char) :
    replace (':' :: (name ++ ':' :: after)) =
      if name.any Text.isBlank = true then ':' :: replace (name ++ ':' :: after)
      else (named? name).getD (':' :: name ++ [':']) ++ replace after := by
  have passes : ∀ c ∈ name, (c != ':') = true :=
    fun c among => bne_iff_ne.mpr (fun same => whole (same ▸ among))
  rw [replace]
  simp [List.takeWhile_append_of_pos passes, List.dropWhile_append_of_pos passes]

theorem replace_colon_blank {c : Char} (blank : Text.isBlank c = true) (s : List Char) :
    replace (':' :: c :: s) = ':' :: c :: replace s := by
  have other : c ≠ ':' := by
    rintro rfl
    revert blank
    decide
  rw [replace, ← replace_other other]
  simp [other, blank]

theorem replace_unclosed {s : List Char} (plain : ':' ∉ s) : replace (':' :: s) = ':' :: s := by
  have all : s.takeWhile (· != ':') = s :=
    List.takeWhile_eq_self_iff.mpr
      (fun c among => bne_iff_ne.mpr (fun same => plain (same ▸ among)))
  rw [replace]
  simp [all, replace_of_no_colon s plain]

/-- Text without a colon is no part of a name before it. -/
theorem replace_append {t : List Char} (plain : ':' ∉ t) (s : List Char) :
    replace (s ++ t) = replace s ++ t := by
  match s with
  | [] => simpa [replace] using replace_of_no_colon t plain
  | c :: s =>
    rw [List.cons_append]
    by_cases colon : c = ':'
    · subst colon
      by_cases closed : ':' ∈ s
      · obtain ⟨name, after, same, whole⟩ := List.eq_append_cons_of_mem closed
        have first := replace_append plain s
        have second := replace_append plain after
        rw [same, List.append_assoc, List.cons_append] at first ⊢
        rw [replace_closed whole, replace_closed whole, first, second]
        split <;> simp
      · have both : ':' ∉ s ++ t := by simp [closed, plain]
        rw [replace_unclosed both, replace_unclosed closed, List.cons_append]
    · rw [replace_other colon, replace_other colon, replace_append plain s, List.cons_append]
termination_by s.length
decreasing_by
  · simp
  · simp only [same, List.length_cons, List.length_append]
    omega
  · simp

end Emoji

namespace Markup

theorem plainBrackets_of_unopened {t : List Char} (unopened : '[' ∉ t) : plainBrackets t = t := by
  induction t with
  | nil => rfl
  | cons c t ih =>
    rw [plainBrackets, ih (fun among => unopened (List.mem_cons_of_mem c among))]
    rintro rest rfl rfl
    simp at unopened

theorem plainBrackets_append {t : List Char} (unopened : '[' ∉ t) (s : List Char) :
    plainBrackets (s ++ t) = plainBrackets s ++ t := by
  induction s using plainBrackets.induct with
  | case1 rest ih => simp [plainBrackets, ih]
  | case2 c rest other ih =>
    rw [List.cons_append, plainBrackets, plainBrackets, ih]
    · rfl
    · exact other
    · intro more backslash starts
      cases rest with
      | nil =>
        rw [List.nil_append] at starts
        exact unopened (starts ▸ List.mem_cons_self)
      | cons d rest =>
        obtain ⟨rfl, -⟩ := List.cons.inj starts
        exact other rest backslash rfl
  | case3 => exact plainBrackets_of_unopened unopened

theorem plainBrackets_unescaped {t : List Char} (plain : '\\' ∉ t) : plainBrackets t = t := by
  induction t with
  | nil => rfl
  | cons c t ih =>
    rw [plainBrackets, ih (fun among => plain (List.mem_cons_of_mem c among))]
    rintro rest rfl
    simp at plain

/-- A text that neither names a pictograph nor takes the meaning of anything away. -/
def Ordinary (s : List Char) : Prop := ':' ∉ s ∧ '\\' ∉ s

instance (s : List Char) : Decidable (Ordinary s) :=
  decidable_of_iff ((s.contains ':' || s.contains '\\') = false) (by simp [Ordinary])

theorem shown_ordinary {s : List Char} (ordinary : Ordinary s) : shown s = s := by
  rw [shown, plainBrackets_unescaped ordinary.2, Emoji.replace_of_no_colon s ordinary.1]

theorem shown_append {t : List Char} (plain : ':' ∉ t) (unopened : '[' ∉ t) (s : List Char) :
    shown (s ++ t) = shown s ++ t := by
  rw [shown, plainBrackets_append unopened, Emoji.replace_append plain]
  rfl

theorem spoken_trail {text : List Char} (plain : ':' ∉ text) (unopened : '[' ∉ text)
    (rest ps : List Piece) : (trail text rest ps).flatMap Piece.spoken =
      ps.flatMap Piece.spoken ++ text ++ rest.flatMap Piece.spoken := by
  induction ps using trail.induct with
  | case1 =>
    have alone := shown_append plain unopened []
    simpa [trail, Piece.spoken, shown, plainBrackets, Emoji.replace] using alone
  | case2 last => simp [trail, Piece.spoken, shown_append plain unopened]
  | case3 piece ps longer ih =>
    rw [trail]
    · simp [ih]
    · exact longer

theorem shown_colon (text : List Char) : shown (':' :: ' ' :: text) = ':' :: ' ' :: shown text := by
  have cut : plainBrackets (':' :: ' ' :: text) = ':' :: ' ' :: plainBrackets text := by
    simp [plainBrackets]
  rw [shown, cut, Emoji.replace_colon_blank rfl]
  rfl

/-- A colon with a space after it stands for itself. -/
theorem spoken_colon (s : List Char) : spoken (':' :: ' ' :: s) = ':' :: ' ' :: spoken s := by
  have alone : shown [':', ' '] = [':', ' '] := by
    simp [shown, plainBrackets, Emoji.replace]
  rw [spoken, pieces_text_cons rfl, pieces_text_cons rfl, spoken]
  cases pieces s with
  | nil => simp [pushPlain, Piece.spoken, alone]
  | cons piece ps =>
    cases piece with
    | plain text => simp [pushPlain, Piece.spoken, shown_colon]
    | tag backslashes inner => simp [pushPlain, Piece.spoken, alone]

/-! ### Escaped text -/

/-- What a piece of a text shows once the text was escaped. -/
def Piece.told : Piece → List Char
  | .plain text => shown text
  | .tag backslashes inner =>
    List.replicate backslashes '\\' ++ shown ('[' :: inner ++ [']'])

/-- The backslash that a text gets at its end, which has a single one there. -/
def closing (s : List Char) : List Char :=
  match s.reverse with
  | '\\' :: '\\' :: _ => []
  | '\\' :: _ => ['\\']
  | _ => []

/-- What an escaped text shows. -/
def told (s : List Char) : List Char := (pieces s).flatMap Piece.told ++ closing s

theorem closeBackslash_eq (s : List Char) : closeBackslash s = s ++ closing s := by
  unfold closeBackslash closing
  split <;> simp_all

theorem closing_bracket (front rest : List Char) :
    closing (front ++ ']' :: rest) = closing rest := by
  unfold closing
  rw [List.reverse_append, List.reverse_cons]
  match rest.reverse with
  | [] => rfl
  | [c] =>
    by_cases backslash : c = '\\' <;> simp [backslash]
  | c :: d :: more =>
    by_cases backslash : c = '\\' <;> by_cases second : d = '\\' <;> simp [backslash, second]

/-- An escaped text ends as the text does, from its last tag on. -/
theorem escapedPieces_end (s : List Char) : escapedPieces s = s ∨
    ∃ front escaped rest, s = front ++ ']' :: rest ∧
      escapedPieces s = escaped ++ ']' :: rest := by
  induction s using pieces.induct with
  | case1 => exact .inl escapedPieces_nil
  | case2 c rest inner after found _ ih =>
    obtain ⟨before, escapedBefore, here, escapedHere⟩ : ∃ before escapedBefore,
        c :: rest = before ++ ']' :: after ∧
          escapedPieces (c :: rest) = escapedBefore ++ ']' :: escapedPieces after := by
      have whole := List.takeWhile_append_dropWhile (p := isBackslash) (l := c :: rest)
      rw [(tag_spelled found).1] at whole
      refine ⟨(c :: rest).takeWhile isBackslash ++ '[' :: inner,
        List.replicate (2 * ((c :: rest).takeWhile isBackslash).length + 1) '\\' ++ '[' :: inner,
        ?_, ?_⟩
      · simpa using whole.symm
      · simp [escapedPieces_tag found]
    rcases ih with same | ⟨front, escaped, last, whole, made⟩
    · exact .inr ⟨before, escapedBefore, after, here, by rw [escapedHere, same]⟩
    · exact .inr ⟨before ++ ']' :: front, escapedBefore ++ ']' :: escaped, last,
        by rw [here, whole]; simp, by rw [escapedHere, made]; simp⟩
  | case3 c rest none ih =>
    rw [escapedPieces_cons none]
    rcases ih with same | ⟨front, escaped, last, whole, made⟩
    · exact .inl (by rw [same])
    · exact .inr ⟨c :: front, c :: escaped, last, by rw [whole]; rfl, by rw [made]; rfl⟩

theorem closing_escapedPieces (s : List Char) : closing (escapedPieces s) = closing s := by
  rcases escapedPieces_end s with same | ⟨front, escaped, rest, whole, made⟩
  · rw [same]
  · rw [made, closing_bracket, whole, closing_bracket]

theorem spoken_silenced (piece : Piece) : piece.silenced.spoken = piece.told := by
  cases piece with
  | plain text => rfl
  | tag backslashes inner =>
    have half : (2 * backslashes + 1) / 2 = backslashes := by omega
    have odd : (2 * backslashes + 1) % 2 = 1 := by omega
    simp only [Piece.silenced, Piece.spoken, Piece.told, half, odd, if_true]

theorem spoken_closing (s x : List Char) : spoken (s ++ closing x) = spoken s ++ closing x := by
  unfold closing
  split
  · simp
  · rw [spoken, pieces_append (.of_bare (by simp [Bare])) (pieces_unopened (by simp) (by simp)),
      spoken_trail (by simp) (by simp), List.flatMap_nil, List.append_nil]
    rfl
  · simp

theorem spoken_escape (s : List Char) : spoken (escape s) = told s := by
  have pieced : spoken (escapedPieces s) = (pieces s).flatMap Piece.told := by
    rw [spoken, pieces_escapedPieces, List.flatMap_map]
    exact congrArg (fun f => (pieces s).flatMap f) (funext spoken_silenced)
  have whole : escape s = escapedPieces s ++ closing s := by
    rw [← closing_escapedPieces]
    exact closeBackslash_eq _
  rw [whole, spoken_closing, pieced]
  rfl

theorem told_ordinary {s : List Char} (ordinary : Ordinary s) : told s = s := by
  have each : ∀ piece ∈ pieces s, piece.told = piece.text := by
    intro piece among
    have inside : ∀ c ∈ piece.text, c ∈ s := by
      intro c within
      rw [← text_pieces s]
      exact List.mem_flatMap.mpr ⟨piece, among, within⟩
    have plain : Ordinary piece.text :=
      ⟨fun colon => ordinary.1 (inside _ colon), fun sign => ordinary.2 (inside _ sign)⟩
    cases piece with
    | plain text => exact shown_ordinary plain
    | tag backslashes inner =>
      cases backslashes with
      | zero => exact shown_ordinary plain
      | succ count => exact absurd (by simp [Piece.text]) plain.2
  have last : closing s = [] := by
    unfold closing
    split
    · rfl
    · next same => exact absurd (List.mem_reverse.mp (by rw [same]; simp)) ordinary.2
    · rfl
  rw [told, last, List.append_nil, List.flatMap_congr each, text_pieces]

theorem spoken_unopened {s : List Char} (unopened : '[' ∉ s) : spoken s = shown s := by
  by_cases empty : s = []
  · rw [empty, spoken, pieces_nil]
    simp [shown, plainBrackets, Emoji.replace]
  · rw [spoken, pieces_unopened unopened empty]
    exact List.append_nil _

end Markup

end ClusterManifest.Console
