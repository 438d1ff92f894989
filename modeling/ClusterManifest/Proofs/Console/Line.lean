import ClusterManifest.Proofs.Console.Shown

/-! Lines in which a message is taken as markup. Whether such a line can be shown is a matter of its
message, and a message that can be shown with plain text after it can be shown without. -/

namespace ClusterManifest.Console

namespace Markup

/-- A text on one line that stands for itself before and after markup. -/
structure Inert (text : List Char) : Prop where
  plain : text.all isText = true
  whole : ':' ∉ text
  single : isDivided text = false

instance (text : List Char) : Decidable (Inert text) :=
  decidable_of_iff (text.all isText = true ∧ ':' ∉ text ∧ isDivided text = false)
    ⟨fun both => ⟨both.1, both.2.1, both.2.2⟩, fun inert => ⟨inert.plain, inert.whole, inert.single⟩⟩

theorem Inert.unopened {text : List Char} (inert : Inert text) : '[' ∉ text :=
  (bare_of_text inert.plain).unopened

theorem isDivided_append (s t : List Char) :
    isDivided (s ++ t) = (isDivided s || isDivided t) := by
  rw [Bool.eq_iff_iff]
  simp only [isDivided, List.contains_append, Bool.or_eq_true]
  exact or_or_or_comm

theorem shown_cons {c : Char} (plain : isText c = true) (whole : c ≠ ':') (text : List Char) :
    shown (c :: text) = c :: shown text := by
  have sign : c ≠ '\\' := by
    rintro rfl
    cases plain
  have cut : plainBrackets (c :: text) = c :: plainBrackets text := by
    rw [plainBrackets]
    rintro rest rfl
    exact absurd rfl sign
  rw [shown, cut, Emoji.replace_other whole]
  rfl

theorem spoken_pushPlain {c : Char} (plain : isText c = true) (whole : c ≠ ':')
    (ps : List Piece) :
    (pushPlain c ps).flatMap Piece.spoken = c :: ps.flatMap Piece.spoken := by
  have alone : shown [c] = [c] := by
    rw [shown_cons plain whole]
    simp [shown, plainBrackets, Emoji.replace]
  unfold pushPlain
  split
  · simp [Piece.spoken, shown_cons plain whole]
  · simp [Piece.spoken, alone]

/-- Before a style is open, a character more or less makes no difference. -/
theorem styled_pushPlain {always : Bool} {c : Char} {ps : List Piece} :
    Styled always [] (pushPlain c ps) ↔ Styled always [] ps := by
  unfold pushPlain
  split <;> rfl

theorem inert_cons {c : Char} {text : List Char} (inert : Inert (c :: text)) :
    isText c = true ∧ c ≠ ':' ∧ Inert text := by
  have plain := inert.plain
  have single := inert.single
  rw [List.all_cons, Bool.and_eq_true] at plain
  rw [← List.singleton_append, isDivided_append, Bool.or_eq_false_iff] at single
  have whole := inert.whole
  rw [List.mem_cons, not_or] at whole
  exact ⟨plain.1, Ne.symm whole.1, plain.2, whole.2, single.2⟩

theorem spoken_text_append {text : List Char} (inert : Inert text) (s : List Char) :
    spoken (text ++ s) = text ++ spoken s := by
  induction text with
  | nil => rfl
  | cons c text ih =>
    obtain ⟨plain, whole, rest⟩ := inert_cons inert
    rw [List.cons_append, spoken, pieces_text_cons plain, spoken_pushPlain plain whole]
    exact congrArg (c :: ·) (ih rest)

theorem pieces_append_inert {text : List Char} (inert : Inert text) (some : text ≠ [])
    (s : List Char) : pieces (s ++ text) = trail text [] (pieces s) :=
  pieces_append (.of_bare (bare_of_text inert.plain)) (pieces_unopened inert.unopened some) s

theorem spoken_append_inert {text : List Char} (inert : Inert text) (s : List Char) :
    spoken (s ++ text) = spoken s ++ text := by
  by_cases empty : text = []
  · rw [empty, List.append_nil, List.append_nil]
  · rw [spoken, pieces_append_inert inert empty, spoken_trail inert.whole inert.unopened,
      List.flatMap_nil, List.append_nil]
    rfl

theorem spoken_inert {text : List Char} (inert : Inert text) : spoken text = text := by
  have alone := spoken_text_append inert []
  rwa [List.append_nil, spoken, spoken, pieces_nil, List.flatMap_nil, List.append_nil] at alone

theorem styled_text_append {always : Bool} {text : List Char} (inert : Inert text)
    (s : List Char) : Styled always [] (pieces (text ++ s)) ↔ Styled always [] (pieces s) := by
  induction text with
  | nil => exact Iff.rfl
  | cons c text ih =>
    obtain ⟨plain, -, rest⟩ := inert_cons inert
    rw [List.cons_append, pieces_text_cons plain, styled_pushPlain]
    exact ih rest

/-- Pieces that are styled with text after them are styled without. The text only adds to what is
shown in the styles that are open at the end. -/
theorem styled_of_trail {always : Bool} {text : List Char} (inert : Inert text) {ps : List Piece}
    {opened : List (Tag × Bool)} (styled : Styled always opened (trail text [] ps)) :
    Styled always opened ps := by
  have fewer {s t : List Char} {opened : List (Tag × Bool)}
      (all : ∀ entry ∈ mark (s ++ t) opened, entry.2 = true → Readable entry.1.style) :
      ∀ entry ∈ mark s opened, entry.2 = true → Readable entry.1.style := by
    simp only [mark, List.forall_mem_map, List.any_append, Bool.or_eq_true] at all ⊢
    exact fun entry among used => all entry among (used.imp_right .inl)
  induction ps using trail.induct generalizing opened with
  | case1 =>
    rw [trail, Styled, Styled] at styled
    have none : mark [] opened = opened := by simp [mark]
    exact none ▸ fewer (s := []) styled
  | case2 last =>
    rw [trail, Styled, shown_append inert.whole inert.unopened] at styled
    exact fewer styled
  | case3 piece ps longer ih =>
    have cut : trail text [] (piece :: ps) = piece :: trail text [] ps := by
      rw [trail]
      exact longer
    rw [cut] at styled
    cases piece with
    | plain text => exact ih styled
    | tag backslashes inner =>
      simp only [Styled] at styled ⊢
      split
      · next odd =>
        rw [if_pos odd] at styled
        exact ih styled
      · next even =>
        rw [if_neg even] at styled
        split
        · trivial
        · next opens =>
          rw [opens] at styled
          exact ih styled
        · next opens =>
          rw [opens] at styled
          exact ⟨styled.1, ih styled.2⟩

theorem pieces_closing (rest : List Char) :
    pieces ('[' :: ('/' :: [] ++ ']' :: rest)) = .tag 0 ['/'] :: pieces rest :=
  pieces_bracketed rfl rfl rest

/-- The end of the innermost style, whatever it is called. -/
@[simp] theorem closes_none (tag : Tag) : closes none tag = true := rfl

variable [LiteralReader]

theorem legible_text_append {text : List Char} (inert : Inert text) (s : List Char) :
    Legible (text ++ s) ↔ Legible s := by
  have same : isDivided (spoken (text ++ s)) = isDivided (spoken s) := by
    rw [spoken_text_append inert, isDivided_append, inert.single, Bool.false_or]
  constructor
  · rintro ⟨balanced, styled⟩
    rw [tags_text_append inert.plain] at balanced
    rw [same, styled_text_append inert] at styled
    exact ⟨balanced, styled⟩
  · rintro ⟨balanced, styled⟩
    rw [← tags_text_append inert.plain] at balanced
    rw [← same, ← styled_text_append inert] at styled
    exact ⟨balanced, styled⟩

theorem legible_of_append {text : List Char} (inert : Inert text) {s : List Char}
    (legible : Legible (s ++ text)) : Legible s := by
  by_cases empty : text = []
  · rwa [empty, List.append_nil] at legible
  · have styled := legible.styled
    rw [spoken_append_inert inert, isDivided_append, inert.single, Bool.or_false,
      pieces_append_inert inert empty] at styled
    refine ⟨?_, styled_of_trail inert styled⟩
    rw [← tags_append_text inert.plain]
    exact legible.balanced

theorem legible_inert {text : List Char} (inert : Inert text) : Legible text := by
  rw [← List.append_nil text, legible_text_append inert]
  have nothing : pieces [] = [] := pieces_nil
  constructor
  · rw [tags, nothing]
    trivial
  · rw [nothing]
    exact List.forall_mem_nil _

/-- A sign in a style of its own, which is closed after it, and a message. -/
def signed (inner sign message : List Char) : List Char :=
  '[' :: (inner ++ ']' :: (sign ++ '[' :: ('/' :: [] ++ ']' :: message)))

/-- A style that is opened with nothing wrong about it. -/
structure Opens (inner : List Char) (tag : Tag) : Prop where
  starts : inner.head?.any startsTag = true
  plain : inner.all isText = true
  opens : signOf inner = .ok (.opening tag)
  sound : tag.problem? = none
  readable : Readable tag.style

theorem Opens.pieces_cons {inner : List Char} {tag : Tag} (opens : Opens inner tag)
    (rest : List Char) : pieces ('[' :: (inner ++ ']' :: rest)) = .tag 0 inner :: pieces rest := by
  cases inner with
  | nil => cases opens.starts
  | cons c inner =>
    have plain := opens.plain
    rw [List.all_cons, Bool.and_eq_true] at plain
    exact pieces_bracketed (by simpa using opens.starts) plain.2 rest

section Signed

variable {inner sign : List Char} {tag : Tag}

theorem pieces_signed (opens : Opens inner tag) (inert : Inert sign) (some : sign ≠ [])
    (message : List Char) : pieces (signed inner sign message) =
      .tag 0 inner :: .plain sign :: .tag 0 ['/'] :: pieces message := by
  have closed := pieces_closing message
  rw [signed, opens.pieces_cons,
    pieces_text inert.plain some (fun _ _ same => nomatch closed.symm.trans same), closed]

theorem spoken_signed (opens : Opens inner tag) (inert : Inert sign) (some : sign ≠ [])
    (message : List Char) : spoken (signed inner sign message) = sign ++ spoken message := by
  have itself : shown sign = sign := shown_ordinary ⟨inert.whole, fun among =>
    (notMem_of_text inert.plain among).2.2 rfl⟩
  rw [spoken, pieces_signed opens inert some]
  simp [Piece.spoken, itself, spoken]

/-- It changes nothing for the message whether the sign stands before it. -/
theorem legible_signed (opens : Opens inner tag) (inert : Inert sign) (some : sign ≠ [])
    (message : List Char) : Legible (signed inner sign message) ↔ Legible message := by
  have closed : signOf ['/'] = .ok (.closing none) := rfl
  have single : isDivided (spoken (signed inner sign message)) = isDivided (spoken message) := by
    rw [spoken_signed opens inert some, isDivided_append, inert.single, Bool.false_or]
  have balanced : Balanced [] (tags (signed inner sign message)) ↔ Balanced [] (tags message) := by
    rw [tags, pieces_signed opens inert some]
    simp [tagsOf, Balanced, opens.opens, opens.sound, closed, List.eraseP_cons, tags]
  have styled (always : Bool) : Styled always [] (pieces (signed inner sign message)) ↔
      Styled always [] (pieces message) := by
    rw [pieces_signed opens inert some]
    simp [Styled, opens.opens, closed, mark, opens.readable]
  constructor
  · rintro ⟨balance, style⟩
    exact ⟨balanced.mp balance, (styled _).mp (single ▸ style)⟩
  · rintro ⟨balance, style⟩
    exact ⟨balanced.mpr balance, (styled _).mpr (single ▸ style)⟩

end Signed

end Markup

open Markup

variable [LiteralReader]

theorem rendered_eq {markup content : String} : rendered markup = .ok content ↔
    Legible markup.toList ∧ content = String.ofList (spoken markup.toList) := by
  rw [rendered, mapError_ok, map_ok]
  constructor
  · rintro ⟨out, shown, rfl⟩
    obtain ⟨legible, rfl⟩ := render_eq.mp shown
    exact ⟨legible, rfl⟩
  · rintro ⟨legible, rfl⟩
    exact ⟨_, render_eq.mpr ⟨legible, rfl⟩, rfl⟩

theorem line_eq {markup : String} {item : Item} : line markup = .ok item ↔
    Legible markup.toList ∧ item = .text (String.ofList (spoken markup.toList)) := by
  rw [line, map_ok]
  constructor
  · rintro ⟨content, made, rfl⟩
    obtain ⟨legible, rfl⟩ := rendered_eq.mp made
    exact ⟨legible, rfl⟩
  · rintro ⟨legible, rfl⟩
    exact ⟨_, rendered_eq.mpr ⟨legible, rfl⟩, rfl⟩

theorem opens_green : Opens "bold green".toList ⟨"bold green".toList, none⟩ :=
  ⟨by decide, by decide, by decide +kernel, rfl, by decide +kernel⟩

theorem opens_cyan : Opens "bold cyan".toList ⟨"bold cyan".toList, none⟩ :=
  ⟨by decide, by decide, by decide +kernel, rfl, by decide +kernel⟩

theorem opens_blue : Opens "bold blue".toList ⟨"bold blue".toList, none⟩ :=
  ⟨by decide, by decide, by decide +kernel, rfl, by decide +kernel⟩

theorem opens_red : Opens "bold red".toList ⟨"bold red".toList, none⟩ :=
  ⟨by decide, by decide, by decide +kernel, rfl, by decide +kernel⟩

/-- A line that starts with a sign can be shown when its message can. -/
theorem signedLine_eq {inner sign : List Char} {tag : Tag} (opens : Opens inner tag)
    (inert : Inert sign) (some : sign ≠ []) {markup message : String}
    (composed : markup.toList = [' ', ' '] ++ signed inner sign ([' '] ++ message.toList))
    {item : Item} : line markup = .ok item ↔ Legible message.toList ∧
      item = .text (String.ofList ([' ', ' '] ++ sign ++ [' '] ++ spoken message.toList)) := by
  have space : Inert [' '] := by decide
  have margin : Inert [' ', ' '] := by decide
  rw [line_eq, composed, legible_text_append margin, legible_signed opens inert some,
    legible_text_append space, spoken_text_append margin, spoken_signed opens inert some,
    spoken_text_append space]
  simp only [List.append_assoc]

theorem success_eq {message : String} {item : Item} : success message = .ok item ↔
    Legible message.toList ∧
      item = .text (String.ofList ("  ✓ ".toList ++ spoken message.toList)) := by
  have sign : Inert ['✓'] := by decide
  rw [success]
  exact signedLine_eq opens_green sign (by decide) (by simp [signed])

theorem progress_eq {message : String} {item : Item} : progress message = .ok item ↔
    Legible message.toList ∧
      item = .text (String.ofList ("  › ".toList ++ spoken message.toList)) := by
  have sign : Inert ['›'] := by decide
  rw [progress]
  exact signedLine_eq opens_cyan sign (by decide) (by simp [signed])

/-- A text in a style of its own. -/
theorem rendered_signed {inner : List Char} {tag : Tag} (opens : Opens inner tag)
    {markup text : String} (inert : Inert text.toList) (some : text.toList ≠ [])
    (composed : markup.toList = signed inner text.toList []) : rendered markup = .ok text := by
  have nothing : Inert [] := by decide
  rw [rendered_eq, composed, legible_signed opens inert some, spoken_signed opens inert some,
    spoken_inert nothing, List.append_nil, String.ofList_toList]
  exact ⟨legible_inert nothing, rfl⟩

theorem heading_inert {title : String} (inert : Inert ("── " ++ title ++ " ──").toList) :
    heading title = .ok (.text ("── " ++ title ++ " ──")) := by
  have made : rendered ("[bold blue]── " ++ title ++ " ──[/]") = _ :=
    rendered_signed opens_blue inert (by simp) (by simp [signed])
  rw [heading, line, made]
  rfl

end ClusterManifest.Console
