import ClusterManifest.Console
import ClusterManifest.Proofs.Console.Pieces
import ClusterManifest.Proofs.Result

/-! Whether a text can be shown depends on the tags in its markup, and on the styles that something
is shown in: text without brackets may stand before and after it, and a sign in a style of its own
before it. -/

namespace ClusterManifest.Console.Markup

def tagsOf : List Piece → List (Nat × List Char)
  | [] => []
  | .plain _ :: pieces => tagsOf pieces
  | .tag backslashes inner :: pieces => (backslashes, inner) :: tagsOf pieces

def tags (s : List Char) : List (Nat × List Char) := tagsOf (pieces s)

/-- What a piece shows: a tag shows nothing of itself, unless a backslash made it plain text. -/
def Piece.spoken : Piece → List Char
  | .plain text => shown text
  | .tag backslashes inner =>
    List.replicate (backslashes / 2) '\\' ++
      if backslashes % 2 = 1 then shown ('[' :: inner ++ [']']) else []

/-- What a markup text shows when it can be shown. -/
def spoken (s : List Char) : List Char := (pieces s).flatMap Piece.spoken

theorem tagsOf_pushPlain (c : Char) (ps : List Piece) : tagsOf (pushPlain c ps) = tagsOf ps := by
  unfold pushPlain
  split <;> rfl

theorem tags_text_append {text : List Char} (plain : text.all isText = true) (s : List Char) :
    tags (text ++ s) = tags s := by
  induction text with
  | nil => rfl
  | cons c text ih =>
    rw [List.all_cons, Bool.and_eq_true] at plain
    rw [← ih plain.2, List.cons_append, tags, pieces_text_cons plain.1, tagsOf_pushPlain]
    rfl

theorem tagsOf_trail (text : List Char) (rest ps : List Piece) :
    tagsOf (trail text rest ps) = tagsOf ps ++ tagsOf rest := by
  induction ps using trail.induct with
  | case1 => rfl
  | case2 last => rfl
  | case3 piece ps longer ih =>
    rw [trail]
    · cases piece <;> simp [tagsOf, ih]
    · exact longer

theorem tags_append_bare {text : List Char} (bare : Bare text) (s : List Char) :
    tags (s ++ text) = tags s := by
  by_cases empty : text = []
  · rw [empty, List.append_nil]
  · rw [tags, pieces_append (.of_bare bare) (pieces_unopened bare.unopened empty), tagsOf_trail]
    exact List.append_nil _

theorem tags_unopened {text : List Char} (unopened : '[' ∉ text) : tags text = [] := by
  by_cases empty : text = []
  · rw [empty, tags, pieces_nil]
    rfl
  · rw [tags, pieces_unopened unopened empty]
    rfl

theorem tags_append_text {text : List Char} (plain : text.all isText = true) (s : List Char) :
    tags (s ++ text) = tags s :=
  tags_append_bare (bare_of_text plain) s

def Readable (style : List Char) : Prop := styleFault? style = none

instance (style : List Char) : Decidable (Readable style) :=
  inferInstanceAs (Decidable (styleFault? style = none))

/-- Open styles, each with whether it is looked up, after a text was shown in them. -/
def mark (text : List Char) (opened : List (Tag × Bool)) : List (Tag × Bool) :=
  opened.map (fun entry => (entry.1, entry.2 || text.any isMark))

/-- Every style can be read that is looked up: from its start on, or once something is shown in
it. -/
def Styled (always : Bool) (opened : List (Tag × Bool)) : List Piece → Prop
  | [] => ∀ entry ∈ opened, entry.2 = true → Readable entry.1.style
  | .plain text :: pieces => Styled always (mark (shown text) opened) pieces
  | .tag backslashes inner :: pieces =>
    let opened := mark (Piece.tag backslashes inner).spoken opened
    if backslashes % 2 = 1 then Styled always opened pieces
    else
      match signOf inner with
      | .error _ => True
      | .ok (.opening tag) => Styled always ((tag, always) :: opened) pieces
      | .ok (.closing name?) =>
        (∀ entry ∈ opened.find? (fun entry => closes name? entry.1),
          entry.2 = true → Readable entry.1.style) ∧
        Styled always (opened.eraseP (fun entry => closes name? entry.1)) pieces

theorem mark_nil (text : List Char) : mark text [] = [] := rfl

theorem mark_seen {opened : List (Tag × Bool)} (seen : ∀ entry ∈ opened, entry.2 = true)
    (text : List Char) : mark text opened = opened := by
  have same : ∀ entry ∈ opened, (entry.1, entry.2 || text.any isMark) = id entry := by
    intro entry among
    rw [seen entry among, Bool.true_or, ← seen entry among]
    rfl
  rw [mark, List.map_congr_left same, List.map_id]

/-- Where all open styles are looked up and no tag follows but plain text, each must be readable. -/
theorem styled_silent {always : Bool} {opened : List (Tag × Bool)} {ps : List Piece}
    (silent : ∀ tag ∈ tagsOf ps, tag.1 % 2 = 1) (seen : ∀ entry ∈ opened, entry.2 = true) :
    Styled always opened ps ↔ ∀ entry ∈ opened, Readable entry.1.style := by
  induction ps with
  | nil => exact forall₂_congr (fun entry among => by simp [seen entry among])
  | cons piece ps ih =>
    cases piece with
    | plain text =>
      rw [Styled, mark_seen seen]
      exact ih silent
    | tag backslashes inner =>
      rw [tagsOf, List.forall_mem_cons] at silent
      simp only [Styled, mark_seen seen]
      rw [if_pos silent.1]
      exact ih silent.2

/-- An open style, with whether it is looked up after a text was shown. -/
def Opened.used (divided : Bool) (told : List Char) (opened : Opened) : Tag × Bool :=
  (opened.tag, (opened.span told).isKept divided)

theorem map_used_append {opened : List Opened} {told : List Char}
    (early : ∀ entry ∈ opened, entry.before ≤ told.length) (divided : Bool) (more : List Char) :
    opened.map (Opened.used divided (told ++ more)) =
      mark more (opened.map (Opened.used divided told)) := by
  rw [mark, List.map_map]
  refine List.map_congr_left (fun entry among => ?_)
  simp [Opened.used, Opened.span, Span.isKept, List.drop_append_of_le_length (early entry among),
    Bool.or_assoc]

@[simp] theorem used_fresh (divided : Bool) (told : List Char) (tag : Tag) :
    Opened.used divided told ⟨told.length, tag⟩ = (tag, !divided) := by
  simp [Opened.used, Opened.span, Span.isKept]

theorem early_append {opened : List Opened} {told : List Char}
    (early : ∀ entry ∈ opened, entry.before ≤ told.length) (more : List Char) :
    ∀ entry ∈ opened, entry.before ≤ (told ++ more).length := by
  intro entry among
  have before := early entry among
  rw [List.length_append]
  omega

theorem find_used (name? : Option (List Char)) (divided : Bool) (told : List Char)
    (opened : List Opened) :
    (opened.map (Opened.used divided told)).find? (fun entry => closes name? entry.1) =
      (opened.find? (closes name? ∘ Opened.tag)).map (Opened.used divided told) :=
  List.find?_map

theorem eraseP_used (name? : Option (List Char)) (divided : Bool) (told : List Char)
    (opened : List Opened) :
    (opened.map (Opened.used divided told)).eraseP (fun entry => closes name? entry.1) =
      (opened.eraseP (closes name? ∘ Opened.tag)).map (Opened.used divided told) :=
  List.eraseP_map

theorem mem_insert {span other : Span} {spans : List Span} :
    other ∈ span.insert spans ↔ other = span ∨ other ∈ spans := by
  induction spans with
  | nil => simp [Span.insert]
  | cons first spans ih =>
    unfold Span.insert
    split
    · simp only [List.mem_cons, ih]
      exact or_left_comm
    · exact List.mem_cons

theorem mem_ordered {rendering : Rendering} {span : Span} :
    span ∈ rendering.ordered ↔ span ∈ rendering.spans := by
  unfold Rendering.ordered
  induction rendering.spans with
  | nil => rfl
  | cons first spans ih => rw [List.foldr_cons, mem_insert, ih, List.mem_cons]

theorem fault_none {rendering : Rendering} : rendering.fault? = none ↔
    ∀ span ∈ rendering.spans, span.isKept (isDivided rendering.text) = true →
      Readable span.style := by
  simp only [Rendering.fault?, List.findSome?_eq_none_iff, List.mem_filter, mem_ordered, and_imp]
  exact Iff.rfl

variable [LiteralReader]

/-- Every tag that closes a style finds it open, and what the tags say can be read. -/
def Balanced (opened : List Tag) : List (Nat × List Char) → Prop
  | [] => True
  | (backslashes, inner) :: tags =>
    if backslashes % 2 = 1 then Balanced opened tags
    else
      match signOf inner with
      | .error _ => False
      | .ok (.opening tag) => Balanced (tag :: opened) tags
      | .ok (.closing name?) =>
        ∃ closed, opened.find? (closes name?) = some closed ∧ closed.problem? = none ∧
          Balanced (opened.eraseP (closes name?)) tags

/-- A markup text that can be shown. -/
structure Legible (s : List Char) : Prop where
  balanced : Balanced [] (tags s)
  styled : Styled (!isDivided (spoken s)) [] (pieces s)

/-! ### Rendering -/

/-- What comes of a tag: it is plain text, or it opens a style, or it closes one that is open. -/
theorem renderFrom_tag {ps : List Piece} {opened : List Opened} {position backslashes : Nat}
    {told inner : List Char} {rendering : Rendering} :
    renderFrom opened position told (.tag backslashes inner :: ps) = .ok rendering ↔
      let next := position + backslashes + inner.length + 2
      let told := told ++ (Piece.tag backslashes inner).spoken
      if backslashes % 2 = 1 then renderFrom opened next told ps = .ok rendering
      else
        match signOf inner with
        | .error _ => False
        | .ok (.opening tag) =>
          renderFrom (⟨told.length, tag⟩ :: opened) next told ps = .ok rendering
        | .ok (.closing name?) =>
          ∃ closed, opened.find? (closes name? ∘ Opened.tag) = some closed ∧
            closed.tag.problem? = none ∧
            ∃ rest, renderFrom (opened.eraseP (closes name? ∘ Opened.tag)) next told ps = .ok rest ∧
              { rest with spans := closed.span told :: rest.spans } = rendering := by
  rw [renderFrom]
  dsimp only [Piece.spoken]
  split
  · rw [List.append_assoc]
  · rw [List.append_nil]
    cases signOf inner with
    | error fault => simp [Except.mapError, bind, Except.bind]
    | ok sign =>
      rw [ok_mapError, ok_bind]
      cases sign with
      | opening tag => exact Iff.rfl
      | closing name? =>
        have same : (fun other : Opened => closes name? other.tag) = closes name? ∘ Opened.tag :=
          rfl
        dsimp only
        rw [same]
        cases opened.find? (closes name? ∘ Opened.tag) with
        | none => simp
        | some closed =>
          simp only [Option.some.injEq, exists_eq_left']
          cases closed.tag.problem? with
          | some problem => simp
          | none =>
            simp only [true_and]
            exact bind_ok.trans (by simp [pure, Except.pure, Function.comp_def])

/-- Pieces are rendered just when their tags are balanced. -/
theorem renderFrom_ok (ps : List Piece) (opened : List Opened) (position : Nat)
    (told : List Char) : (∃ rendering, renderFrom opened position told ps = .ok rendering) ↔
      Balanced (opened.map Opened.tag) (tagsOf ps) := by
  induction ps generalizing opened position told with
  | nil => exact iff_of_true ⟨_, rfl⟩ trivial
  | cons piece ps ih =>
    cases piece with
    | plain text => exact ih opened _ _
    | tag backslashes inner =>
      simp only [renderFrom_tag, tagsOf, Balanced]
      split
      · exact ih opened _ _
      · cases signOf inner with
        | error fault => simp
        | ok sign =>
          cases sign with
          | opening tag => exact ih (⟨_, tag⟩ :: opened) _ _
          | closing name? =>
            have rest := ih (opened.eraseP (closes name? ∘ Opened.tag))
            simp only [List.find?_map, List.eraseP_map]
            cases opened.find? (closes name? ∘ Opened.tag) with
            | none => simp
            | some closed =>
              simp only [Option.map_some, Option.some.injEq, exists_eq_left']
              constructor
              · rintro ⟨_, sound, more, made, -⟩
                exact ⟨sound, (rest _ _).mp ⟨more, made⟩⟩
              · rintro ⟨sound, balanced⟩
                obtain ⟨more, made⟩ := (rest _ _).mpr balanced
                exact ⟨_, sound, more, made, rfl⟩

theorem text_renderFrom {ps : List Piece} {opened : List Opened} {position : Nat}
    {told : List Char} {rendering : Rendering}
    (made : renderFrom opened position told ps = .ok rendering) :
    rendering.text = told ++ ps.flatMap Piece.spoken := by
  induction ps generalizing opened position told rendering with
  | nil =>
    cases made
    exact (List.append_nil told).symm
  | cons piece ps ih =>
    rw [List.flatMap_cons, ← List.append_assoc]
    cases piece with
    | plain text => exact ih made
    | tag backslashes inner =>
      rw [renderFrom_tag] at made
      dsimp only at made
      split at made
      · exact ih made
      · split at made
        · exact made.elim
        · exact ih made
        · obtain ⟨closed, -, -, rest, more, rfl⟩ := made
          exact (ih more : rest.text = _)

/-- All styles that are looked up in a rendering can be read just when the pieces are styled so. -/
theorem readable_spans {ps : List Piece} {opened : List Opened} {position : Nat}
    {told : List Char} {rendering : Rendering} (divided : Bool)
    (early : ∀ entry ∈ opened, entry.before ≤ told.length)
    (made : renderFrom opened position told ps = .ok rendering) :
    (∀ span ∈ rendering.spans, span.isKept divided = true → Readable span.style) ↔
      Styled (!divided) (opened.map (Opened.used divided told)) ps := by
  induction ps generalizing opened position told rendering with
  | nil =>
    cases made
    simp only [Styled, List.forall_mem_map]
    exact Iff.rfl
  | cons piece ps ih =>
    have later := early_append early
    cases piece with
    | plain text =>
      rw [Styled, ← map_used_append early]
      exact ih (later _) made
    | tag backslashes inner =>
      rw [renderFrom_tag] at made
      simp only [Styled, ← map_used_append early]
      split at made
      · next odd =>
        rw [if_pos odd]
        exact ih (later _) made
      · next even =>
        rw [if_neg even]
        split at made
        · exact made.elim
        · next tag opens =>
          rw [ih (List.forall_mem_cons.mpr ⟨Nat.le_refl _, later _⟩) made, List.map_cons,
            used_fresh]
        · next name? opens =>
          obtain ⟨closed, found, -, rest, more, rfl⟩ := made
          have sooner := ih (fun entry among =>
            later _ entry (List.mem_of_mem_eraseP among)) more
          rw [List.forall_mem_cons, sooner, find_used, eraseP_used, found]
          simp only [Option.map_some, Option.mem_def, Option.some.injEq, forall_eq']
          exact Iff.rfl

/-- A markup text is shown just when it is legible. -/
theorem render_eq {s out : List Char} : render s = .ok out ↔ Legible s ∧ out = spoken s := by
  have started : (∃ rendering, renderFrom [] 0 [] (pieces s) = .ok rendering) ↔
      Balanced [] (tags s) := renderFrom_ok (pieces s) [] 0 []
  rw [render, bind_ok]
  constructor
  · rintro ⟨rendering, made, last⟩
    have text : rendering.text = spoken s := text_renderFrom made
    split at last
    · cases last
    · next sound =>
      have styled := (readable_spans (isDivided rendering.text) (List.forall_mem_nil _) made).mp
        (fault_none.mp sound)
      rw [text] at styled
      exact ⟨⟨started.mp ⟨rendering, made⟩, styled⟩, (Except.ok.inj last).symm.trans text⟩
  · rintro ⟨legible, rfl⟩
    obtain ⟨rendering, made⟩ := started.mpr legible.balanced
    have text : rendering.text = spoken s := text_renderFrom made
    have styled := legible.styled
    rw [← text] at styled
    have sound := fault_none.mpr
      ((readable_spans (isDivided rendering.text) (List.forall_mem_nil _) made).mpr styled)
    refine ⟨rendering, made, ?_⟩
    rw [sound, ← text]
    rfl

theorem render_ok (s : List Char) : (∃ shown, render s = .ok shown) ↔ Legible s := by
  simp [render_eq]

end Markup

end ClusterManifest.Console
