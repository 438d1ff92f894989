import ClusterManifest.Console.Markup
import Mathlib.Data.List.TakeWhile

/-! How a markup text is cut into pieces, and that it is cut in the same way where a text follows
that no tag of it reaches into. -/

namespace ClusterManifest.Console.Markup

theorem pieces_nil : pieces [] = [] := by
  rw [pieces]

theorem pieces_cons {c : Char} {s : List Char}
    (none : tag? ((c :: s).dropWhile isBackslash) = none) :
    pieces (c :: s) = pushPlain c (pieces s) := by
  rw [pieces]
  split
  · next inner after found =>
    rw [none] at found
    cases found
  · rfl

theorem pieces_tag {c : Char} {s inner after : List Char}
    (found : tag? ((c :: s).dropWhile isBackslash) = some (inner, after)) :
    pieces (c :: s) =
      .tag ((c :: s).takeWhile isBackslash).length inner :: pieces after := by
  rw [pieces]
  split
  · next inner' after' same =>
    rw [found] at same
    cases same
    rfl
  · next none =>
    rw [found] at none
    cases none

theorem tag_none {s : List Char} (other : s.head? ≠ some '[') : tag? s = none := by
  unfold tag?
  split
  · exact absurd rfl other
  · rfl

def isUnbracketed (c : Char) : Bool := c != ']' && c != '['

theorem unbracketed_of_starts {c : Char} (starts : startsTag c = true) :
    isUnbracketed c = true := by
  unfold isUnbracketed
  rw [Bool.and_eq_true, bne_iff_ne, bne_iff_ne]
  constructor <;>
  · rintro rfl
    revert starts
    decide

/-- A bracket opens a tag just when a character follows that starts one, and the next bracket
closes. -/
theorem tag_open {s : List Char} : (tag? ('[' :: s)).isSome = true ↔
    s.head?.any startsTag = true ∧ (s.dropWhile isUnbracketed).head? = some ']' := by
  cases s with
  | nil => simp [tag?]
  | cons c rest =>
    have cut : rest.dropWhile (fun c => c != ']' && c != '[') = rest.dropWhile isUnbracketed := rfl
    simp only [tag?, cut, List.head?_cons, Option.any_some]
    cases starts : startsTag c with
    | false => split <;> simp
    | true =>
      rw [List.dropWhile_cons_of_pos (unbracketed_of_starts starts)]
      cases rest.dropWhile isUnbracketed with
      | nil => simp
      | cons d after =>
        by_cases closing : d = ']'
        · simp [closing]
        · simp [closing]

/-- A tag as it stands in a text. -/
theorem tag_spelled {s inner after : List Char} (found : tag? s = some (inner, after)) :
    s = '[' :: (inner ++ ']' :: after) ∧
      ∃ c rest, inner = c :: rest ∧ startsTag c = true ∧ ∀ d ∈ rest, isUnbracketed d = true := by
  unfold tag? at found
  split at found
  · next c rest =>
    split at found
    · next closed =>
      split at found
      · next starts =>
        cases found
        have inside := List.takeWhile_append_dropWhile
          (p := fun c => c != ']' && c != '[') (l := rest)
        rw [closed] at inside
        refine ⟨?_, c, _, rfl, starts, List.all_eq_true.mp List.all_takeWhile⟩
        rw [List.cons_append, inside]
      · cases found
    · cases found
  · cases found

theorem tag_closed {c : Char} {rest : List Char} (starts : startsTag c = true)
    (inside : ∀ d ∈ rest, isUnbracketed d = true) (after : List Char) :
    tag? ('[' :: (c :: rest ++ ']' :: after)) = some (c :: rest, after) := by
  have cut : (rest ++ ']' :: after).dropWhile isUnbracketed =
      (']' :: after).dropWhile isUnbracketed := List.dropWhile_append_of_pos inside
  have kept : (rest ++ ']' :: after).takeWhile isUnbracketed =
      rest ++ (']' :: after).takeWhile isUnbracketed := List.takeWhile_append_of_pos inside
  unfold isUnbracketed at cut kept
  simp [tag?, cut, kept, starts]

/-- Nothing of a text is lost by cutting it. -/
theorem text_pieces (s : List Char) : (pieces s).flatMap Piece.text = s := by
  induction s using pieces.induct with
  | case1 => rw [pieces_nil, List.flatMap_nil]
  | case2 c rest inner after found _ ih =>
    have whole := List.takeWhile_append_dropWhile (p := isBackslash) (l := c :: rest)
    have signs : (c :: rest).takeWhile isBackslash =
        List.replicate ((c :: rest).takeWhile isBackslash).length '\\' :=
      List.eq_replicate_iff.mpr ⟨rfl, fun d among =>
        beq_iff_eq.mp (List.all_eq_true.mp List.all_takeWhile d among)⟩
    rw [(tag_spelled found).1, signs] at whole
    rw [pieces_tag found, List.flatMap_cons, ih, Piece.text]
    simpa using whole
  | case3 c rest none ih => rw [pieces_cons none, text_pushPlain, ih]

/-- A tag behind backslashes is one piece with them. -/
theorem pieces_backslashes {c : Char} {rest : List Char} (count : Nat)
    (starts : startsTag c = true) (inside : ∀ d ∈ rest, isUnbracketed d = true)
    (after : List Char) :
    pieces (List.replicate count '\\' ++ '[' :: (c :: rest ++ ']' :: after)) =
      .tag count (c :: rest) :: pieces after := by
  have all : ∀ d ∈ List.replicate count '\\', isBackslash d = true :=
    fun d among => beq_iff_eq.mpr (List.eq_of_mem_replicate among)
  have dropped : (List.replicate count '\\' ++
      '[' :: (c :: rest ++ ']' :: after)).dropWhile isBackslash =
        '[' :: (c :: rest ++ ']' :: after) := by
    rw [List.dropWhile_append_of_pos all]
    rfl
  have taken : (List.replicate count '\\' ++
      '[' :: (c :: rest ++ ']' :: after)).takeWhile isBackslash = List.replicate count '\\' := by
    rw [List.takeWhile_append_of_pos all]
    exact List.append_nil _
  have found := tag_closed starts inside after
  rw [← dropped] at found
  cases whole : List.replicate count '\\' ++ '[' :: (c :: rest ++ ']' :: after) with
  | nil => simp at whole
  | cons d s =>
    rw [whole] at found taken
    rw [pieces_tag found, taken, List.length_replicate]

def isText (c : Char) : Bool := c != '[' && c != ']' && c != '\\'

theorem notMem_of_text {text : List Char} (plain : text.all isText = true) {c : Char}
    (among : c ∈ text) : c ≠ '[' ∧ c ≠ ']' ∧ c ≠ '\\' := by
  have here := List.all_eq_true.mp plain c among
  simp only [isText, Bool.and_eq_true, bne_iff_ne] at here
  exact ⟨here.1.1, here.1.2, here.2⟩

theorem pieces_bracketed {c : Char} {inner : List Char} (starts : startsTag c = true)
    (plain : inner.all isText = true) (rest : List Char) :
    pieces ('[' :: c :: (inner ++ ']' :: rest)) = .tag 0 (c :: inner) :: pieces rest := by
  refine pieces_backslashes 0 starts (fun d among => ?_) rest
  have here := notMem_of_text plain among
  simp [isUnbracketed, here.1, here.2.1]

theorem pieces_text_cons {c : Char} (plain : isText c = true) (s : List Char) :
    pieces (c :: s) = pushPlain c (pieces s) := by
  have alone : [c].all isText = true := by simpa using plain
  have here := notMem_of_text alone (List.mem_singleton_self c)
  refine pieces_cons (tag_none ?_)
  rw [List.dropWhile_cons_of_neg (by simp [isBackslash, here.2.2])]
  simpa using here.1

/-- Text before a tag is a piece of its own. -/
theorem pieces_text {text : List Char} (plain : text.all isText = true) (nonempty : text ≠ [])
    {s : List Char} (marked : ∀ first rest, pieces s ≠ .plain first :: rest) :
    pieces (text ++ s) = .plain text :: pieces s := by
  induction text with
  | nil => exact absurd rfl nonempty
  | cons c text ih =>
    rw [List.all_cons, Bool.and_eq_true] at plain
    rw [List.cons_append, pieces_text_cons plain.1]
    cases text with
    | nil =>
      rw [List.nil_append]
      unfold pushPlain
      split
      · next same => exact absurd same (marked _ _)
      · rfl
    | cons d text =>
      rw [ih plain.2 (List.cons_ne_nil d text)]
      rfl

theorem tag_unopened {text : List Char} (unopened : '[' ∉ text) : tag? text = none :=
  tag_none (fun first => unopened (List.mem_of_mem_head? first))

/-- A text in which no bracket opens is a piece of its own. -/
theorem pieces_unopened {text : List Char} (unopened : '[' ∉ text) (nonempty : text ≠ []) :
    pieces text = [.plain text] := by
  induction text with
  | nil => exact absurd rfl nonempty
  | cons c text ih =>
    have behind : '[' ∉ (c :: text).dropWhile isBackslash :=
      fun among => unopened ((List.dropWhile_suffix _).mem among)
    rw [pieces_cons (tag_unopened behind)]
    cases text with
    | nil =>
      rw [pieces_nil]
      rfl
    | cons d text =>
      rw [ih (fun among => unopened (List.mem_cons_of_mem c among)) (List.cons_ne_nil d text)]
      rfl

/-- A text that no tag of a text before it reaches into. -/
structure Fence (x : List Char) : Prop where
  closed : (x.dropWhile isUnbracketed).head? ≠ some ']'
  untagged : tag? (x.dropWhile isBackslash) = none

/-- A text without brackets, of which no tag can be a part. -/
def Bare (text : List Char) : Prop := ∀ c ∈ text, c ≠ '[' ∧ c ≠ ']'

theorem bare_of_text {text : List Char} (plain : text.all isText = true) : Bare text :=
  fun _ among => ⟨(notMem_of_text plain among).1, (notMem_of_text plain among).2.1⟩

theorem dropWhile_bare {text : List Char} (bare : Bare text) :
    text.dropWhile isUnbracketed = [] :=
  List.dropWhile_eq_nil_iff.mpr (fun c among => by simp [isUnbracketed, bare c among])

theorem Bare.unopened {text : List Char} (bare : Bare text) : '[' ∉ text :=
  fun among => (bare _ among).1 rfl

theorem Fence.of_bare {text : List Char} (bare : Bare text) : Fence text where
  closed := by
    rw [dropWhile_bare bare]
    simp
  untagged := tag_unopened (fun among => bare.unopened ((List.dropWhile_suffix _).mem among))

theorem Fence.of_text {text : List Char} (plain : text.all isText = true) (nonempty : text ≠ [])
    (rest : List Char) : Fence (text ++ '[' :: rest) := by
  obtain ⟨c, more, rfl⟩ := List.exists_cons_of_ne_nil nonempty
  have here := notMem_of_text plain (List.mem_cons_self ..)
  constructor
  · rw [List.dropWhile_append, dropWhile_bare (bare_of_text plain)]
    simp [isUnbracketed]
  · rw [List.cons_append, List.dropWhile_cons_of_neg (by simp [isBackslash, here.2.2])]
    exact tag_none (by simpa using here.1)

variable {x : List Char}

/-- The tag at the start of a text, if there is one, is the same when more follows. -/
theorem Fence.tag_append (fence : Fence x) {s : List Char} (nonempty : s ≠ []) :
    tag? (s ++ x) = (tag? s).map (fun found => (found.1, found.2 ++ x)) := by
  cases found : tag? s with
  | some tag =>
    obtain ⟨inner, after⟩ := tag
    obtain ⟨rfl, c, rest, rfl, starts, inside⟩ := tag_spelled found
    have same := tag_closed starts inside (after ++ x)
    simpa using same
  | none =>
    obtain ⟨d, s, rfl⟩ := List.exists_cons_of_ne_nil nonempty
    by_cases bracket : d = '['
    · subst bracket
      rw [Option.map_none, List.cons_append]
      rw [← Option.not_isSome_iff_eq_none, tag_open] at found ⊢
      rintro ⟨starts, closes⟩
      rw [List.dropWhile_append] at closes
      split at closes
      · exact fence.closed closes
      · next more =>
        rw [List.isEmpty_iff] at more
        obtain ⟨e, more, cut⟩ := List.exists_cons_of_ne_nil more
        have some : s ≠ [] := by
          rintro rfl
          cases cut
        obtain ⟨c, s, rfl⟩ := List.exists_cons_of_ne_nil some
        rw [cut] at closes found
        exact found ⟨starts, closes⟩
    · exact tag_none (by simpa using bracket)

theorem Fence.tag_dropWhile_append (fence : Fence x) (s : List Char) :
    tag? ((s ++ x).dropWhile isBackslash) =
      (tag? (s.dropWhile isBackslash)).map (fun found => (found.1, found.2 ++ x)) := by
  rw [List.dropWhile_append]
  split
  · next empty =>
    rw [List.isEmpty_iff.mp empty, fence.untagged]
    rfl
  · next more => exact fence.tag_append (fun empty => more (List.isEmpty_iff.mpr empty))

theorem takeWhile_append_of_tag {s : List Char} {tag : List Char × List Char}
    (found : tag? (s.dropWhile isBackslash) = some tag) :
    (s ++ x).takeWhile isBackslash = s.takeWhile isBackslash := by
  rw [List.takeWhile_append, if_neg]
  intro same
  have both := congrArg List.length (List.takeWhile_append_dropWhile (p := isBackslash) (l := s))
  rw [List.length_append, same] at both
  have none := List.length_eq_zero_iff.mp (by omega : (s.dropWhile isBackslash).length = 0)
  rw [none] at found
  cases found

/-- Pieces with a text after them, in one run with plain text that they end in, and then more
pieces. -/
def trail (text : List Char) (rest : List Piece) : List Piece → List Piece
  | [] => .plain text :: rest
  | [.plain last] => .plain (last ++ text) :: rest
  | piece :: pieces => piece :: trail text rest pieces

theorem trail_tag {text inner : List Char} {rest pieces : List Piece} {backslashes : Nat} :
    trail text rest (.tag backslashes inner :: pieces) =
      .tag backslashes inner :: trail text rest pieces := by
  simp [trail]

theorem trail_pushPlain (c : Char) (text : List Char) (rest pieces : List Piece) :
    trail text rest (pushPlain c pieces) = pushPlain c (trail text rest pieces) := by
  match pieces with
  | [] => rfl
  | .tag backslashes inner :: pieces => simp [pushPlain, trail]
  | [.plain last] => rfl
  | .plain first :: second :: pieces => rfl

/-- A text before a fence is cut into the pieces that it has alone. -/
theorem pieces_append {text : List Char} {rest : List Piece} (fence : Fence x)
    (cut : pieces x = .plain text :: rest) (s : List Char) :
    pieces (s ++ x) = trail text rest (pieces s) := by
  induction s using pieces.induct with
  | case1 =>
    rw [pieces_nil]
    exact cut
  | case2 c s inner after found _ ih =>
    have follows := fence.tag_dropWhile_append (c :: s)
    rw [found] at follows
    rw [pieces_tag found, trail_tag, ← ih, ← takeWhile_append_of_tag (x := x) found]
    exact pieces_tag follows
  | case3 c s none ih =>
    have follows := fence.tag_dropWhile_append (c :: s)
    rw [none] at follows
    rw [pieces_cons none, trail_pushPlain, ← ih]
    exact pieces_cons follows

end ClusterManifest.Console.Markup
