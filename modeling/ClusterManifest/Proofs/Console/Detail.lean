import ClusterManifest.Proofs.Console.Line
import ClusterManifest.Proofs.Text.Split

/-! What is printed of a text, and lines with a name and a value: the value is escaped, and the name
is not, so that such a line can be shown just when the name leaves its style switched on, and all
styles in it can be read. -/

namespace ClusterManifest.Console

open Markup (isDropped)

/-- A thing as it is printed, with all of its lines. -/
def Item.printed (item : Item) : String :=
  String.ofList (Text.joinWith ['\n'] (item.lines.map String.toList))

/-- A text that is printed as it is: without tabs, which are printed as blanks, and without the
characters that are not printed. -/
def Visible (s : List Char) : Prop := ∀ c ∈ s, c ≠ '\t' ∧ isDropped c = false

instance (s : List Char) : Decidable (Visible s) :=
  decidable_of_iff (s.all (fun c => c != '\t' && !isDropped c) = true) (by simp [Visible])

theorem visible_append {s t : List Char} : Visible (s ++ t) ↔ Visible s ∧ Visible t :=
  List.forall_mem_append

theorem mem_expandTabsFrom {c : Char} {line : List Char} {column : Nat}
    (among : c ∈ Text.expandTabsFrom column line) : c = ' ' ∨ c ≠ '\t' ∧ c ∈ line := by
  induction line generalizing column with
  | nil => cases among
  | cons d line ih =>
    rw [Text.expandTabsFrom] at among
    split at among
    · rcases List.mem_append.mp among with blank | later
      · exact .inl (List.eq_of_mem_replicate blank)
      · exact (ih later).imp_right (fun both => ⟨both.1, List.mem_cons_of_mem d both.2⟩)
    · next other =>
      rcases List.mem_cons.mp among with rfl | later
      · exact .inr ⟨other, List.mem_cons_self ..⟩
      · exact (ih later).imp_right (fun both => ⟨both.1, List.mem_cons_of_mem d both.2⟩)

theorem printed_text {s : String} : (Item.text s).printed = s ↔ Visible s.toList := by
  have lines : (Item.text s).lines.map String.toList =
      (Text.splitAtChar '\n' (s.toList.filter (fun c => !isDropped c))).map Text.expandTabs := by
    simp [Item.lines, linesOf, Function.comp_def]
  constructor
  · intro same
    rw [← same, Item.printed, String.toList_ofList, lines]
    intro c among
    rcases Text.mem_joinWith among with between | ⟨line, within, inside⟩
    · rw [List.mem_singleton.mp between]
      decide
    · obtain ⟨piece, cut, rfl⟩ := List.mem_map.mp within
      rcases mem_expandTabsFrom inside with rfl | ⟨other, here⟩
      · decide
      · have kept := (List.mem_filter.mp (Text.mem_of_mem_splitWhere cut here).1).2
        exact ⟨other, by simpa using kept⟩
  · intro visible
    have kept : s.toList.filter (fun c => !isDropped c) = s.toList :=
      List.filter_eq_self.mpr (fun c among => by simp [(visible c among).2])
    have whole : ∀ piece ∈ Text.splitAtChar '\n' s.toList, Text.expandTabs piece = id piece :=
      fun piece cut => Text.expandTabsFrom_of_no_tab 0 piece
        (fun tab => (visible _ (Text.mem_of_mem_splitWhere cut tab).1).1 rfl)
    rw [Item.printed, lines, kept, List.map_congr_left whole, List.map_id,
      Text.joinWith_splitAtChar, String.ofList_toList]

namespace Markup

/-- The name of a detail and its value as markup, once the value is escaped. -/
def detailed (name value : List Char) : List Char :=
  "    ".toList ++ '[' :: 'b' :: ("old".toList ++ ']' :: (name ++ '[' :: '/' :: ([] ++ ']' ::
    (':' :: ' ' :: escape value))))

/-- An ending of a name, of which something is seen and which nothing before it can change. -/
structure Ending (text : List Char) : Prop extends Inert text where
  seen : text.any isMark = true

theorem Ending.nonempty {text : List Char} (ending : Ending text) : text ≠ [] := by
  rintro rfl
  cases ending.seen

theorem pieces_detailed {ending : List Char} (ends : Ending ending) (front value : List Char) :
    pieces (detailed (front ++ ending) value) =
      .plain "    ".toList :: .tag 0 "bold".toList ::
        trail ending (.tag 0 ['/'] :: pieces (':' :: ' ' :: escape value)) (pieces front) := by
  have closed := pieces_closing (':' :: ' ' :: escape value)
  have named := pieces_text ends.plain ends.nonempty (s := '[' :: ('/' :: [] ++ ']' :: _))
    (fun _ _ same => nomatch closed.symm.trans same)
  rw [closed] at named
  have fence := Fence.of_text ends.plain ends.nonempty
    ('/' :: ([] ++ ']' :: ':' :: ' ' :: escape value))
  have opens := @pieces_bracketed 'b' "old".toList rfl rfl
    (front ++ (ending ++ '[' :: '/' :: ([] ++ ']' :: ':' :: ' ' :: escape value)))
  rw [pieces_append fence named] at opens
  rw [detailed, List.append_assoc, pieces_text rfl (by decide)
    (fun _ _ same => nomatch opens.symm.trans same), opens]
  rfl

theorem spoken_detailed {ending : List Char} (ends : Ending ending) (front value : List Char) :
    spoken (detailed (front ++ ending) value) =
      "    ".toList ++ spoken front ++ ending ++ ':' :: ' ' :: told value := by
  have margin : shown "    ".toList = "    ".toList := by decide +kernel
  have said := spoken_colon (escape value)
  rw [spoken_escape] at said
  have silent : ∀ inner, (Piece.tag 0 inner).spoken = [] := fun _ => rfl
  rw [spoken, pieces_detailed ends, List.flatMap_cons, List.flatMap_cons, silent,
    spoken_trail ends.whole ends.unopened, List.flatMap_cons, silent, List.nil_append,
    List.nil_append, Piece.spoken, margin]
  rw [spoken] at said
  rw [said, spoken]
  simp only [List.append_assoc]

/-! ### The styles of a name -/

theorem mark_append (text : List Char) (opened below : List (Tag × Bool)) :
    mark text (opened ++ below) = mark text opened ++ mark text below := List.map_append

/-- A tag closes a style above before one below, where all styles can be read. -/
theorem closing_above {closed : Tag × Bool → Bool} {opened below : List (Tag × Bool)}
    (readable : ∀ entry ∈ below, Readable entry.1.style) :
    ((∀ entry ∈ (opened ++ below).find? closed, entry.2 = true → Readable entry.1.style) ↔
      ∀ entry ∈ opened.find? closed, entry.2 = true → Readable entry.1.style) ∧
    ∃ lower, (∀ entry ∈ lower, Readable entry.1.style) ∧
      (opened ++ below).eraseP closed = opened.eraseP closed ++ lower := by
  rw [List.find?_append]
  cases found : opened.find? closed with
  | some entry =>
    have among := List.mem_of_find?_eq_some found
    exact ⟨Iff.rfl, below, readable, List.eraseP_append_left (List.find?_some found) below among⟩
  | none =>
    have absent := List.find?_eq_none.mp found
    refine ⟨iff_of_true ?_ nofun, below.eraseP closed, ?_, ?_⟩
    · exact fun entry among _ => readable entry (List.mem_of_find?_eq_some among)
    · exact fun entry among => readable entry (List.mem_of_mem_eraseP among)
    · rw [List.eraseP_append_right below absent, List.eraseP_of_forall_not absent]

theorem readable_mark {opened : List (Tag × Bool)} (text : List Char)
    (readable : ∀ entry ∈ opened, Readable entry.1.style) :
    ∀ entry ∈ mark text opened, Readable entry.1.style := by
  simpa only [mark, List.forall_mem_map] using readable

/-- Styles below the open ones change nothing, as long as they can be read. -/
theorem styled_above {always : Bool} {ps : List Piece} {opened below : List (Tag × Bool)}
    (readable : ∀ entry ∈ below, Readable entry.1.style) :
    Styled always (opened ++ below) ps ↔ Styled always opened ps := by
  induction ps generalizing opened below with
  | nil =>
    simp only [Styled, List.forall_mem_append]
    exact and_iff_left (fun entry among _ => readable entry among)
  | cons piece ps ih =>
    cases piece with
    | plain text =>
      simp only [Styled, mark_append]
      exact ih (readable_mark _ readable)
    | tag backslashes inner =>
      simp only [Styled, mark_append]
      have low := readable_mark (Piece.tag backslashes inner).spoken readable
      split
      · exact ih low
      · split
        · exact Iff.rfl
        · rw [← List.cons_append]
          exact ih low
        · obtain ⟨closed, lower, still, rest⟩ := closing_above low
          rw [rest]
          exact and_congr closed (ih still)

/-- What follows an ending that is seen is styled just when each open style can be read. -/
def Settles (always : Bool) (ps : List Piece) : Prop :=
  ∀ opened : List (Tag × Bool), (∀ entry ∈ opened, entry.2 = true) →
    (Styled always opened ps ↔ ∀ entry ∈ opened, Readable entry.1.style)

theorem settles_silent {always : Bool} {ps : List Piece}
    (silent : ∀ tag ∈ tagsOf ps, tag.1 % 2 = 1) : Settles always ps :=
  fun _ seen => styled_silent silent seen

theorem settles_closing {always : Bool} {ps : List Piece} (settles : Settles always ps) :
    Settles always (.tag 0 ['/'] :: ps) := by
  intro opened seen
  have closed : signOf ['/'] = .ok (.closing none) := rfl
  simp only [Styled, mark_seen seen, closed]
  cases opened with
  | nil => simpa using settles [] seen
  | cons entry opened =>
    rw [List.forall_mem_cons] at seen
    simp [settles opened seen.2, seen.1]

/-- An ending that is seen takes the place of all that follows it. -/
theorem styled_ended {always : Bool} {ending : List Char} (ends : Ending ending)
    {rest : List Piece} (settles : Settles always rest) (ps : List Piece)
    (opened : List (Tag × Bool)) :
    Styled always opened (trail ending rest ps) ↔ Styled always opened (trail ending [] ps) := by
  have none : Settles always [] := settles_silent (List.forall_mem_nil _)
  have seen (text : List Char) (opened : List (Tag × Bool)) :
      ∀ entry ∈ mark (text ++ ending) opened, entry.2 = true := by
    simp [mark, ends.seen]
  induction ps using trail.induct generalizing opened with
  | case1 =>
    have itself : shown ending = [] ++ ending := shown_ordinary ⟨ends.whole, fun among =>
      (notMem_of_text ends.plain among).2.2 rfl⟩
    simp only [trail, Styled, itself]
    exact (settles _ (seen [] opened)).trans (none _ (seen [] opened)).symm
  | case2 last =>
    simp only [trail, Styled, shown_append ends.whole ends.unopened]
    exact (settles _ (seen _ opened)).trans (none _ (seen _ opened)).symm
  | case3 piece ps longer ih =>
    have cut (rest : List Piece) : trail ending rest (piece :: ps) =
        piece :: trail ending rest ps := by
      rw [trail]
      exact longer
    rw [cut, cut]
    cases piece with
    | plain text => exact ih _
    | tag backslashes inner => simp only [Styled, ih]

theorem styled_unopened {name : List Char} (unopened : '[' ∉ name) (always : Bool) :
    Styled always [] (pieces name) := by
  have silent : ∀ tag ∈ tags name, tag.1 % 2 = 1 := by
    rw [tags_unopened unopened]
    exact List.forall_mem_nil _
  exact (styled_silent silent (List.forall_mem_nil _)).mpr (List.forall_mem_nil _)

theorem isDivided_detailed {ending : List Char} (ends : Ending ending) (front value : List Char) :
    isDivided (spoken (detailed (front ++ ending) value)) =
      (isDivided (spoken (front ++ ending)) || isDivided (told value)) := by
  have margin : isDivided "    ".toList = false := by decide
  have last : isDivided (':' :: ' ' :: told value) = isDivided (told value) :=
    isDivided_append [':', ' '] (told value)
  rw [spoken_detailed ends, spoken_append_inert ends.toInert, List.append_assoc, List.append_assoc,
    isDivided_append, margin, Bool.false_or, ← List.append_assoc, isDivided_append, last]

variable [LiteralReader]

def bold : Tag := ⟨"bold".toList, none⟩

/-- A name that leaves the style that it is shown in switched on, and in which all styles can be
read. -/
structure Keyed (name : List Char) : Prop where
  balanced : Balanced [bold] (tags name ++ [(0, ['/'])])
  styled : Styled (!isDivided (spoken name)) [] (pieces name)

theorem keyed_unopened {name : List Char} (unopened : '[' ∉ name) : Keyed name where
  balanced := by
    rw [tags_unopened unopened]
    exact ⟨bold, rfl, rfl, trivial⟩
  styled := styled_unopened unopened _

theorem balanced_append_odd {odd : List (Nat × List Char)} (silent : ∀ tag ∈ odd, tag.1 % 2 = 1)
    (ts : List (Nat × List Char)) (opened : List Tag) :
    Balanced opened (ts ++ odd) ↔ Balanced opened ts := by
  induction ts generalizing opened with
  | nil => exact iff_of_true (balanced_of_odd silent opened) trivial
  | cons tag ts ih =>
    simp only [List.cons_append, Balanced, ih]

theorem opens_bold : Opens "bold".toList bold :=
  ⟨by decide, by decide, by decide +kernel, rfl, by decide +kernel⟩

theorem balanced_detailed {ending : List Char} (ends : Ending ending) (front value : List Char) :
    Balanced [] (tags (detailed (front ++ ending) value)) ↔
      Balanced [bold] (tags (front ++ ending) ++ [(0, ['/'])]) := by
  have tagged : tags (detailed (front ++ ending) value) =
      (0, "bold".toList) :: ((tags front ++ [(0, ['/'])]) ++ tags (escape value)) := by
    rw [tags, pieces_detailed ends, tagsOf, tagsOf, tagsOf_trail, tagsOf, List.append_assoc]
    congr 3
    exact @tags_text_append [':', ' '] rfl (escape value)
  have silent := balanced_append_odd (tags_escape value) (tags front ++ [(0, ['/'])]) [bold]
  rw [tags_append_text ends.plain, tagged, ← silent, Balanced, if_neg (by decide),
    opens_bold.opens]

theorem styled_detailed {always : Bool} {ending : List Char} (ends : Ending ending)
    (front value : List Char) : Styled always [] (pieces (detailed (front ++ ending) value)) ↔
      Styled always [] (pieces (front ++ ending)) := by
  have silent : ∀ tag ∈ tags (':' :: ' ' :: escape value), tag.1 % 2 = 1 := by
    have same : tags (':' :: ' ' :: escape value) = tags (escape value) :=
      @tags_text_append [':', ' '] rfl (escape value)
    rw [same]
    exact tags_escape value
  have settles : Settles always (.tag 0 ['/'] :: pieces (':' :: ' ' :: escape value)) :=
    settles_closing (settles_silent silent)
  have readable : ∀ entry ∈ [(bold, always)], Readable entry.1.style :=
    List.forall_mem_singleton.mpr opens_bold.readable
  have below : Styled always ([] ++ [(bold, always)]) (trail ending [] (pieces front)) ↔ _ :=
    styled_above readable
  rw [pieces_detailed ends, pieces_append_inert ends.toInert ends.nonempty, ← below, ← styled_ended ends settles]
  simp only [Styled, mark_nil, opens_bold.opens]
  exact Iff.rfl

/-- A detail is legible just when its name leaves its style switched on, provided that the value is
on one line, or that there is no style in the name. -/
theorem legible_detailed {ending : List Char} (ends : Ending ending) (front value : List Char)
    (single : isDivided (told value) = false ∨ '[' ∉ front) :
    Legible (detailed (front ++ ending) value) ↔ Keyed (front ++ ending) := by
  have styled : Styled (!isDivided (spoken (detailed (front ++ ending) value))) []
        (pieces (detailed (front ++ ending) value)) ↔
      Styled (!isDivided (spoken (front ++ ending))) [] (pieces (front ++ ending)) := by
    rw [styled_detailed ends]
    rcases single with single | unopened
    · rw [isDivided_detailed ends, single, Bool.or_false]
    · have plain : '[' ∉ front ++ ending := by
        simpa using ⟨unopened, ends.unopened⟩
      exact iff_of_true (styled_unopened plain _) (styled_unopened plain _)
  have balanced := balanced_detailed ends front value
  exact ⟨fun legible => ⟨balanced.mp legible.balanced, styled.mp legible.styled⟩,
    fun keyed => ⟨balanced.mpr keyed.balanced, styled.mpr keyed.styled⟩⟩

end Markup

open Markup

variable [LiteralReader]

/-- A detail whose name has an ending of its own, as it is shown. -/
theorem detail_eq (front value : String) {ending : String} (ends : Ending ending.toList)
    (single : isDivided (told value.toList) = false ∨ '[' ∉ front.toList) {item : Item} :
    detail (.text (front ++ ending)) (.text value) = .ok item ↔ Keyed (front ++ ending).toList ∧
      item = .text ("    " ++ (String.ofList (spoken front.toList) ++ ending) ++ ": " ++
        String.ofList (told value.toList)) := by
  have markup : ("    [bold]" ++ (front ++ ending) ++ "[/]: " ++ escaped value).toList =
      detailed (front.toList ++ ending.toList) value.toList := by
    simp [detailed, escaped]
  have content : String.ofList (spoken (detailed (front.toList ++ ending.toList) value.toList)) =
      "    " ++ (String.ofList (spoken front.toList) ++ ending) ++ ": " ++
        String.ofList (told value.toList) := by
    rw [spoken_detailed ends]
    apply String.toList_injective
    simp
  rw [detail, line_eq, markup, content, legible_detailed ends _ _ single, String.toList_append]

end ClusterManifest.Console
