import Mathlib.Algebra.Group.Nat.Defs
import Mathlib.Data.List.Forall2
import ClusterManifest.Proofs.Network.V6

/-! The spellings of addresses, as a grammar of their own. What is read as an address is what the
grammar derives: one text for an address of version 4, and for one of version 6 every choice of
letters, zeros, zero runs and tail. -/

namespace ClusterManifest.Network.Address

open Text

theorem digitChar_asciiDigitValue {c : Char} (digit : isAsciiDigit c = true) :
    asciiDigitValue c < 10 ∧ Nat.digitChar (asciiDigitValue c) = c :=
  digit_cases (p := fun c => asciiDigitValue c < 10 ∧ Nat.digitChar (asciiDigitValue c) = c)
    (by decide) digit

/-- Digits that go on from a number are what is written after it. -/
theorem decimal_foldl {s : List Char} (digits : ∀ c ∈ s, isAsciiDigit c = true) {n : Nat}
    (positive : 0 < n) :
    decimal ((s.map asciiDigitValue).foldl (fun n d => n * 10 + d) n) = decimal n ++ s := by
  induction s generalizing n with
  | nil => exact (List.append_nil _).symm
  | cons c s ih =>
    obtain ⟨small, char⟩ := digitChar_asciiDigitValue (digits c (List.mem_cons_self ..))
    have more := ih (fun d among => digits d (List.mem_cons_of_mem _ among))
      (n := n * 10 + asciiDigitValue c) (by omega)
    have last : (n * 10 + asciiDigitValue c) / 10 = n ∧
        (n * 10 + asciiDigitValue c) % 10 = asciiDigitValue c := by omega
    have next : decimal (n * 10 + asciiDigitValue c) = decimal n ++ [c] := by
      rw [decimal, Nat.toDigits_of_base_le (by decide) (by omega), last.1, last.2, char]
      rfl
    rw [List.map_cons, List.foldl_cons, more, next, List.append_assoc]
    rfl

/-- Digits without a zero before others are the text of what they are worth. -/
theorem decimal_ofDigits {c : Char} {s : List Char}
    (digits : ∀ d ∈ c :: s, isAsciiDigit d = true) (plain : c = '0' → s = []) :
    decimal (ofDigits 10 ((c :: s).map asciiDigitValue)) = c :: s := by
  obtain ⟨small, char⟩ := digitChar_asciiDigitValue (digits c (List.mem_cons_self ..))
  have first : decimal (asciiDigitValue c) = [c] := by
    rw [decimal, Nat.toDigits_of_lt_base small, char]
  rw [List.map_cons, ofDigits, List.foldl_cons, Nat.zero_mul, Nat.zero_add]
  rcases Nat.eq_zero_or_pos (asciiDigitValue c) with zero | positive
  · rw [zero] at char
    rw [plain char.symm, List.map_nil, List.foldl_nil, first]
  · rw [decimal_foldl (fun d among => digits d (List.mem_cons_of_mem _ among)) positive, first]
    rfl

theorem octet_iff {s : List Char} {n : Nat} : octet? s = some n ↔ n < 256 ∧ s = decimal n := by
  refine ⟨fun read => ⟨(octet_some read).2, ?_⟩, fun ⟨small, same⟩ => same ▸ octet_decimal n small⟩
  have digits := (octet_some read).1
  cases s with
  | nil => cases read
  | cons c s =>
    unfold octet? at read
    dsimp only at read
    split at read
    · cases read
    · split at read
      · cases read
      · next leading =>
        split at read
        · cases read
        · cases read
          refine (decimal_ofDigits digits (fun zero => ?_)).symm
          subst zero
          simpa using leading

/-- An address of version 4 has one text. -/
theorem v4_iff {s : List Char} {n : Nat} : v4? s = some n ↔ n < 2 ^ 32 ∧ s = v4Text n := by
  constructor
  · intro read
    refine ⟨v4_lt read, ?_⟩
    obtain ⟨a, b, c, d, octets, worth⟩ := v4_some read
    obtain ⟨p, _, cut, one, more⟩ := List.map_eq_cons_iff.mp octets
    obtain ⟨q, _, rfl, two, more⟩ := List.map_eq_cons_iff.mp more
    obtain ⟨r, _, rfl, three, more⟩ := List.map_eq_cons_iff.mp more
    obtain ⟨t, _, rfl, four, more⟩ := List.map_eq_cons_iff.mp more
    rw [List.map_eq_nil_iff.mp more] at cut
    obtain ⟨small₁, rfl⟩ := octet_iff.mp one
    obtain ⟨small₂, rfl⟩ := octet_iff.mp two
    obtain ⟨small₃, rfl⟩ := octet_iff.mp three
    obtain ⟨small₄, rfl⟩ := octet_iff.mp four
    simp only [ofDigits, List.foldl_cons, List.foldl_nil] at worth
    have parts : n / 16777216 % 256 = a ∧ n / 65536 % 256 = b ∧ n / 256 % 256 = c ∧
        n % 256 = d := by omega
    rw [← joinWith_splitAtChar '.' s, cut, v4Text]
    simp only [List.map_cons, List.map_nil, parts]
  · rintro ⟨small, rfl⟩
    exact v4_v4Text small

theorem point_mem_v4Text (n : Nat) : '.' ∈ v4Text n := by
  simp [v4Text, joinWith]

/-- One to four hexadecimal digits of either case, and the group that they spell. -/
structure GroupSpelling (piece : List Char) (group : Nat) : Prop where
  nonempty : piece ≠ []
  short : piece.length ≤ 4
  worth : ∃ digits, piece.mapM hexDigit? = some digits ∧ ofDigits 16 digits = group

/-- What may stand after the last colons of an address: groups, of which the last two may be
spelled as an address of version 4. -/
inductive TailSpelling : List (List Char) → List Nat → Prop
  | nil : TailSpelling [] []
  | dotted {n : Nat} : n < 2 ^ 32 → TailSpelling [v4Text n] [n / 65536, n % 65536]
  | group {piece : List Char} {group : Nat} {pieces : List (List Char)} {groups : List Nat} :
    GroupSpelling piece group → TailSpelling pieces groups →
      TailSpelling (piece :: pieces) (group :: groups)

/-- The spellings of an address of version 6: its eight groups with colons between them, or those on
both sides of a double colon that stands for one or more groups of zeros. -/
inductive V6Spelling : List Char → Nat → Prop
  | whole {pieces : List (List Char)} {groups : List Nat} :
    TailSpelling pieces groups → groups.length = 8 →
      V6Spelling (joinWith [':'] pieces) (ofDigits 65536 groups)
  | shortened {front back : List (List Char)} {high low : List Nat} :
    List.Forall₂ GroupSpelling front high → TailSpelling back low →
    high.length + low.length < 8 →
      V6Spelling (joinWith [':'] front ++ "::".toList ++ joinWith [':'] back)
        (ofDigits 65536 (high ++ List.replicate (8 - (high.length + low.length)) 0 ++ low))

def PartSpelling (piece : List Char) : Part → Prop
  | .gap => piece = []
  | .group n => GroupSpelling piece n

theorem part_iff {piece : List Char} {part : Part} :
    part? piece = some part ↔ PartSpelling piece part := by
  unfold part?
  split
  · next empty =>
    rw [List.isEmpty_iff] at empty
    subst empty
    cases part with
    | gap => simp [PartSpelling]
    | group n => exact ⟨nofun, fun spelled => absurd rfl spelled.nonempty⟩
  · next some =>
    rw [List.isEmpty_iff] at some
    cases part with
    | gap =>
      refine ⟨fun read => ?_, fun empty => absurd empty some⟩
      split at read
      · cases read
      · obtain ⟨_, -, other⟩ := Option.map_eq_some_iff.mp read
        cases other
    | group n =>
      constructor
      · intro read
        split at read
        · cases read
        · next short =>
          obtain ⟨digits, all, made⟩ := Option.map_eq_some_iff.mp read
          cases made
          exact ⟨some, Nat.not_lt.mp short, digits, all, rfl⟩
      · rintro ⟨-, short, digits, all, rfl⟩
        rw [if_neg (Nat.not_lt.mpr short), all]
        rfl

/-- The pieces between all colons of a text, and the parts that they are read as. -/
inductive PartsSpelling : List (List Char) → List Part → Prop
  | nil : PartsSpelling [] []
  | dotted {n : Nat} : n < 2 ^ 32 →
    PartsSpelling [v4Text n] [.group (n / 65536), .group (n % 65536)]
  | part {piece : List Char} {part : Part} {pieces : List (List Char)} {parts : List Part} :
    PartSpelling piece part → PartsSpelling pieces parts →
      PartsSpelling (piece :: pieces) (part :: parts)

theorem PartSpelling.notMem {piece : List Char} {part : Part} (spelled : PartSpelling piece part)
    {c : Char} (other : hexDigit? c = none) : c ∉ piece := by
  intro among
  cases part with
  | gap =>
    rw [PartSpelling] at spelled
    subst spelled
    cases among
  | group n =>
    obtain ⟨digits, all, -⟩ := spelled.worth
    clear spelled
    induction piece generalizing digits with
    | nil => cases among
    | cons d piece ih =>
      obtain ⟨_, rest, digit, more, -⟩ := mapM_cons_some.mp all
      rcases List.mem_cons.mp among with rfl | later
      · cases other.symm.trans digit
      · exact ih later rest more

theorem parts_iff {pieces : List (List Char)} {parts : List Part} :
    parts? pieces = some parts ↔ PartsSpelling pieces parts := by
  constructor
  · intro read
    induction pieces generalizing parts with
    | nil =>
      cases read
      exact .nil
    | cons piece pieces ih =>
      cases pieces with
      | nil =>
        simp only [parts?] at read
        split at read
        · obtain ⟨n, tail, rfl⟩ := Option.map_eq_some_iff.mp read
          obtain ⟨small, rfl⟩ := v4_iff.mp tail
          exact .dotted small
        · obtain ⟨last, one, rfl⟩ := Option.map_eq_some_iff.mp read
          exact .part (part_iff.mp one) .nil
      | cons next pieces =>
        simp only [parts?] at read
        obtain ⟨first, one, more⟩ := Option.bind_eq_some_iff.mp read
        obtain ⟨rest, others, made⟩ := Option.bind_eq_some_iff.mp more
        cases made
        exact .part (part_iff.mp one) (ih others)
  · intro spelled
    induction spelled with
    | nil => rfl
    | @dotted n small =>
      have point : (v4Text n).contains '.' = true := List.contains_iff_mem.mpr (point_mem_v4Text n)
      simp only [parts?, point, if_true, v4_v4Text small, Option.map_some]
    | @part piece part pieces parts first _ ih =>
      have one := part_iff.mpr first
      cases pieces with
      | nil =>
        have whole : piece.contains '.' = false := by simpa using first.notMem (c := '.') rfl
        cases ih
        simp only [parts?, whole, Bool.false_eq_true, if_false, one, Option.map_some]
      | cons next pieces =>
        simp only [parts?, one, ih]
        rfl

theorem groups_iff {parts : List Part} {groups : List Nat} :
    groups? parts = some groups ↔ parts = groups.map .group := by
  refine ⟨fun read => ?_, fun same => same ▸ groups_of_groups groups⟩
  induction parts generalizing groups with
  | nil =>
    cases read
    rfl
  | cons part parts ih =>
    obtain ⟨n, rest, one, more, rfl⟩ := mapM_cons_some.mp read
    cases part with
    | gap => cases one
    | group m =>
      cases one
      rw [ih more, List.map_cons]

theorem side_eq {parts : List Part} {groups : List Nat} (some : parts ≠ [])
    (read : side? parts = .some groups) : parts = side groups := by
  unfold side? at read
  split at read
  · next gap =>
    cases read
    exact gap
  · have same := groups_iff.mp read
    rw [side, if_neg (fun none => some (by rw [same, none]; rfl)), same]

/-- All groups are there, or a double colon stands between those that are. -/
theorem allGroups_cases {parts : List Part} {groups : List Nat}
    (read : allGroups? parts = some groups) :
    (parts = groups.map .group ∧ groups.length = 8) ∨
    ∃ high low, parts = side high ++ .gap :: side low ∧ high.length + low.length < 8 ∧
      groups = high ++ List.replicate (8 - (high.length + low.length)) 0 ++ low := by
  unfold allGroups? at read
  split at read
  · cases read
  · next first rest =>
    split at read
    · obtain ⟨whole, eight⟩ := Option.filter_eq_some_iff.mp read
      exact .inl ⟨groups_iff.mp whole, by simpa using eight⟩
    · next middle after cut =>
      have isGap : middle = .gap := by
        have head := List.head?_dropWhile_not Part.isGroup rest
        rw [cut] at head
        cases middle with
        | gap => rfl
        | group n => cases head
      split at read
      · cases read
      · next some =>
        rw [List.isEmpty_iff] at some
        obtain ⟨high, one, more⟩ := Option.bind_eq_some_iff.mp read
        obtain ⟨low, other, made⟩ := Option.bind_eq_some_iff.mp more
        split at made
        · next short =>
          cases made
          refine .inr ⟨high, low, ?_, short, rfl⟩
          rw [← side_eq (List.cons_ne_nil _ _) one, ← side_eq some other, ← isGap, ← cut,
            List.cons_append, List.takeWhile_append_dropWhile]
        · cases made

theorem PartsSpelling.tail {pieces : List (List Char)} {groups : List Nat}
    (spelled : PartsSpelling pieces (groups.map .group)) : TailSpelling pieces groups := by
  generalize same : groups.map Part.group = parts at spelled
  induction spelled generalizing groups with
  | nil =>
    rw [List.map_eq_nil_iff.mp same]
    exact .nil
  | @dotted n small =>
    have two : groups = [n / 65536, n % 65536] :=
      List.map_injective_iff.mpr (fun _ _ => Part.group.inj) same
    rw [two]
    exact .dotted small
  | part first _ ih =>
    obtain ⟨n, _, rfl, rfl, more⟩ := List.map_eq_cons_iff.mp same
    exact .group first (ih more)

theorem TailSpelling.parts {pieces : List (List Char)} {groups : List Nat}
    (spelled : TailSpelling pieces groups) : PartsSpelling pieces (groups.map .group) := by
  induction spelled with
  | nil => exact .nil
  | dotted small => exact .dotted small
  | group first _ ih => exact .part first ih

/-- What stands before a gap has no tail of version 4. -/
theorem partsSpelling_append {pieces : List (List Char)} {before after : List Part} :
    PartsSpelling pieces (before ++ .gap :: after) ↔
      ∃ front back, pieces = front ++ [] :: back ∧ List.Forall₂ PartSpelling front before ∧
        PartsSpelling back after := by
  constructor
  · intro spelled
    induction before generalizing pieces with
    | nil =>
      cases spelled with
      | part first rest => exact ⟨[], _, by rw [first]; rfl, .nil, rest⟩
    | cons part before ih =>
      generalize same : part :: before ++ Part.gap :: after = parts at spelled
      cases spelled with
      | nil => cases same
      | dotted =>
        -- Two groups are too few for a part, a gap and what else there is to be one of them.
        cases before with
        | nil => cases same
        | cons _ _ => simp at same
      | part first rest =>
        cases same
        obtain ⟨front, back, rfl, spelled, others⟩ := ih rest
        exact ⟨_ :: front, back, rfl, .cons first spelled, others⟩
  · rintro ⟨front, back, rfl, spelled, others⟩
    induction spelled with
    | nil => exact .part rfl others
    | cons first _ ih => exact .part first ih

theorem joinWith_gap {front back : List (List Char)} (some : front ≠ []) (more : back ≠ []) :
    joinWith [':'] (front ++ [] :: back) =
      joinWith [':'] front ++ "::".toList ++ joinWith [':'] back := by
  rw [joinWith_append some (List.cons_ne_nil _ _), joinWith_cons more]
  simp

/-- The pieces of one side of a double colon, of which one is empty when the side is. -/
def sidePieces (pieces : List (List Char)) : List (List Char) :=
  if pieces = [] then [[]] else pieces

theorem sidePieces_ne_nil (pieces : List (List Char)) : sidePieces pieces ≠ [] := by
  unfold sidePieces
  split
  · exact List.cons_ne_nil _ _
  · assumption

theorem joinWith_sidePieces (pieces : List (List Char)) :
    joinWith [':'] (sidePieces pieces) = joinWith [':'] pieces := by
  unfold sidePieces
  split
  · next none => rw [none]; rfl
  · rfl

/-- The parts of a side are spelled as its groups are, or by an empty piece if it has none. -/
theorem side_iff {parted : List (List Char) → List Part → Prop}
    {grouped : List (List Char) → List Nat → Prop} {pieces : List (List Char)} {groups : List Nat}
    (same : ∀ pieces groups, parted pieces (groups.map .group) ↔ grouped pieces groups)
    (gap : ∀ pieces, parted pieces [.gap] ↔ pieces = [[]]) (start : grouped [] [])
    (empty : ∀ pieces groups, grouped pieces groups → (pieces = [] ↔ groups = [])) :
    parted pieces (side groups) ↔ ∃ given, pieces = sidePieces given ∧ grouped given groups := by
  by_cases none : groups = []
  · subst none
    rw [side, if_pos rfl, gap]
    constructor
    · exact fun one => ⟨[], one, start⟩
    · rintro ⟨given, rfl, spelled⟩
      rw [(empty _ _ spelled).mpr rfl]
      rfl
  · rw [side, if_neg none, same]
    constructor
    · intro spelled
      have some : pieces ≠ [] := fun missing => none ((empty _ _ spelled).mp missing)
      exact ⟨pieces, (if_neg some).symm, spelled⟩
    · rintro ⟨given, rfl, spelled⟩
      have some : given ≠ [] := fun missing => none ((empty _ _ spelled).mp missing)
      rwa [sidePieces, if_neg some]

theorem front_side {pieces : List (List Char)} {high : List Nat} :
    List.Forall₂ PartSpelling pieces (side high) ↔
      ∃ front, pieces = sidePieces front ∧ List.Forall₂ GroupSpelling front high := by
  refine side_iff (fun pieces groups => ?_) (fun pieces => ?_) .nil
    (fun pieces groups spelled => ?_)
  · rw [List.forall₂_map_right_iff]
    rfl
  · rw [List.forall₂_cons_right_iff]
    simp [PartSpelling]
  · rw [← List.length_eq_zero_iff, spelled.length_eq, List.length_eq_zero_iff]

theorem back_side {pieces : List (List Char)} {low : List Nat} :
    PartsSpelling pieces (side low) ↔
      ∃ back, pieces = sidePieces back ∧ TailSpelling back low := by
  refine side_iff (fun pieces groups => ⟨PartsSpelling.tail, TailSpelling.parts⟩)
    (fun pieces => ?_) .nil (fun pieces groups spelled => ?_)
  · constructor
    · intro spelled
      cases spelled with
      | part first rest =>
        cases rest
        rw [first]
    · rintro rfl
      exact .part rfl .nil
  · cases spelled <;> simp

theorem isAsciiDigit_of_notHex {c : Char} (other : hexDigit? c = none) :
    isAsciiDigit c = false := by
  unfold hexDigit? at other
  dsimp only at other
  split at other
  · cases other
  · next plain => exact Bool.eq_false_iff.mpr plain

theorem PartsSpelling.notMem {pieces : List (List Char)} {parts : List Part}
    (spelled : PartsSpelling pieces parts) {c : Char} (other : hexDigit? c = none)
    (point : c ≠ '.') : ∀ piece ∈ pieces, c ∉ piece := by
  induction spelled with
  | nil => exact fun _ among => nomatch among
  | dotted _ =>
    intro piece among
    rw [List.mem_singleton.mp among]
    exact notMem_v4Text _ point (isAsciiDigit_of_notHex other)
  | part first _ ih => exact List.forall_mem_cons.mpr ⟨first.notMem other, ih⟩

/-- What is read as an address of version 6 is what is spelled as one. -/
theorem v6_iff {s : List Char} {n : Nat} : v6? s = some n ↔ V6Spelling s n := by
  constructor
  · intro read
    obtain ⟨parts, cut, more⟩ := Option.bind_eq_some_iff.mp read
    obtain ⟨groups, all, made⟩ := Option.bind_eq_some_iff.mp more
    cases made
    have spelled := parts_iff.mp cut
    rw [← joinWith_splitAtChar ':' s]
    rcases allGroups_cases all with ⟨rfl, eight⟩ | ⟨high, low, rfl, short, rfl⟩
    · exact .whole spelled.tail eight
    · obtain ⟨_, _, same, before, after⟩ := partsSpelling_append.mp spelled
      obtain ⟨front, rfl, frontSpelled⟩ := front_side.mp before
      obtain ⟨back, rfl, backSpelled⟩ := back_side.mp after
      rw [same, joinWith_gap (sidePieces_ne_nil _) (sidePieces_ne_nil _), joinWith_sidePieces,
        joinWith_sidePieces]
      exact .shortened frontSpelled backSpelled short
  · have read {pieces : List (List Char)} {parts : List Part} {groups : List Nat}
        (some : pieces ≠ []) (spelled : PartsSpelling pieces parts)
        (all : allGroups? parts = .some groups) :
        v6? (joinWith [':'] pieces) = .some (ofDigits 65536 groups) := by
      have cut := splitAtChar_joinWith some (spelled.notMem (c := ':') rfl (by decide))
      simp only [v6?, cut, parts_iff.mpr spelled, bind, Option.bind, all]
    intro spelled
    cases spelled with
    | @whole pieces groups spelled eight =>
      refine read (fun none => ?_) spelled.parts (allGroups_whole eight)
      subst none
      cases spelled
      cases eight
    | @shortened front back _ _ before after short =>
      rw [← joinWith_sidePieces front, ← joinWith_sidePieces back,
        ← joinWith_gap (sidePieces_ne_nil _) (sidePieces_ne_nil _)]
      exact read (by simp) (partsSpelling_append.mpr
        ⟨_, _, rfl, front_side.mpr ⟨_, rfl, before⟩, back_side.mpr ⟨_, rfl, after⟩⟩)
        (allGroups_around short)

theorem V6Spelling.notMem {s : List Char} {n : Nat} (spelled : V6Spelling s n) {c : Char}
    (other : hexDigit? c = none) (point : c ≠ '.') (colon : c ≠ ':') : c ∉ s := by
  obtain ⟨parts, cut, -⟩ := Option.bind_eq_some_iff.mp (v6_iff.mpr spelled)
  rw [← joinWith_splitAtChar ':' s]
  intro among
  rcases mem_joinWith among with between | ⟨piece, within, inside⟩
  · exact colon (List.mem_singleton.mp between)
  · exact (parts_iff.mp cut).notMem other point piece within inside

theorem V6Spelling.colon {s : List Char} {n : Nat} (spelled : V6Spelling s n) : ':' ∈ s := by
  refine Classical.byContradiction (fun none => ?_)
  obtain ⟨parts, cut, more⟩ := Option.bind_eq_some_iff.mp (v6_iff.mpr spelled)
  obtain ⟨groups, all, -⟩ := Option.bind_eq_some_iff.mp more
  rw [splitAtChar_of_none none] at cut
  -- One piece makes one part, or two groups, which is too few for an address either way.
  cases parts_iff.mp cut with
  | dotted => cases all
  | @part _ part _ _ first rest =>
    cases rest
    cases part <;> cases all

end ClusterManifest.Network.Address
