import ClusterManifest.Proofs.Yaml.Key
import ClusterManifest.Proofs.Yaml.Numeral
import ClusterManifest.Yaml.Source

/-! A printed document is of printable ASCII and line feeds, so it is encoded and decoded
without loss. -/

namespace ClusterManifest.Yaml

open Printer

/-- A text of printable ASCII and line feeds. -/
def Ordinary (w : List Char) : Prop := ∀ x ∈ w, x = '\n' ∨ isPrintable x = true

theorem Ordinary.append {v w : List Char} (first : Ordinary v) (second : Ordinary w) :
    Ordinary (v ++ w) :=
  List.forall_mem_append.mpr ⟨first, second⟩

theorem Ordinary.cons {x : Char} {w : List Char} (printable : isPrintable x = true)
    (more : Ordinary w) : Ordinary (x :: w) :=
  List.forall_mem_cons.mpr ⟨.inr printable, more⟩

theorem ordinary_nil : Ordinary [] := fun _ within => by cases within

theorem ordinary_of_printable {w : List Char} (printable : ∀ x ∈ w, isPrintable x = true) :
    Ordinary w := fun x within => .inr (printable x within)

theorem ordinary_spaces (n : Nat) : Ordinary (List.replicate n ' ') :=
  List.forall_mem_replicate.mpr (.inr (.inr rfl))

theorem ordinary_newLine (indent : Nat) : Ordinary (Style.newLine indent) :=
  List.forall_mem_cons.mpr ⟨.inl rfl, ordinary_spaces indent⟩

namespace Style

theorem plainFrom_ordinary (split : Bool) (indent column : Nat) (afterSpace : Bool)
    {s : List Char} (printable : ∀ x ∈ s, isPrintable x = true) :
    Ordinary (plainFrom split indent column afterSpace s) := by
  induction s generalizing column afterSpace with
  | nil => exact ordinary_nil
  | cons c s ih =>
    have more := fun column afterSpace =>
      ih column afterSpace (fun x within => printable x (List.mem_cons_of_mem _ within))
    rw [plainFrom]
    split
    · exact (ordinary_newLine indent).append (more _ _)
    · exact (more _ _).cons (printable c (List.mem_cons_self ..))

theorem singleQuotedFrom_ordinary (split : Bool) (indent column : Nat) (before : Option Char)
    {s : List Char} (ordinary : Ordinary s) :
    Ordinary (singleQuotedFrom split indent column before s) := by
  induction s generalizing column before with
  | nil => exact ordinary_nil
  | cons c s ih =>
    have more := fun column before =>
      ih column before (fun x within => ordinary x (List.mem_cons_of_mem _ within))
    rw [singleQuotedFrom]
    split
    · exact (ordinary_newLine indent).append (more _ _)
    · split
      · exact ((more _ _).cons rfl).cons rfl
      · split
        · have breaks : Ordinary (if before == some '\n' then ['\n'] else ['\n', '\n']) := by
            split <;> simp [Ordinary]
          have spaces :
              Ordinary (if s.head? == some '\n' then [] else List.replicate indent ' ') := by
            split
            · exact ordinary_nil
            · exact ordinary_spaces indent
          exact (breaks.append spaces).append (more _ _)
        · next line =>
          have line : c ≠ '\n' := by simpa using line
          exact (more _ _).cons ((ordinary c (List.mem_cons_self ..)).resolve_left line)

theorem quotedFold_ordinary (indent : Nat) (s : List Text.CodePoint) :
    Ordinary (quotedFold indent s) := by
  have shield : Ordinary (if s.head? == some space then ['\\'] else []) := by
    split
    · exact ordinary_nil.cons rfl
    · exact ordinary_nil
  exact ((ordinary_newLine indent).cons rfl).append shield

theorem doubleQuotedFrom_ordinary (split : Bool) (indent column : Nat) (first afterEscape : Bool)
    (s : List Text.CodePoint) :
    Ordinary (doubleQuotedFrom split indent column first afterEscape s) := by
  induction s generalizing column first afterEscape with
  | nil => exact ordinary_nil
  | cons x s ih =>
    have escaped := ordinary_of_printable (escape_printable x)
    rw [doubleQuotedFrom]
    dsimp only
    split
    · next unescaped =>
      have printable := (isUnescaped_char unescaped).2.1
      split
      · exact (quotedFold_ordinary _ _).append ((ih _ _ _).cons printable)
      · exact (ih _ _ _).cons printable
    · split
      · exact (escaped.append (quotedFold_ordinary _ _)).append (ih _ _ _)
      · exact escaped.append (ih _ _ _)

theorem inDoubleQuotes_ordinary (split : Bool) (indent column : Nat)
    (codes : List Text.CodePoint) : Ordinary (inDoubleQuotes split indent column codes) := by
  have last : Ordinary ['"'] := ordinary_nil.cons rfl
  exact ((doubleQuotedFrom_ordinary _ _ _ _ _ _).cons rfl).append last

theorem write_ordinary (split : Bool) (indent column : Nat) (s : List Char) :
    Ordinary (write split indent column s) := by
  have last : Ordinary ['\''] := ordinary_nil.cons rfl
  unfold write
  split
  · next style =>
    exact plainFrom_ordinary _ _ _ _ (fitsPlain_printable ((ofText_fits s).1 style).1)
  · next style =>
    have fits := fitsSingleQuotes_ordinary ((ofText_fits s).2 style)
    exact ((singleQuotedFrom_ordinary _ _ _ _ fits).cons rfl).append last
  · exact inDoubleQuotes_ordinary _ _ _ _

theorem writePhrase_ordinary (split : Bool) (indent column : Nat) (phrase : Phrase) :
    Ordinary (writePhrase split indent column phrase) := by
  cases phrase with
  | text value => exact write_ordinary split indent column value.toList
  | illFormed value => exact inDoubleQuotes_ordinary split indent column value.codes

end Style

mutual

theorem value_ordinary (d : Document) {indent column : Nat} {lead : Lead} {w : List Char}
    (written : value indent column lead d = .ok w) : Ordinary w := by
  match d with
  | .null =>
    simp only [value, Except.ok.injEq] at written
    rw [← written]
    exact ordinary_of_printable (List.all_eq_true.mp rfl)
  | .number n =>
    simp only [value, bind_ok] at written
    obtain ⟨digits, numeral, same⟩ := written
    cases Except.ok.inj same
    obtain ⟨rfl, _⟩ := Text.Numeral.write_ok numeral
    have run := isRun_decimalInt n
    exact (ordinary_of_printable (fun x within => (run.printable x within).1)).cons rfl
  | .text phrase =>
    simp only [value, Except.ok.injEq] at written
    rw [← written]
    exact (Style.writePhrase_ordinary _ _ _ _).cons rfl
  | .list [] | .block [] =>
    simp only [value, Except.ok.injEq] at written
    rw [← written]
    exact ordinary_of_printable (List.all_eq_true.mp rfl)
  | .list (item :: items) =>
    cases lead with
    | key =>
      rw [value_hanging] at written
      exact items_ordinary (item :: items) written
    | sign =>
      obtain ⟨v, items_written, rfl⟩ := value_list written
      have ordinary := items_ordinary (item :: items) items_written
      exact Ordinary.cons rfl (fun x within => ordinary x (List.mem_append_right _ within))
  | .block (entry :: fields) =>
    obtain ⟨v, fields_written, rfl⟩ := value_block written
    have ordinary := fields_ordinary (entry :: fields) fields_written
    have inner : Ordinary v := fun x within => ordinary x (List.mem_append_right _ within)
    cases lead with
    | key => exact (ordinary_newLine _).append inner
    | sign => exact inner.cons rfl

theorem items_ordinary (items : List Document) {indent : Nat} {w : List Char}
    (written : moreItems indent items = .ok w) : Ordinary w := by
  match items with
  | [] =>
    simp only [moreItems, Except.ok.injEq] at written
    rw [← written]
    exact ordinary_nil
  | item :: items =>
    obtain ⟨first, more, item_written, items_written, rfl⟩ := moreItems_cons written
    exact ((ordinary_newLine indent).append ((value_ordinary item item_written).cons rfl)).append
      (items_ordinary items items_written)

theorem fields_ordinary (fields : List (String × Document)) {indent : Nat} {w : List Char}
    (written : moreFields indent fields = .ok w) : Ordinary w := by
  match fields with
  | [] =>
    simp only [moreFields, Except.ok.injEq] at written
    rw [← written]
    exact ordinary_nil
  | (name, content) :: fields =>
    obtain ⟨first, more, field_written, fields_written, rfl⟩ := moreFields_cons written
    have ordinary : Ordinary first := by
      cases simple : Style.isSimpleKey name.toList with
      | true =>
        obtain ⟨column, v, content_written, rfl⟩ := field_simple simple field_written
        exact (Style.write_ordinary _ _ _ _).append
          ((value_ordinary content content_written).cons rfl)
      | false =>
        obtain ⟨v, content_written, rfl⟩ := field_marked simple field_written
        have key : Ordinary ('?' :: ' ' :: Style.write true (indent + 2) (indent + 2)
            name.toList) := ((Style.write_ordinary _ _ _ _).cons rfl).cons rfl
        exact (key.append (ordinary_newLine indent)).append
          ((value_ordinary content content_written).cons rfl)
    exact ((ordinary_newLine indent).append ordinary).append
      (fields_ordinary fields fields_written)

end

theorem document_ordinary {entry : String × Document} {fields : List (String × Document)}
    {w : List Char} (written : document (entry :: fields) = .ok w) : Ordinary w := by
  obtain ⟨v, fields_written, rfl⟩ := document_block written
  have ordinary := fields_ordinary (entry :: fields) fields_written
  refine Ordinary.append (fun x within => ordinary x (List.mem_append_right _ within)) ?_
  simp [Ordinary]

theorem ordinary_toNat {x : Char} (ordinary : x = '\n' ∨ isPrintable x = true) :
    x.toNat = 10 ∨ (32 ≤ x.toNat ∧ x.toNat ≤ 126) := by
  rcases ordinary with rfl | printable
  · exact .inl rfl
  · exact .inr (isPrintable_iff.mp printable)

theorem encode_ordinary {w : List Char} (ordinary : Ordinary w) :
    Text.Utf8.encode w = w.map (fun x => x.toNat.toUInt8) := by
  induction w with
  | nil => rfl
  | cons x w ih =>
    have first := ordinary_toNat (ordinary x (List.mem_cons_self ..))
    have more := ih (fun y within => ordinary y (List.mem_cons_of_mem _ within))
    rw [Text.Utf8.encode, List.flatMap_cons]
    change Text.Utf8.encodeChar x ++ Text.Utf8.encode w = _
    rw [more, Text.Utf8.encodeChar]
    have small : x.toNat < 0x80 := by omega
    simp [small]

theorem decode_ordinary {w : List Char} (ordinary : Ordinary w) (position : Nat) :
    Text.Utf8.decodeFrom position (w.map (fun x => x.toNat.toUInt8)) = .ok w := by
  induction w generalizing position with
  | nil => rfl
  | cons x w ih =>
    have first := ordinary_toNat (ordinary x (List.mem_cons_self ..))
    have more := ih (fun y within => ordinary y (List.mem_cons_of_mem _ within)) (position + 1)
    have value : x.toNat.toUInt8.toNat = x.toNat := by
      simp only [Nat.toUInt8, UInt8.toNat_ofNat']
      omega
    have small : x.toNat.toUInt8 < 0x80 := by
      rw [UInt8.lt_iff_toNat_lt, value]
      change x.toNat < 128
      omega
    rw [List.map_cons, Text.Utf8.decodeFrom, if_pos small, more, value, Char.ofNat_toNat]
    rfl

theorem source_ordinary {w : List Char} (ordinary : Ordinary w) :
    source (Text.Utf8.encode w) = .ok w := by
  have allowed : w.all isAllowed = true := by
    rw [List.all_eq_true]
    intro x within
    have range := ordinary_toNat (ordinary x within)
    simp only [isAllowed, Bool.or_eq_true, Bool.and_eq_true, beq_iff_eq, decide_eq_true_eq]
    omega
  have bytes : ∀ b ∈ Text.Utf8.encode w, b.toNat < 128 := by
    intro b within
    rw [encode_ordinary ordinary, List.mem_map] at within
    obtain ⟨x, within, rfl⟩ := within
    have range := ordinary_toNat (ordinary x within)
    simp only [Nat.toUInt8, UInt8.toNat_ofNat']
    omega
  have plain : decodeSource? (Text.Utf8.encode w) =
      (Text.Utf8.decode (Text.Utf8.encode w)).toOption := by
    generalize Text.Utf8.encode w = data at bytes
    unfold decodeSource?
    split
    · exact absurd (bytes 0xFF (List.mem_cons_self ..)) (by decide)
    · exact absurd (bytes 0xFE (List.mem_cons_self ..)) (by decide)
    · rfl
  have decoded : Text.Utf8.decode (Text.Utf8.encode w) = .ok w := by
    rw [encode_ordinary ordinary]
    exact decode_ordinary ordinary 0
  rw [source, plain, decoded]
  simp only [Except.toOption, allowed, if_true]

end ClusterManifest.Yaml
