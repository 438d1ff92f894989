import ClusterManifest.Proofs.Result
import ClusterManifest.Yaml.Printer
import ClusterManifest.Yaml.Token.Stream

/-! What is printed for a document, part by part, and the tokens that it is to be read as. -/

namespace ClusterManifest

namespace Document

mutual

/-- How deep a document's blocks and lists are nested. -/
def height : Document → Nat
  | .list items => 1 + heightOfItems items
  | .block fields => 1 + heightOfFields fields
  | _ => 1

def heightOfItems : List Document → Nat
  | [] => 0
  | item :: items => max (height item) (heightOfItems items)

def heightOfFields : List (String × Document) → Nat
  | [] => 0
  | (_, content) :: fields => max (height content) (heightOfFields fields)

end

theorem one_le_height (d : Document) : 1 ≤ d.height := by
  cases d <;> simp [height]

end Document

namespace Yaml

/-- A name that stands before its colon without a mark is no longer, as it is written, than a
key may be. -/
def KeyFits (name : List Char) : Prop :=
  Style.isSimpleKey name = true → (Style.write false 0 0 name).length ≤ Lexing.keyLimit

instance (name : List Char) : Decidable (KeyFits name) :=
  inferInstanceAs (Decidable (_ → _))

mutual

/-- All names in a document fit. -/
def KeysFit : Document → Prop
  | .list items => KeysFitItems items
  | .block fields => KeysFitFields fields
  | _ => True

def KeysFitItems : List Document → Prop
  | [] => True
  | item :: items => KeysFit item ∧ KeysFitItems items

def KeysFitFields : List (String × Document) → Prop
  | [] => True
  | (name, content) :: fields =>
    KeyFits name.toList ∧ KeysFit content ∧ KeysFitFields fields

end

namespace Printer

/-- What a field's content stands after. -/
def leadOf (name : String) : Lead := if Style.isSimpleKey name.toList then .key else .sign

def scalarToken (s : List Char) : Token :=
  .scalar (.text s) (Style.ofText s == .plain)

def standsPlain : Phrase → Bool
  | .text value => Style.ofText value.toList == .plain
  | .illFormed _ => false

def phraseToken (phrase : Phrase) : Token := .scalar (.ofPhrase phrase) (standsPlain phrase)

mutual

/-- The tokens of a value after its lead. -/
def valueTokens (lead : Lead) : Document → List Token
  | .null => [.scalar (.text "null".toList) true]
  | .number n => [.scalar (.text (Text.decimalInt n)) true]
  | .text phrase => [phraseToken phrase]
  | .list [] => [.flowSequenceStart, .flowSequenceEnd]
  | .block [] => [.flowMappingStart, .flowMappingEnd]
  | .list items =>
    match lead with
    | .key => itemTokens items
    | .sign => .blockSequenceStart :: itemTokens items ++ [.blockEnd]
  | .block fields => .blockMappingStart :: fieldTokens fields ++ [.blockEnd]

def itemTokens : List Document → List Token
  | [] => []
  | item :: items => .blockEntry :: valueTokens .sign item ++ itemTokens items

def fieldTokens : List (String × Document) → List Token
  | [] => []
  | (name, content) :: fields =>
    .key :: scalarToken name.toList :: .value :: valueTokens (leadOf name) content ++
      fieldTokens fields

end

theorem value_hanging (indent column : Nat) (item : Document) (items : List Document) :
    value indent column .key (.list (item :: items)) = moreItems indent (item :: items) := by
  simp only [value, moreItems]

theorem value_list {indent column : Nat} {item : Document} {items : List Document}
    {w : List Char} (written : value indent column .sign (.list (item :: items)) = .ok w) :
    ∃ v, moreItems (indent + 2) (item :: items) = .ok (Style.newLine (indent + 2) ++ v) ∧
      w = ' ' :: v := by
  simp only [value, bind_ok] at written
  obtain ⟨first, item, more, items, same⟩ := written
  refine ⟨'-' :: first ++ more, ?_, (Except.ok.inj same).symm⟩
  simp [moreItems, item, items, bind, Except.bind]

def beforeBlock (lead : Lead) (indent : Nat) : List Char :=
  match lead with
  | .key => Style.newLine indent
  | .sign => [' ']

theorem value_block {indent column : Nat} {lead : Lead} {entry : String × Document}
    {fields : List (String × Document)} {w : List Char}
    (written : value indent column lead (.block (entry :: fields)) = .ok w) :
    ∃ v, moreFields (indent + 2) (entry :: fields) = .ok (Style.newLine (indent + 2) ++ v) ∧
      w = beforeBlock lead (indent + 2) ++ v := by
  simp only [value, bind_ok] at written
  obtain ⟨first, entry, more, fields, same⟩ := written
  refine ⟨first ++ more, ?_, ?_⟩
  · simp [moreFields, entry, fields, bind, Except.bind]
  · cases lead with
    | key => simpa [beforeBlock] using (Except.ok.inj same).symm
    | sign => simpa [beforeBlock] using (Except.ok.inj same).symm

theorem document_block {entry : String × Document} {fields : List (String × Document)}
    {w : List Char} (written : document (entry :: fields) = .ok w) :
    ∃ v, moreFields 0 (entry :: fields) = .ok (Style.newLine 0 ++ v) ∧ w = v ++ ['\n'] := by
  simp only [document, bind_ok] at written
  obtain ⟨first, entry, more, fields, same⟩ := written
  refine ⟨first ++ more, ?_, by simpa using (Except.ok.inj same).symm⟩
  simp [moreFields, entry, fields, bind, Except.bind]

theorem moreItems_cons {indent : Nat} {item : Document} {items : List Document} {w : List Char}
    (written : moreItems indent (item :: items) = .ok w) :
    ∃ first more, value indent (indent + 1) .sign item = .ok first ∧
      moreItems indent items = .ok more ∧
      w = Style.newLine indent ++ '-' :: first ++ more := by
  simp only [moreItems, bind_ok] at written
  obtain ⟨first, item, more, items, same⟩ := written
  exact ⟨first, more, item, items, (Except.ok.inj same).symm⟩

theorem moreFields_cons {indent : Nat} {entry : String × Document}
    {fields : List (String × Document)} {w : List Char}
    (written : moreFields indent (entry :: fields) = .ok w) :
    ∃ first more, field indent entry = .ok first ∧ moreFields indent fields = .ok more ∧
      w = Style.newLine indent ++ first ++ more := by
  simp only [moreFields, bind_ok] at written
  obtain ⟨first, entry, more, fields, same⟩ := written
  exact ⟨first, more, entry, fields, (Except.ok.inj same).symm⟩

theorem field_simple {indent : Nat} {name : String} {content : Document} {w : List Char}
    (simple : Style.isSimpleKey name.toList = true)
    (written : field indent (name, content) = .ok w) :
    ∃ column v, value indent column .key content = .ok v ∧
      w = Style.write false (indent + 2) indent name.toList ++ ':' :: v := by
  simp only [field, simple, if_true, bind_ok] at written
  obtain ⟨v, content, same⟩ := written
  exact ⟨_, v, content, (Except.ok.inj same).symm⟩

theorem field_marked {indent : Nat} {name : String} {content : Document} {w : List Char}
    (marked : Style.isSimpleKey name.toList = false)
    (written : field indent (name, content) = .ok w) :
    ∃ v, value indent (indent + 1) .sign content = .ok v ∧
      w = '?' :: ' ' :: Style.write true (indent + 2) (indent + 2) name.toList ++
        Style.newLine indent ++ ':' :: v := by
  simp only [field, marked, Bool.false_eq_true, if_false, bind_ok] at written
  obtain ⟨v, content, same⟩ := written
  exact ⟨v, content, (Except.ok.inj same).symm⟩

theorem value_head {indent column : Nat} {lead : Lead} {d : Document} {w : List Char}
    (written : value indent column lead d = .ok w) :
    ∃ x v, w = x :: v ∧ isBlankOrEnd x = true := by
  match d with
  | .null | .text _ | .list [] | .block [] =>
    simp only [value, Except.ok.injEq] at written
    exact ⟨' ', _, written.symm, rfl⟩
  | .number n =>
    simp only [value, bind_ok] at written
    obtain ⟨digits, _, same⟩ := written
    exact ⟨' ', _, (Except.ok.inj same).symm, rfl⟩
  | .list (item :: items) =>
    cases lead with
    | key =>
      rw [value_hanging] at written
      obtain ⟨first, more, _, _, rfl⟩ := moreItems_cons written
      exact ⟨'\n', _, rfl, rfl⟩
    | sign =>
      obtain ⟨v, _, rfl⟩ := value_list written
      exact ⟨' ', _, rfl, rfl⟩
  | .block (entry :: fields) =>
    obtain ⟨v, _, rfl⟩ := value_block written
    cases lead with
    | key => exact ⟨'\n', _, rfl, rfl⟩
    | sign => exact ⟨' ', _, rfl, rfl⟩

end Printer

end Yaml

end ClusterManifest
