import ClusterManifest.Proofs.Yaml.Numeral
import ClusterManifest.Proofs.Yaml.Printed
import ClusterManifest.Yaml.Node.Document

/-! The tokens of a printed document are parsed to its node: no anchors, no tags, and every
scalar with the tag of what it was printed for. -/

namespace ClusterManifest.Yaml

open Printer

mutual

/-- The node that a document is read as. -/
def nodeOf : Document → Node
  | .null => .scalar none .null (.text "null".toList)
  | .number n => .scalar none .int (.text (Text.decimalInt n))
  | .text phrase => .scalar none .text (.ofPhrase phrase)
  | .list items => .sequence none .sequence (nodesOf items)
  | .block fields => .mapping none .mapping (entriesOf fields)

def nodesOf : List Document → List Node
  | [] => []
  | item :: items => nodeOf item :: nodesOf items

def entriesOf : List (String × Document) → List (Node × Node)
  | [] => []
  | (name, content) :: fields =>
    (.scalar none .text (.text name.toList), nodeOf content) :: entriesOf fields

end

/-- A text is read as a text, as it only stands plain where it looks like nothing else. -/
theorem tag_of_text (s : List Char) :
    Tag.ofScalar none (Style.ofText s == .plain) (.text s) = .text := by
  unfold Tag.ofScalar
  dsimp only
  split
  · next plain =>
    have style := eq_of_beq plain
    unfold Style.ofText at style
    split at style
    · next fits =>
      simp only [Bool.and_eq_true, beq_iff_eq] at fits
      exact fits.1
    · split at style <;> cases style
  · rfl

theorem tag_of_phrase (phrase : Phrase) :
    Tag.ofScalar none (standsPlain phrase) (.ofPhrase phrase) = .text := by
  cases phrase with
  | text value => exact tag_of_text value.toList
  | illFormed value => rfl

namespace Parsing

def isStart : Token → Bool
  | .scalar _ _ | .flowSequenceStart | .flowMappingStart | .blockSequenceStart
  | .blockMappingStart => true
  | _ => false

theorem node_scalar {fuel : Nat} {place : Parsing.Place} {content : Content} {plain : Bool}
    {rest : List Token} {handles : List (List Char × List Char)} {anchors : List (List Char)} :
    node (fuel + 1) place ⟨.scalar content plain :: rest, handles, anchors⟩ =
      .ok (.scalar none (.ofScalar none plain content) content, ⟨rest, handles, anchors⟩) := by
  cases place <;> rfl

theorem node_flow {fuel : Nat} {place : Parsing.Place} {rest : List Token}
    {handles : List (List Char × List Char)} {anchors : List (List Char)} :
    node (fuel + 2) place ⟨.flowSequenceStart :: .flowSequenceEnd :: rest, handles, anchors⟩ =
        .ok (.sequence none .sequence [], ⟨rest, handles, anchors⟩) ∧
      node (fuel + 2) place ⟨.flowMappingStart :: .flowMappingEnd :: rest, handles, anchors⟩ =
        .ok (.mapping none .mapping [], ⟨rest, handles, anchors⟩) := by
  constructor <;> cases place <;> rfl

theorem node_sequence {fuel : Nat} {place : Parsing.Place} {ts rest : List Token}
    {items : List Node} {handles : List (List Char × List Char)} {anchors : List (List Char)}
    (block : place ≠ .flow)
    (read : blockItems fuel ⟨ts, handles, anchors⟩ = .ok (items, ⟨rest, handles, anchors⟩)) :
    node (fuel + 1) place ⟨.blockSequenceStart :: ts, handles, anchors⟩ =
      .ok (.sequence none .sequence items, ⟨rest, handles, anchors⟩) := by
  have unfolded : node (fuel + 1) place ⟨.blockSequenceStart :: ts, handles, anchors⟩ =
      (blockItems fuel ⟨ts, handles, anchors⟩).bind
        (fun found => .ok (.sequence none .sequence found.1, found.2)) := by
    cases place with
    | flow => exact absurd rfl block
    | block => rfl
    | afterKey => rfl
  rw [unfolded, read]
  rfl

theorem node_mapping {fuel : Nat} {place : Parsing.Place} {ts rest : List Token}
    {entries : List (Node × Node)} {handles : List (List Char × List Char)}
    {anchors : List (List Char)} (block : place ≠ .flow)
    (read : blockEntries fuel ⟨ts, handles, anchors⟩ = .ok (entries, ⟨rest, handles, anchors⟩)) :
    node (fuel + 1) place ⟨.blockMappingStart :: ts, handles, anchors⟩ =
      .ok (.mapping none .mapping entries, ⟨rest, handles, anchors⟩) := by
  have unfolded : node (fuel + 1) place ⟨.blockMappingStart :: ts, handles, anchors⟩ =
      (blockEntries fuel ⟨ts, handles, anchors⟩).bind
        (fun found => .ok (.mapping none .mapping found.1, found.2)) := by
    cases place with
    | flow => exact absurd rfl block
    | block => rfl
    | afterKey => rfl
  rw [unfolded, read]
  rfl

theorem node_hanging {fuel : Nat} {ts rest : List Token} {items : List Node}
    {handles : List (List Char × List Char)} {anchors : List (List Char)}
    (read : hangingItems fuel ⟨.blockEntry :: ts, handles, anchors⟩ =
      .ok (items, ⟨rest, handles, anchors⟩)) :
    node (fuel + 1) .afterKey ⟨.blockEntry :: ts, handles, anchors⟩ =
      .ok (.sequence none .sequence items, ⟨rest, handles, anchors⟩) := by
  have unfolded : node (fuel + 1) .afterKey ⟨.blockEntry :: ts, handles, anchors⟩ =
      (hangingItems fuel ⟨.blockEntry :: ts, handles, anchors⟩).bind
        (fun found => .ok (.sequence none .sequence found.1, found.2)) := rfl
  rw [unfolded, read]
  rfl

theorem nodeUnless_start {fuel : Nat} {place : Parsing.Place} {stops : List Token} {token : Token}
    {rest : List Token} {handles : List (List Char × List Char)} {anchors : List (List Char)}
    (other : stops.contains token = false) (sound : ∀ fault, token ≠ .broken fault) :
    nodeUnless (fuel + 1) place stops ⟨token :: rest, handles, anchors⟩ =
      node fuel place ⟨token :: rest, handles, anchors⟩ := by
  have ahead : ahead ⟨token :: rest, handles, anchors⟩ stops = .ok false := by
    rw [← other]
    cases token with
    | broken fault => exact absurd rfl (sound fault)
    | _ => rfl
  simp [nodeUnless, ahead, bind, Except.bind]

/-- The first token of a value: only below a key it is the hyphen of an item. -/
theorem valueTokens_head (lead : Lead) (d : Document) :
    ∃ token ts, valueTokens lead d = token :: ts ∧
      (isStart token = true ∨ (lead = .key ∧ token = .blockEntry)) := by
  cases d with
  | null => exact ⟨_, _, rfl, .inl rfl⟩
  | number n => exact ⟨_, _, rfl, .inl rfl⟩
  | text s => exact ⟨_, _, rfl, .inl rfl⟩
  | list items =>
    cases items with
    | nil => exact ⟨_, _, rfl, .inl rfl⟩
    | cons item items =>
      cases lead with
      | key => exact ⟨_, _, rfl, .inr ⟨rfl, rfl⟩⟩
      | sign => exact ⟨_, _, rfl, .inl rfl⟩
  | block fields => cases fields <;> exact ⟨_, _, rfl, .inl rfl⟩

/-- The tokens go on with what ends the items below a key. -/
def EndsItems (rest : List Token) : Prop :=
  ∃ token ts, rest = token :: ts ∧ (token = .key ∨ token = .blockEnd)

end Parsing

open Parsing

/-- The tokens of a value are parsed to its node, whatever comes after them; after items that
hang below a key no further item comes. -/
def ValueParses (d : Document) : Prop :=
  ∀ (lead : Lead) (fuel : Nat) (place : Parsing.Place) (rest : List Token)
    (handles : List (List Char × List Char)) (anchors : List (List Char)),
    4 * (valueTokens lead d).length + 2 ≤ fuel → place ≠ .flow →
    (lead = .key → place = .afterKey ∧ EndsItems rest) →
    node fuel place ⟨valueTokens lead d ++ rest, handles, anchors⟩ =
      .ok (nodeOf d, ⟨rest, handles, anchors⟩)

/-- So are the tokens of some items, in a block of their own or below a key. -/
def ItemsParse (items : List Document) : Prop :=
  ∀ (fuel : Nat) (rest : List Token) (handles : List (List Char × List Char))
    (anchors : List (List Char)),
    4 * (itemTokens items).length + 1 ≤ fuel →
    blockItems fuel ⟨itemTokens items ++ .blockEnd :: rest, handles, anchors⟩ =
        .ok (nodesOf items, ⟨rest, handles, anchors⟩) ∧
      (EndsItems rest → hangingItems fuel ⟨itemTokens items ++ rest, handles, anchors⟩ =
        .ok (nodesOf items, ⟨rest, handles, anchors⟩))

/-- So are the tokens of some fields. -/
def FieldsParse (fields : List (String × Document)) : Prop :=
  ∀ (fuel : Nat) (rest : List Token) (handles : List (List Char × List Char))
    (anchors : List (List Char)),
    4 * (fieldTokens fields).length + 1 ≤ fuel →
    blockEntries fuel ⟨fieldTokens fields ++ .blockEnd :: rest, handles, anchors⟩ =
      .ok (entriesOf fields, ⟨rest, handles, anchors⟩)

/-- Where a value is due, none of the tokens that mean an empty one stands. -/
theorem unless_value {d : Document} (parses : ValueParses d) (lead : Lead) {fuel : Nat}
    {place : Parsing.Place} {stops : List Token} (rest : List Token)
    (handles : List (List Char × List Char)) (anchors : List (List Char))
    (enough : 4 * (valueTokens lead d).length + 2 ≤ fuel)
    (block : place ≠ .flow) (hanging : lead = .key → place = .afterKey ∧ EndsItems rest)
    (clear : ∀ token, isStart token = true ∨ (lead = .key ∧ token = .blockEntry) →
      stops.contains token = false) :
    nodeUnless (fuel + 1) place stops ⟨valueTokens lead d ++ rest, handles, anchors⟩ =
      .ok (nodeOf d, ⟨rest, handles, anchors⟩) := by
  have value := parses lead fuel place rest handles anchors enough block hanging
  obtain ⟨token, ts, head, start⟩ := valueTokens_head lead d
  have sound : ∀ fault, token ≠ .broken fault := by
    rintro fault rfl
    rcases start with no | no
    · cases no
    · cases no.2
  rw [head] at value ⊢
  exact (nodeUnless_start (clear token start) sound).trans value

/-- The tokens that end an item are none that start a node. -/
theorem clear_sign {stops : List Token} (listed : stops = [.blockEntry, .blockEnd] ∨
    stops = [.blockEntry, .key, .value, .blockEnd]) (token : Token)
    (start : isStart token = true ∨ (Lead.sign = .key ∧ token = .blockEntry)) :
    stops.contains token = false := by
  rcases start with start | ⟨no, _⟩
  · rcases listed with rfl | rfl <;> cases token <;> first | rfl | cases start
  · cases no

theorem clear_field {lead : Lead} (token : Token)
    (start : isStart token = true ∨ (lead = .key ∧ token = .blockEntry)) :
    [Token.key, .value, .blockEnd].contains token = false := by
  rcases start with start | ⟨_, rfl⟩
  · cases token <;> first | rfl | cases start
  · rfl

theorem items_parse_nil : ItemsParse [] := by
  intro fuel rest handles anchors enough
  obtain ⟨fuel, rfl⟩ : ∃ f, fuel = f + 1 := ⟨fuel - 1, by omega⟩
  refine ⟨rfl, ?_⟩
  rintro ⟨token, ts, rfl, rfl | rfl⟩
  · rfl
  · rfl

theorem items_parse_cons {item : Document} {items : List Document} (first : ValueParses item)
    (more : ItemsParse items) : ItemsParse (item :: items) := by
  intro fuel rest handles anchors enough
  simp only [itemTokens, List.length_append, List.length_cons] at enough
  obtain ⟨fuel, rfl⟩ : ∃ f, fuel = f + 2 := ⟨fuel - 2, by omega⟩
  have many := more (fuel + 1) rest handles anchors (by omega)
  constructor
  · have one := unless_value first .sign (itemTokens items ++ .blockEnd :: rest) handles anchors
      (by omega : _ ≤ fuel) (by decide : Parsing.Place.block ≠ .flow) (fun h => by cases h)
      (clear_sign (.inl rfl))
    have unfolded : blockItems (fuel + 2)
        ⟨.blockEntry :: (valueTokens .sign item ++ (itemTokens items ++ .blockEnd :: rest)),
          handles, anchors⟩ =
        (nodeUnless (fuel + 1) .block [.blockEntry, .blockEnd]
          ⟨valueTokens .sign item ++ (itemTokens items ++ .blockEnd :: rest), handles,
            anchors⟩).bind (fun found => (blockItems (fuel + 1) found.2).bind
              (fun others => .ok (found.1 :: others.1, others.2))) := rfl
    simp only [itemTokens, List.cons_append, List.append_assoc, unfolded, one, Except.bind,
      many.1, nodesOf]
  · intro ends
    have one := unless_value first .sign (itemTokens items ++ rest) handles anchors
      (by omega : _ ≤ fuel) (by decide : Parsing.Place.block ≠ .flow) (fun h => by cases h)
      (clear_sign (.inr rfl))
    have unfolded : hangingItems (fuel + 2)
        ⟨.blockEntry :: (valueTokens .sign item ++ (itemTokens items ++ rest)), handles,
          anchors⟩ =
        (nodeUnless (fuel + 1) .block [.blockEntry, .key, .value, .blockEnd]
          ⟨valueTokens .sign item ++ (itemTokens items ++ rest), handles,
            anchors⟩).bind (fun found => (hangingItems (fuel + 1) found.2).bind
              (fun others => .ok (found.1 :: others.1, others.2))) := rfl
    simp only [itemTokens, List.cons_append, List.append_assoc, unfolded, one, Except.bind,
      many.2 ends, nodesOf]

theorem fields_parse_nil : FieldsParse [] := by
  intro fuel rest handles anchors enough
  obtain ⟨fuel, rfl⟩ : ∃ f, fuel = f + 1 := ⟨fuel - 1, by omega⟩
  rfl

theorem fields_parse_cons {name : String} {content : Document}
    {fields : List (String × Document)} (first : ValueParses content)
    (more : FieldsParse fields) : FieldsParse ((name, content) :: fields) := by
  intro fuel rest handles anchors enough
  simp only [fieldTokens, List.length_append, List.length_cons] at enough
  obtain ⟨fuel, rfl⟩ : ∃ f, fuel = f + 4 := ⟨fuel - 4, by omega⟩
  have many := more (fuel + 3) rest handles anchors (by omega)
  have ends : EndsItems (fieldTokens fields ++ .blockEnd :: rest) := by
    cases fields with
    | nil => exact ⟨_, _, rfl, .inr rfl⟩
    | cons entry fields => exact ⟨_, _, rfl, .inl rfl⟩
  have one := unless_value first (leadOf name) (fieldTokens fields ++ .blockEnd :: rest) handles
    anchors (by omega : _ ≤ fuel + 1) (by decide : Parsing.Place.afterKey ≠ .flow)
    (fun _ => ⟨rfl, ends⟩) clear_field
  have unfolded : blockEntries (fuel + 4)
      ⟨.key :: scalarToken name.toList :: .value :: (valueTokens (leadOf name) content ++
        (fieldTokens fields ++ .blockEnd :: rest)), handles, anchors⟩ =
      (nodeUnless (fuel + 2) .afterKey [.key, .value, .blockEnd]
        ⟨valueTokens (leadOf name) content ++ (fieldTokens fields ++ .blockEnd :: rest), handles,
          anchors⟩).bind (fun found => (blockEntries (fuel + 3) found.2).bind
            (fun others => .ok ((.scalar none (.ofScalar none
              (Style.ofText name.toList == .plain) (.text name.toList)) (.text name.toList),
              found.1) :: others.1, others.2))) := rfl
  simp only [fieldTokens, List.cons_append, List.append_assoc, unfolded, one, Except.bind, many,
    entriesOf, tag_of_text]

mutual

theorem value_parses (d : Document) : ValueParses d := by
  intro lead fuel place rest handles anchors enough block hanging
  obtain ⟨fuel, rfl⟩ : ∃ f, fuel = f + 2 := ⟨fuel - 2, by omega⟩
  match d with
  | .null => exact node_scalar
  | .number n =>
    have tag : Tag.ofScalar none true (.text (Text.decimalInt n)) = .int :=
      Tag.ofPlain_decimalInt n
    rw [nodeOf, ← tag]
    exact node_scalar
  | .text phrase =>
    rw [nodeOf, ← tag_of_phrase phrase]
    exact node_scalar
  | .list [] => exact node_flow.1
  | .block [] => exact node_flow.2
  | .list (item :: items) =>
    have parsed := items_parse (item :: items)
    cases lead with
    | key =>
      obtain ⟨rfl, ends⟩ := hanging rfl
      simp only [valueTokens] at enough
      exact node_hanging ((parsed (fuel + 1) rest handles anchors (by omega)).2 ends)
    | sign =>
      simp only [valueTokens, List.cons_append, List.length_cons, List.length_append,
        List.length_nil] at enough
      have items := (parsed (fuel + 1) rest handles anchors (by omega)).1
      simp only [valueTokens, List.cons_append, List.append_assoc, List.nil_append]
      exact node_sequence block items
  | .block (entry :: fields) =>
    simp only [valueTokens, List.cons_append, List.length_cons, List.length_append,
      List.length_nil] at enough
    have parsed := fields_parse (entry :: fields) (fuel + 1) rest handles anchors (by omega)
    simp only [valueTokens, List.cons_append, List.append_assoc, List.nil_append]
    exact node_mapping block parsed

theorem items_parse (items : List Document) : ItemsParse items := by
  match items with
  | [] => exact items_parse_nil
  | item :: items => exact items_parse_cons (value_parses item) (items_parse items)

theorem fields_parse (fields : List (String × Document)) : FieldsParse fields := by
  match fields with
  | [] => exact fields_parse_nil
  | (name, content) :: fields =>
    exact fields_parse_cons (value_parses content) (fields_parse fields)

end

theorem document_parses (entry : String × Document) (fields : List (String × Document)) :
    Parsing.document
        (.blockMappingStart :: fieldTokens (entry :: fields) ++ [.blockEnd, .streamEnd]) =
      .ok (some (nodeOf (.block (entry :: fields)))) := by
  generalize tokens : Token.blockMappingStart :: fieldTokens (entry :: fields) ++
    [.blockEnd, .streamEnd] = ts
  have enough : 4 * (valueTokens .sign (.block (entry :: fields))).length + 2 ≤
      Parsing.fuelFor ts := by
    simp only [← tokens, Parsing.fuelFor, valueTokens, List.cons_append, List.length_cons,
      List.length_append, List.length_nil]
    omega
  have root := value_parses (.block (entry :: fields)) .sign (Parsing.fuelFor ts) .block
    [.streamEnd] Parsing.standardHandles [] enough (by decide) (fun h => by cases h)
  have same : valueTokens .sign (.block (entry :: fields)) ++ [.streamEnd] = ts := by
    simp [← tokens, valueTokens]
  rw [same] at root
  have dispatch : Parsing.document ts =
      (Parsing.node (Parsing.fuelFor ts) .block ⟨ts, Parsing.standardHandles, []⟩).bind
        (fun found => found.2.ending.bind (fun _ => .ok (some found.1))) := by
    rw [← tokens]
    rfl
  rw [dispatch, root]
  rfl

end ClusterManifest.Yaml
