import ClusterManifest.Proofs.Yaml.Parsing
import ClusterManifest.Proofs.Yaml.Reading
import ClusterManifest.Proofs.Yaml.Source
import ClusterManifest.Yaml.Meaning

/-! A document that is written and read again is the value that it stands for. It is written
unless a number in it has too many digits, and read again unless a name before its colon is too
long. -/

namespace ClusterManifest

def Scalar.ofPhrase : Phrase → Scalar
  | .text value => .text value
  | .illFormed value => .illFormed value

@[simp] theorem Scalar.ofPhrase_text (value : String) : ofPhrase (.text value) = .text value := rfl

namespace Document

mutual

def toValue : Document → Value
  | .null => .scalar .null
  | .number n => .scalar (.int n)
  | .text phrase => .scalar (.ofPhrase phrase)
  | .list items => .list (itemsToValues items)
  | .block fields => .map (Value.ofSettings (fieldsToSettings fields))

def itemsToValues : List Document → List Value
  | [] => []
  | item :: items => toValue item :: itemsToValues items

def fieldsToSettings : List (String × Document) → List (Scalar × Value)
  | [] => []
  | (name, content) :: fields => (.text name, toValue content) :: fieldsToSettings fields

end

mutual

/-- No number in a document has more digits than can be written. -/
def NumbersFit : Document → Prop
  | .number n => (Text.decimal n.natAbs).length ≤ Text.Numeral.digitLimit
  | .list items => NumbersFitItems items
  | .block fields => NumbersFitFields fields
  | _ => True

def NumbersFitItems : List Document → Prop
  | [] => True
  | item :: items => NumbersFit item ∧ NumbersFitItems items

def NumbersFitFields : List (String × Document) → Prop
  | [] => True
  | (_, content) :: fields => NumbersFit content ∧ NumbersFitFields fields

end

end Document

open Document

namespace Text.Numeral

theorem write_iff (n : Int) : (∃ w, write n = .ok w) ↔ (decimal n.natAbs).length ≤ digitLimit := by
  unfold write
  dsimp only
  split
  · next long =>
    constructor
    · rintro ⟨_, written⟩
      cases written
    · exact fun short => absurd long (Nat.not_lt.mpr short)
  · next short => exact ⟨fun _ => Nat.not_lt.mp short, fun _ => ⟨_, rfl⟩⟩

end Text.Numeral

namespace Yaml

namespace Meaning

/-- What is around a node in a document without anchors. -/
def alone : Surroundings := ⟨[], [], []⟩

mutual

theorem anchored_nodeOf (d : Document) : (nodeOf d).anchored = [] := by
  match d with
  | .null | .number _ | .text _ => rfl
  | .list items => exact anchored_nodesOf items
  | .block fields => exact anchored_entriesOf fields

theorem anchored_nodesOf (items : List Document) : Node.anchoredItems (nodesOf items) = [] := by
  match items with
  | [] => rfl
  | item :: items =>
    rw [nodesOf, Node.anchoredItems, anchored_nodeOf item, anchored_nodesOf items]
    rfl

theorem anchored_entriesOf (fields : List (String × Document)) :
    Node.anchoredEntries (entriesOf fields) = [] := by
  match fields with
  | [] => rfl
  | (name, content) :: fields =>
    rw [entriesOf, Node.anchoredEntries, anchored_nodeOf content, anchored_entriesOf fields]
    rfl

end

/-- Entries whose keys are texts take nothing over. -/
theorem flatten_texts (fields : List (String × Document)) (fuel : Nat) :
    flatten alone (fuel + 1) [] (entriesOf fields) = .ok (entriesOf fields) := by
  have key : ∀ name, (alone.keyTag (.scalar none .text (.text name)) != .merge) = true :=
    fun _ => rfl
  have own : ownEntries alone (entriesOf fields) = entriesOf fields := by
    induction fields with
    | nil => rfl
    | cons entry fields ih =>
      simp only [ownEntries, entriesOf] at ih ⊢
      rw [List.filter_cons, if_pos (key _), List.map_cons, ih]
      rfl
  have merged : ∀ taken, mergedEntries alone taken (entriesOf fields) = .ok [] := by
    intro taken
    clear own
    induction fields with
    | nil => rfl
    | cons entry fields ih => simp only [entriesOf, mergedEntries, key, if_true, ih]
  simp only [flatten, merged, own, bind, Except.bind, List.nil_append]

theorem size_nodeOf_pos (d : Document) : 0 < (nodeOf d).size := by
  cases d <;> simp only [nodeOf, Node.size] <;> omega

theorem ofNode_phrase (phrase : Phrase) (fuel : Nat) :
    ofNode alone (fuel + 1) (.scalar none .text (.ofPhrase phrase)) =
      sound (.scalar (.ofPhrase phrase)) := by
  cases phrase with
  | text value =>
    change sound (.scalar (.text (String.ofList value.toList))) = _
    rw [String.ofList_toList]
    rfl
  | illFormed value => rfl

mutual

/-- What a node of a document means, once every number in it can be read. -/
theorem ofNode_nodeOf (d : Document) (fit : NumbersFit d) (fuel : Nat)
    (enough : (nodeOf d).size ≤ fuel) : ofNode alone fuel (nodeOf d) = sound d.toValue := by
  have some := Nat.lt_of_lt_of_le (size_nodeOf_pos d) enough
  obtain ⟨fuel, rfl⟩ := Nat.exists_eq_add_one_of_ne_zero (Nat.ne_of_gt some)
  match d with
  | .null => rfl
  | .number n =>
    have read := Scalar.ofText_decimalInt fit
    have unfolded : ofNode alone (fuel + 1) (nodeOf (.number n)) =
        (match Scalar.ofText .int (Text.decimalInt n) with
        | .ok scalar => sound (.scalar scalar)
        | .error cause => faulty cause) := rfl
    rw [unfolded, read]
    rfl
  | .text phrase => exact ofNode_phrase phrase fuel
  | .list items =>
    simp only [nodeOf, Node.size] at enough
    have parts := ofItems_nodesOf items fit fuel (by omega)
    change collect (.list (ofItems (ofNode alone fuel) (nodesOf items)).1)
      (ofItems (ofNode alone fuel) (nodesOf items)).2 = _
    rw [parts]
    rfl
  | .block fields =>
    simp only [nodeOf, Node.size] at enough
    have parts := ofEntries_entriesOf fields fit fuel (by omega)
    change ofMapping alone (ofNode alone fuel) .map (fuel + 1) (entriesOf fields) = _
    simp only [ofMapping, flatten_texts, parts]
    rfl

theorem ofItems_nodesOf (items : List Document) (fit : NumbersFitItems items) (fuel : Nat)
    (enough : Node.sizeOfItems (nodesOf items) ≤ fuel) :
    ofItems (ofNode alone fuel) (nodesOf items) = (itemsToValues items, none) := by
  match items with
  | [] => rfl
  | item :: items =>
    simp only [nodesOf, Node.sizeOfItems] at enough
    have first := ofNode_nodeOf item fit.1 fuel (by omega)
    have more := ofItems_nodesOf items fit.2 fuel (by omega)
    simp only [nodesOf, ofItems, first, more, itemsToValues]
    rfl

theorem ofEntries_entriesOf (fields : List (String × Document)) (fit : NumbersFitFields fields)
    (fuel : Nat) (enough : Node.sizeOfEntries (entriesOf fields) ≤ fuel) :
    ofEntries (ofNode alone fuel) (entriesOf fields) = (fieldsToSettings fields, none) := by
  match fields with
  | [] => rfl
  | (name, content) :: fields =>
    simp only [entriesOf, Node.sizeOfEntries] at enough
    have key : ofNode alone fuel (.scalar none .text (.text name.toList)) =
        sound (.scalar (.text name)) := by
      obtain ⟨fuel, rfl⟩ := Nat.exists_eq_add_one_of_ne_zero (n := fuel)
        (fun none => by rw [none, Node.size] at enough; omega)
      exact ofNode_phrase name fuel
    have first := ofNode_nodeOf content fit.1 fuel (by omega)
    have more := ofEntries_entriesOf fields fit.2 fuel (by omega)
    simp only [entriesOf, ofEntries, key, first, more, fieldsToSettings]
    rfl

end

end Meaning

open Printer

mutual

theorem value_written_iff (d : Document) (indent column : Nat) (lead : Lead) :
    (∃ w, value indent column lead d = .ok w) ↔ NumbersFit d := by
  match d with
  | .null | .text _ | .list [] | .block [] =>
    simp [value, NumbersFit, NumbersFitItems, NumbersFitFields]
  | .number n =>
    rw [NumbersFit, ← Text.Numeral.write_iff]
    simp only [value]
    exact one_ok
  | .list (item :: items) =>
    cases lead with
    | key =>
      rw [value_hanging]
      exact items_written_iff (item :: items) indent
    | sign =>
      have first := value_written_iff item (indent + 2) (indent + 3) .sign
      have more := items_written_iff items (indent + 2)
      rw [NumbersFit, NumbersFitItems, ← first, ← more]
      simp only [value]
      exact both_ok
  | .block (entry :: fields) =>
    have all := fields_written_iff (entry :: fields) (indent + 2)
    rw [NumbersFit, ← all]
    simp only [moreFields, value]
    rw [both_ok]
    cases lead with
    | key => exact both_ok
    | sign => exact both_ok

theorem items_written_iff (items : List Document) (indent : Nat) :
    (∃ w, moreItems indent items = .ok w) ↔ NumbersFitItems items := by
  match items with
  | [] => simp [moreItems, NumbersFitItems]
  | item :: items =>
    have first := value_written_iff item indent (indent + 1) .sign
    have more := items_written_iff items indent
    rw [NumbersFitItems, ← first, ← more]
    simp only [moreItems]
    exact both_ok

theorem fields_written_iff (fields : List (String × Document)) (indent : Nat) :
    (∃ w, moreFields indent fields = .ok w) ↔ NumbersFitFields fields := by
  match fields with
  | [] => simp [moreFields, NumbersFitFields]
  | (name, content) :: fields =>
    have more := fields_written_iff fields indent
    have first : (∃ w, field indent (name, content) = .ok w) ↔ NumbersFit content := by
      simp only [field]
      split
      · exact one_ok.trans (value_written_iff content indent _ .key)
      · exact one_ok.trans (value_written_iff content indent _ .sign)
    rw [NumbersFitFields, ← first, ← more]
    simp only [moreFields]
    exact both_ok

end

theorem write_iff (entry : String × Document) (fields : List (String × Document)) :
    (∃ text, write (entry :: fields) = .ok text) ↔ NumbersFitFields (entry :: fields) := by
  rw [← fields_written_iff (entry :: fields) 0]
  simp only [write, document, moreFields, map_ok]
  rw [both_ok, ← both_ok (f := fun first more => first ++ more ++ ['\n'])]
  constructor
  · rintro ⟨_, w, written, _⟩
    exact ⟨w, written⟩
  · rintro ⟨w, written⟩
    exact ⟨_, w, written, rfl⟩

/-- What is written for a document of fields is read as its value if all names in it fit; if
one does not, it is not read. -/
theorem read_written {entry : String × Document} {fields : List (String × Document)}
    {text : String} (written : write (entry :: fields) = .ok text)
    (shallow : 2 * heightOfFields (entry :: fields) < Style.width) :
    (KeysFitFields (entry :: fields) → read (Text.Utf8.encode text.toList) =
        .ok (toValue (.block (entry :: fields)))) ∧
      (¬KeysFitFields (entry :: fields) → read (Text.Utf8.encode text.toList) =
        .error .malformed) := by
  have fit := (write_iff entry fields).mp ⟨text, written⟩
  obtain ⟨w, printed, rfl⟩ := map_ok.mp written
  rw [String.toList_ofList]
  have decoded := source_ordinary (document_ordinary printed)
  obtain ⟨reads, fails⟩ := ofText_printed printed shallow
  constructor
  · intro keys
    have node : Node.ofText w = .ok (some (nodeOf (.block (entry :: fields)))) := by
      simp only [Node.ofText, reads keys, bind, Except.bind]
      exact document_parses entry fields
    have meaning : Meaning.ofDocument (nodeOf (.block (entry :: fields))) =
        Meaning.sound (toValue (.block (entry :: fields))) := by
      simp only [Meaning.ofDocument, Meaning.anchored_nodeOf]
      exact Meaning.ofNode_nodeOf (.block (entry :: fields)) fit _ (Nat.le_succ _)
    simp only [read, decoded, node, meaning, bind, Except.bind]
    rfl
  · intro keys
    have node : Node.ofText w = .error .malformed := by
      simp only [Node.ofText, fails keys, bind, Except.bind]
    simp only [read, decoded, node, bind, Except.bind]

end Yaml

end ClusterManifest
