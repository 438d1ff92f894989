import ClusterManifest.Proofs.Yaml.NodeFault
import ClusterManifest.Yaml.Meaning

/-! What can keep a document from having a value, apart from what makes it malformed: a scalar in
it that has the tag or the form of something and stands for none. -/

namespace ClusterManifest.Yaml

namespace Node

/-- A content is that of a scalar in a node. -/
inductive Has (content : Content) : Node → Prop
  | scalar {anchor : Option (List Char)} {tag : Tag} : Has content (.scalar anchor tag content)
  | item {anchor : Option (List Char)} {tag : Tag} {items : List Node} {item : Node} :
    item ∈ items → Has content item → Has content (.sequence anchor tag items)
  | key {anchor : Option (List Char)} {tag : Tag} {entries : List (Node × Node)}
    {entry : Node × Node} :
    entry ∈ entries → Has content entry.1 → Has content (.mapping anchor tag entries)
  | value {anchor : Option (List Char)} {tag : Tag} {entries : List (Node × Node)}
    {entry : Node × Node} :
    entry ∈ entries → Has content entry.2 → Has content (.mapping anchor tag entries)

/-- All contents in a node are those of a document, or nothing is written for them. -/
def Inside (root node : Node) : Prop :=
  ∀ content, node.Has content → content = .text [] ∨ root.Has content

variable {root : Node}

theorem inside_empty : Inside root .empty := by
  rintro content ⟨⟩
  exact .inl rfl

mutual

/-- What is in a node with an anchor is in the node around it. -/
theorem has_anchored (node : Node) {content : Content} :
    ∀ entry ∈ node.anchored, entry.2.Has content → node.Has content := by
  intro entry among has
  match node with
  | .scalar none _ _ => cases among
  | .scalar (some name) tag content' =>
    rw [anchored, List.mem_singleton] at among
    subst among
    exact has
  | .sequence none tag items =>
    obtain ⟨item, within, inner⟩ := has_anchoredItems items entry among has
    exact .item within inner
  | .sequence (some name) tag items =>
    rcases List.mem_append.mp among with inner | self
    · obtain ⟨item, within, inner⟩ := has_anchoredItems items entry inner has
      exact .item within inner
    · rw [List.mem_singleton] at self
      subst self
      exact has
  | .mapping none tag entries =>
    rcases has_anchoredEntries entries entry among has with ⟨pair, within, inner | inner⟩
    · exact .key within inner
    · exact .value within inner
  | .mapping (some name) tag entries =>
    rcases List.mem_append.mp among with inner | self
    · rcases has_anchoredEntries entries entry inner has with ⟨pair, within, inner | inner⟩
      · exact .key within inner
      · exact .value within inner
    · rw [List.mem_singleton] at self
      subst self
      exact has
  | .alias _ => cases among

theorem has_anchoredItems (items : List Node) {content : Content} :
    ∀ entry ∈ anchoredItems items, entry.2.Has content →
      ∃ item ∈ items, item.Has content := by
  intro entry among has
  match items with
  | [] => cases among
  | item :: items =>
    rcases List.mem_append.mp among with here | there
    · exact ⟨item, List.mem_cons_self .., has_anchored item entry here has⟩
    · obtain ⟨other, within, inner⟩ := has_anchoredItems items entry there has
      exact ⟨other, List.mem_cons_of_mem _ within, inner⟩

theorem has_anchoredEntries (entries : List (Node × Node)) {content : Content} :
    ∀ entry ∈ anchoredEntries entries, entry.2.Has content →
      ∃ pair ∈ entries, pair.1.Has content ∨ pair.2.Has content := by
  intro entry among has
  match entries with
  | [] => cases among
  | (key, value) :: entries =>
    rcases List.mem_append.mp among with here | there
    · rcases List.mem_append.mp here with first | second
      · exact ⟨_, List.mem_cons_self .., .inl (has_anchored key entry first has)⟩
      · exact ⟨_, List.mem_cons_self .., .inr (has_anchored value entry second has)⟩
    · obtain ⟨pair, within, inner⟩ := has_anchoredEntries entries entry there has
      exact ⟨pair, List.mem_cons_of_mem _ within, inner⟩

end

end Node

namespace Meaning

open Node

def formTags : List Tag := [.bool, .int, .float, .timestamp]

/-- What keeps a document from having a value. -/
inductive OfDocument (root : Node) : Fault → Prop
  | malformed : OfDocument root .malformed
  /-- A scalar of the document, or one for which nothing is written, is not what a tag asks for. -/
  | scalar {tag : Tag} {content : Content} {fault : Fault} :
    tag ∈ formTags → content = .text [] ∨ root.Has content →
      Scalar.ofContent tag content = .error fault → OfDocument root fault
  /-- A mapping is tagged as a date. -/
  | mapping : OfDocument root .listForText

/-- The fault that counts, if there is one, is of a document. -/
def Known (root : Node) (fault : Option (Nat × Fault)) : Prop :=
  ∀ level cause, fault = some (level, cause) → OfDocument root cause

/-- The surroundings of a node in a document. -/
structure Surroundings.Around (root : Node) (s : Surroundings) : Prop where
  nodes : ∀ entry ∈ s.nodes, Inside root entry.2
  done : ∀ entry ∈ s.done, Known root entry.2.fault
  before : ∀ entry ∈ s.before, Known root entry.2.fault

variable {root : Node} {s : Surroundings}

theorem known_none : Known root none := fun _ _ none => nomatch none

theorem known_some {level : Nat} {cause : Fault} (known : OfDocument root cause) :
    Known root (some (level, cause)) := by
  rintro _ _ ⟨⟩
  exact known

theorem known_nearer {first second : Option (Nat × Fault)} (left : Known root first)
    (right : Known root second) : Known root (nearer first second) := by
  unfold nearer
  split
  · exact right
  · exact left
  · split
    · exact right
    · exact left

theorem known_fromAbove {fault : Option (Nat × Fault)} (known : Known root fault) :
    Known root (fromAbove fault) := by
  intro level cause same
  obtain ⟨⟨above, found⟩, some, rest⟩ := Option.map_eq_some_iff.mp same
  cases rest
  exact known above cause some

theorem mem_of_lookup {β : Type} {entries : List (List Char × β)} {name : List Char} {b : β}
    (found : entries.lookup name = some b) : (name, b) ∈ entries := by
  obtain ⟨_, _, rfl, -⟩ := List.lookup_eq_some_iff.mp found
  exact List.mem_append_right _ (List.mem_cons_self ..)

theorem inside_resolve (around : s.Around root) {node : Node} (inside : Inside root node) :
    Inside root (s.resolve node) := by
  unfold Surroundings.resolve
  split
  · next name =>
    cases found : s.nodes.lookup name with
    | none => exact inside_empty
    | some other => exact around.nodes _ (mem_of_lookup found)
  · exact inside

/-- Keys and values of entries are inside of a document. -/
def EntriesInside (root : Node) (entries : List (Node × Node)) : Prop :=
  ∀ entry ∈ entries, Inside root entry.1 ∧ Inside root entry.2

theorem inside_items {anchor : Option (List Char)} {tag : Tag} {items : List Node}
    (inside : Inside root (.sequence anchor tag items)) : ∀ item ∈ items, Inside root item :=
  fun _ among content has => inside content (.item among has)

theorem inside_entries {anchor : Option (List Char)} {tag : Tag} {entries : List (Node × Node)}
    (inside : Inside root (.mapping anchor tag entries)) : EntriesInside root entries :=
  fun _ among => ⟨fun content has => inside content (.key among has),
    fun content has => inside content (.value among has)⟩

theorem entriesInside_nil : EntriesInside root [] := fun _ among => nomatch among

theorem entriesInside_append {first second : List (Node × Node)}
    (left : EntriesInside root first) (right : EntriesInside root second) :
    EntriesInside root (first ++ second) := by
  intro entry among
  rcases List.mem_append.mp among with among | among
  · exact left entry among
  · exact right entry among

theorem inside_plainKey (around : s.Around root) {key : Node} (inside : Inside root key) :
    Inside root (plainKey s key) := by
  have resolved := inside_resolve around inside
  unfold plainKey
  split
  · next same =>
    rw [same] at resolved
    rintro content ⟨⟩
    exact resolved _ .scalar
  · next same =>
    rw [same] at resolved
    intro content has
    cases has with
    | item among has => exact resolved content (.item among has)
  · next same =>
    rw [same] at resolved
    intro content has
    cases has with
    | key among has => exact resolved content (.key among has)
    | value among has => exact resolved content (.value among has)
  · exact inside

theorem inside_ownEntries (around : s.Around root) {entries : List (Node × Node)}
    (inside : EntriesInside root entries) : EntriesInside root (ownEntries s entries) := by
  intro entry among
  obtain ⟨other, kept, rfl⟩ := List.mem_map.mp among
  have parts := inside other (List.mem_filter.mp kept).1
  exact ⟨inside_plainKey around parts.1, parts.2⟩

/-- Entries that are taken over are inside of a document, or it is malformed. -/
abbrev Takes (root : Node) (step : Except Fault (List (Node × Node))) : Prop :=
  Ends (· = .malformed) (EntriesInside root) step

theorem takes_mergedEntries {taken : Node → Except Fault (List (Node × Node))}
    (takes : ∀ node, Inside root node → Takes root (taken node)) {entries : List (Node × Node)}
    (inside : EntriesInside root entries) : Takes root (mergedEntries s taken entries) := by
  induction entries with
  | nil => exact .ok entriesInside_nil
  | cons entry entries ih =>
    obtain ⟨key, value⟩ := entry
    have here := (inside _ (List.mem_cons_self ..)).2
    have rest := ih (fun other among => inside other (List.mem_cons_of_mem _ among))
    unfold mergedEntries
    exact Ends.ite rest ((takes value here).bind
      (fun _ first => rest.bind (fun _ more => .ok (entriesInside_append first more))))

theorem takes_mergedItems {taken : Node → Except Fault (List (Node × Node))}
    (takes : ∀ node, Inside root node → Takes root (taken node)) {items : List Node}
    (inside : ∀ item ∈ items, Inside root item) : Takes root (mergedItems taken items) := by
  induction items with
  | nil => exact .ok entriesInside_nil
  | cons item items ih =>
    have rest := ih (fun other among => inside other (List.mem_cons_of_mem _ among))
    exact (takes item (inside item (List.mem_cons_self ..))).bind
      (fun _ first => rest.bind (fun _ more => .ok (entriesInside_append more first)))

theorem takes_flatten (around : s.Around root) (fuel : Nat) (busy : List (List Char))
    {entries : List (Node × Node)} (inside : EntriesInside root entries) :
    Takes root (flatten s fuel busy entries) := by
  induction fuel generalizing busy entries with
  | zero => exact .ok (inside_ownEntries around inside)
  | succ fuel ih =>
    unfold flatten
    extract_lets mapping taken
    have mapped : ∀ node, Inside root node → Takes root (mapping node) := by
      intro node inside
      have resolved := inside_resolve around inside
      simp only [mapping]
      split
      · next same =>
        rw [same] at resolved
        exact Ends.ite (.ok (inside_ownEntries around (inside_entries resolved)))
          (ih _ (inside_entries resolved))
      · next same =>
        rw [same] at resolved
        exact ih _ (inside_entries resolved)
      · exact .error rfl
    have takes : ∀ node, Inside root node → Takes root (taken node) := by
      intro node inside
      have resolved := inside_resolve around inside
      simp only [taken]
      split
      · next same =>
        rw [same] at resolved
        exact takes_mergedItems mapped (inside_items resolved)
      · exact mapped _ resolved
    have own := inside_ownEntries around inside
    exact (takes_mergedEntries takes inside).bind
      (fun _ merged => .ok (entriesInside_append merged own))

theorem content_inside (around : s.Around root) (fuel : Nat) {node : Node} {content : Content}
    (inside : Inside root node) (found : content? s fuel node = some content) :
    content = .text [] ∨ root.Has content := by
  induction fuel generalizing node with
  | zero => cases found
  | succ fuel ih =>
    have resolved := inside_resolve around inside
    unfold content? at found
    split at found
    · next same =>
      cases found
      rw [same] at resolved
      exact resolved _ .scalar
    · next same =>
      rw [same] at resolved
      split at found
      · next key value given =>
        exact ih (inside_entries resolved _ (List.mem_of_find?_eq_some given)).2 found
      · cases found
    · cases found

theorem ofContent_error {tag : Tag} {content : Content} {fault : Fault}
    (failed : Scalar.ofContent tag content = .error fault) :
    fault = .malformed ∨ tag ∈ formTags := by
  cases tag with
  | bool | int | float | timestamp => exact .inr (by decide)
  | null | text => cases content <;> cases failed
  | binary =>
    left
    cases content with
    | illFormed value => exact (Except.error.inj failed).symm
    | text value =>
      have undecoded :
          (Scalar.binary value).map ClusterManifest.Scalar.bytes = .error fault := failed
      unfold Scalar.binary at undecoded
      split at undecoded
      · split at undecoded
        · cases undecoded
        · exact (Except.error.inj undecoded).symm
      · exact (Except.error.inj undecoded).symm
  | _ => cases content <;> exact .inl (Except.error.inj failed).symm

theorem known_ofScalar (around : s.Around root) (fuel : Nat) (tag : Tag) {node : Node}
    (inside : Inside root node) : Known root (ofScalar s fuel tag node).fault := by
  unfold ofScalar
  split
  · exact known_some .malformed
  · next content found =>
    split
    · exact known_some .mapping
    · split
      · exact known_none
      · next failed =>
        rcases ofContent_error failed with rfl | form
        · exact known_some .malformed
        · exact known_some (.scalar form (content_inside around fuel inside found) failed)

theorem known_ofItems {meaning : Node → Meaning} {items : List Node}
    (each : ∀ item ∈ items, Known root (meaning item).fault) :
    Known root (ofItems meaning items).2 := by
  induction items with
  | nil => exact known_none
  | cons item items ih =>
    exact known_nearer (each item (List.mem_cons_self ..))
      (ih (fun other among => each other (List.mem_cons_of_mem _ among)))

theorem known_asKey {key : Meaning} (known : Known root key.fault) :
    Known root (asKey key).2 := by
  unfold asKey
  split
  · exact known
  · exact known_nearer (known_some .malformed) known

theorem known_ofEntries {meaning : Node → Meaning} {entries : List (Node × Node)}
    (each : ∀ node, Inside root node → Known root (meaning node).fault)
    (inside : EntriesInside root entries) : Known root (ofEntries meaning entries).2 := by
  induction entries with
  | nil => exact known_none
  | cons entry entries ih =>
    obtain ⟨key, value⟩ := entry
    obtain ⟨first, second⟩ := inside _ (List.mem_cons_self ..)
    have rest := ih (fun other among => inside other (List.mem_cons_of_mem _ among))
    exact known_nearer (known_asKey (each key first)) (known_nearer (each value second) rest)

theorem known_ofPairs (around : s.Around root) {meaning : Node → Meaning} {items : List Node}
    (each : ∀ node, Inside root node → Known root (meaning node).fault)
    (inside : ∀ item ∈ items, Inside root item) : Known root (ofPairs s meaning items).2 := by
  induction items with
  | nil => exact known_none
  | cons item items ih =>
    have resolved := inside_resolve around (inside item (List.mem_cons_self ..))
    have rest := ih (fun other among => inside other (List.mem_cons_of_mem _ among))
    unfold ofPairs
    split
    · next key value same =>
      rw [same] at resolved
      obtain ⟨first, second⟩ := inside_entries resolved _ (List.mem_singleton_self (key, value))
      exact known_nearer (each key first) (known_nearer (each value second) rest)
    · exact known_some .malformed

theorem known_ofMapping (around : s.Around root) {meaning : Node → Meaning}
    {make : List (ClusterManifest.Scalar × Value) → Value} (fuel : Nat)
    {entries : List (Node × Node)}
    (each : ∀ node, Inside root node → Known root (meaning node).fault)
    (inside : EntriesInside root entries) :
    Known root (ofMapping s meaning make fuel entries).fault := by
  have flat := takes_flatten around fuel [] inside
  unfold ofMapping
  split
  · next failed =>
    have same := flat.fault failed
    subst same
    exact known_some .malformed
  · next made => exact known_fromAbove (known_ofEntries each (flat.result made))

theorem known_meaning (around : s.Around root) (name : List Char) :
    Known root (s.meaning name).fault := by
  unfold Surroundings.meaning
  split
  · next found => exact around.done _ (mem_of_lookup found)
  · cases found : s.before.lookup name with
    | none => exact known_none
    | some m => exact around.before _ (mem_of_lookup found)

theorem known_ofNode (around : s.Around root) (fuel : Nat) {node : Node}
    (inside : Inside root node) : Known root (ofNode s fuel node).fault := by
  induction fuel generalizing node with
  | zero => exact known_none
  | succ fuel ih =>
    have each : ∀ node, Inside root node → Known root (ofNode s fuel node).fault :=
      fun _ inside => ih inside
    unfold ofNode
    split
    · next known =>
      obtain ⟨name, -, found⟩ := Option.bind_eq_some_iff.mp known
      exact around.done _ (mem_of_lookup found)
    · split
      · exact known_meaning around _
      · exact known_fromAbove
          (known_ofItems (fun item among => each item (inside_items inside item among)))
      · exact known_fromAbove (known_ofPairs around each (inside_items inside))
      · exact known_fromAbove (known_ofPairs around each (inside_items inside))
      · exact known_ofMapping around _ each (inside_entries inside)
      · exact known_ofMapping around _ each (inside_entries inside)
      all_goals
        split <;> first
          | exact known_some .malformed
          | exact known_ofScalar around _ _ inside

/-- The meanings of the nodes with anchors have no other faults either, loops followed or not. -/
theorem known_anchoredMeanings {nodes : List (List Char × Node)} (fuel : Nat)
    {before : List (List Char × Meaning)} (inside : ∀ entry ∈ nodes, Inside root entry.2)
    (known : ∀ entry ∈ before, Known root entry.2.fault) :
    ∀ entry ∈ anchoredMeanings nodes fuel before, Known root entry.2.fault := by
  have step : ∀ (rest : List (List Char × Node)) (done : List (List Char × Meaning)),
      (∀ entry ∈ rest, Inside root entry.2) → (∀ entry ∈ done, Known root entry.2.fault) →
      ∀ entry ∈ rest.foldl
        (fun done entry => done ++ [(entry.1, ofNode ⟨nodes, done, before⟩ fuel entry.2)]) done,
        Known root entry.2.fault := by
    intro rest
    induction rest with
    | nil => exact fun done _ known => known
    | cons first rest ih =>
      intro done within sofar
      refine ih _ (fun entry among => within entry (List.mem_cons_of_mem _ among)) ?_
      intro entry among
      rcases List.mem_append.mp among with earlier | last
      · exact sofar entry earlier
      · rw [List.mem_singleton] at last
        subst last
        exact known_ofNode ⟨inside, sofar, known⟩ fuel (within first (List.mem_cons_self ..))
  exact step nodes [] inside (fun _ among => nomatch among)

theorem known_unrolled {nodes : List (List Char × Node)} (fuel : Nat)
    (inside : ∀ entry ∈ nodes, Inside root entry.2) (times : Nat) :
    ∀ entry ∈ unrolled nodes fuel times, Known root entry.2.fault := by
  induction times with
  | zero => exact fun _ among => nomatch among
  | succ times ih => exact known_anchoredMeanings fuel inside ih

theorem known_ofDocument (root : Node) : Known root (ofDocument root).fault := by
  have inside : ∀ entry ∈ root.anchored, Inside root entry.2 :=
    fun entry among content has => .inr (has_anchored root entry among has)
  have meanings : ∀ entry ∈ (if root.anchored.isEmpty then [] else
      unrolled root.anchored (root.size + root.anchored.length + 1) unrolling),
      Known root entry.2.fault := by
    split
    · exact fun _ among => nomatch among
    · exact known_unrolled _ inside unrolling
  exact known_ofNode ⟨inside, meanings, meanings⟩ _ (fun content has => .inr has)

end Meaning

/-- Where a fault comes from that bytes are not read with, unless they are malformed: from a token
of their text, or from a scalar of their document. -/
inductive Fault.OfBytes (bytes : Text.Bytes) : Fault → Prop
  | token {text : List Char} {fault : Fault} :
    source bytes = .ok text → Node.ofText text = .error fault → fault.OfToken → OfBytes bytes fault
  | value {text : List Char} {root : Node} {fault : Fault} :
    source bytes = .ok text → Node.ofText text = .ok (some root) →
      Meaning.OfDocument root fault → OfBytes bytes fault

theorem source_error {bytes : Text.Bytes} {fault : Fault} (failed : source bytes = .error fault) :
    fault = .malformed := by
  unfold source at failed
  split at failed
  · split at failed
    · cases failed
    · exact (Except.error.inj failed).symm
  · exact (Except.error.inj failed).symm

/-- Bytes that are not read are malformed, or have a fault that comes from a token or a scalar. -/
theorem read_error {bytes : Text.Bytes} {fault : Fault} (failed : read bytes = .error fault) :
    fault = .malformed ∨ fault.OfBytes bytes := by
  rcases bind_error.mp failed with undecoded | ⟨text, decoded, rest⟩
  · exact .inl (source_error undecoded)
  · right
    rcases bind_error.mp rest with unparsed | ⟨root?, parsed, meant⟩
    · exact .token decoded unparsed ((Node.ends_ofText text).fault unparsed)
    · cases root? with
      | none => cases meant
      | some root =>
        dsimp only at meant
        split at meant
        · next level _ same =>
          cases meant
          exact .value decoded parsed (Meaning.known_ofDocument root level fault same)
        · cases meant

end ClusterManifest.Yaml
