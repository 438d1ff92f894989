import ClusterManifest.Proofs.Yaml.TokenFault

/-! What the parsing of tokens to a node can fail with: tokens that are out of place make a text
malformed, and a token that could not be looked at passes its own fault on. -/

namespace ClusterManifest.Yaml

namespace Parsing

/-- A parser goes on to tokens that are intact, or ends with a fault of tokens. -/
abbrev Reads {α : Type} (step : Except Fault (α × Parsing)) : Prop :=
  Scans (fun read => AllIntact read.2.tokens) step

variable {p : Parsing}

theorem ends_peek (intact : AllIntact p.tokens) : Scans Any p.peek := by
  unfold peek
  split
  · exact ends_malformed
  · next fault rest same =>
    rw [same] at intact
    exact .error (intact (.broken fault) (List.mem_cons_self ..))
  · exact .ok trivial

theorem intact_next (intact : AllIntact p.tokens) : AllIntact p.next.tokens :=
  intact.of_subset (List.drop_subset ..)

theorem ends_ahead (intact : AllIntact p.tokens) (tokens : List Token) :
    Scans Any (p.ahead tokens) :=
  (ends_peek intact).bind (fun _ _ => .ok trivial)

theorem reads_anchor (intact : AllIntact p.tokens) : Reads p.anchor? := by
  apply (ends_peek intact).bind
  intro token _
  cases token <;> first | exact .ok (intact_next intact) | exact .ok intact

theorem reads_tag (intact : AllIntact p.tokens) : Reads p.tag? := by
  apply (ends_peek intact).bind
  intro token _
  cases token <;> first | exact .ok (intact_next intact) | exact .ok intact

theorem reads_properties (intact : AllIntact p.tokens) :
    Scans (fun read => AllIntact read.2.2.tokens) p.properties := by
  apply (reads_anchor intact).bind
  rintro ⟨anchor, p⟩ intact
  cases anchor with
  | some name => exact (reads_tag intact).bind (fun _ intact => .ok intact)
  | none =>
    apply (reads_tag intact).bind
    rintro ⟨tag, p⟩ intact
    cases tag with
    | none => exact .ok intact
    | some name => exact (reads_anchor intact).bind (fun _ intact => .ok intact)

theorem ends_fullName (p : Parsing) (written : Option TagName) :
    Scans Any (p.fullName written) := by
  unfold fullName
  split
  · exact .ok trivial
  · exact .ok trivial
  · split
    · exact .ok trivial
    · exact ends_malformed

theorem ends_useAnchor (intact : AllIntact p.tokens) (anchor : Option (List Char)) :
    Scans (fun q => AllIntact q.tokens) (p.useAnchor anchor) := by
  unfold useAnchor
  split
  · exact .ok intact
  · split
    · exact ends_malformed
    · exact .ok intact

theorem ends_comma (intact : AllIntact p.tokens) (first : Bool) :
    Scans (fun q => AllIntact q.tokens) (comma first p) := by
  unfold comma
  split
  · exact .ok intact
  · apply (ends_peek intact).bind
    intro token _
    cases token <;> first | exact .ok (intact_next intact) | exact ends_malformed

/-- All parsers with some fuel read on, or end with a fault of tokens. -/
structure AllRead (fuel : Nat) : Prop where
  node : ∀ place p, AllIntact p.tokens → Reads (node fuel place p)
  nodeUnless : ∀ place stops p, AllIntact p.tokens → Reads (nodeUnless fuel place stops p)
  valueNode : ∀ place stops p, AllIntact p.tokens → Reads (valueNode fuel place stops p)
  blockItems : ∀ p, AllIntact p.tokens → Reads (blockItems fuel p)
  hangingItems : ∀ p, AllIntact p.tokens → Reads (hangingItems fuel p)
  blockEntries : ∀ p, AllIntact p.tokens → Reads (blockEntries fuel p)
  flowItems : ∀ first p, AllIntact p.tokens → Reads (flowItems fuel first p)
  flowEntries : ∀ first p, AllIntact p.tokens → Reads (flowEntries fuel first p)

variable {fuel : Nat}

theorem reads_nodeUnless (below : AllRead fuel) (place : Parsing.Place) (stops : List Token)
    (intact : AllIntact p.tokens) : Reads (nodeUnless (fuel + 1) place stops p) := by
  unfold nodeUnless
  apply (ends_ahead intact stops).bind
  intro stop _
  exact Ends.ite (.ok intact) (below.node place p intact)

theorem reads_valueNode (below : AllRead fuel) (place : Parsing.Place) (stops : List Token)
    (intact : AllIntact p.tokens) : Reads (valueNode (fuel + 1) place stops p) := by
  unfold valueNode
  apply (ends_ahead intact _).bind
  intro colon _
  exact Ends.ite (below.nodeUnless place stops _ (intact_next intact)) (.ok intact)

theorem Ends.more {α β γ : Type} {first : Except Fault (α × Parsing)}
    {rest : Parsing → Except Fault (β × Parsing)} (make : α → β → γ) (reads : Reads first)
    (more : ∀ p, AllIntact p.tokens → Reads (rest p)) :
    Reads (first >>= fun read => rest read.2 >>= fun others =>
      .ok (make read.1 others.1, others.2)) :=
  reads.bind (fun read intact => (more read.2 intact).bind (fun _ intact => .ok intact))

theorem reads_blockItems (below : AllRead fuel) (intact : AllIntact p.tokens) :
    Reads (blockItems (fuel + 1) p) := by
  unfold blockItems
  apply (ends_peek intact).bind
  intro token _
  have item := below.nodeUnless .block [.blockEntry, .blockEnd] _ (intact_next intact)
  cases token with
  | blockEntry => exact Ends.more (· :: ·) item below.blockItems
  | blockEnd => exact .ok (intact_next intact)
  | _ => exact ends_malformed

theorem reads_hangingItems (below : AllRead fuel) (intact : AllIntact p.tokens) :
    Reads (hangingItems (fuel + 1) p) := by
  unfold hangingItems
  apply (ends_peek intact).bind
  intro token _
  have item := below.nodeUnless .block [.blockEntry, .key, .value, .blockEnd] _
    (intact_next intact)
  cases token with
  | blockEntry => exact Ends.more (· :: ·) item below.hangingItems
  | _ => exact .ok intact

theorem Ends.entry {γ : Type} {key : Except Fault (Node × Parsing)}
    {value : Parsing → Except Fault (Node × Parsing)}
    {rest : Parsing → Except Fault (List γ × Parsing)} (make : Node → Node → γ)
    (reads : Reads key) (second : ∀ p, AllIntact p.tokens → Reads (value p))
    (more : ∀ p, AllIntact p.tokens → Reads (rest p)) :
    Reads (key >>= fun k => value k.2 >>= fun v => rest v.2 >>= fun others =>
      .ok (make k.1 v.1 :: others.1, others.2)) :=
  reads.bind (fun k intact => Ends.more (make k.1 · :: ·) (second k.2 intact) more)

theorem reads_blockEntries (below : AllRead fuel) (intact : AllIntact p.tokens) :
    Reads (blockEntries (fuel + 1) p) := by
  unfold blockEntries
  apply (ends_peek intact).bind
  intro token _
  have key := below.nodeUnless .afterKey [.key, .value, .blockEnd] _ (intact_next intact)
  cases token with
  | key => exact Ends.entry (·, ·) key (below.valueNode _ _) below.blockEntries
  | blockEnd => exact .ok (intact_next intact)
  | _ => exact ends_malformed

theorem reads_flowItems (below : AllRead fuel) (first : Bool) (intact : AllIntact p.tokens) :
    Reads (flowItems (fuel + 1) first p) := by
  unfold flowItems
  apply (ends_ahead intact _).bind
  intro ended _
  refine Ends.ite (.ok (intact_next intact)) ?_
  apply (ends_comma intact first).bind
  intro p intact
  apply (ends_peek intact).bind
  intro token _
  have key := below.nodeUnless .flow [.value, .flowEntry, .flowSequenceEnd] _ (intact_next intact)
  have item := below.node .flow p intact
  cases token with
  | key =>
    exact Ends.entry (fun key value => Node.mapping none .mapping [(key, value)]) key
      (below.valueNode _ _) (below.flowItems false)
  | flowSequenceEnd => exact .ok (intact_next intact)
  | _ => exact Ends.more (· :: ·) item (below.flowItems false)

theorem reads_flowEntries (below : AllRead fuel) (first : Bool) (intact : AllIntact p.tokens) :
    Reads (flowEntries (fuel + 1) first p) := by
  unfold flowEntries
  apply (ends_ahead intact _).bind
  intro ended _
  refine Ends.ite (.ok (intact_next intact)) ?_
  apply (ends_comma intact first).bind
  intro p intact
  apply (ends_peek intact).bind
  intro token _
  have key := below.nodeUnless .flow [.value, .flowEntry, .flowMappingEnd] _ (intact_next intact)
  have item := below.node .flow p intact
  cases token with
  | key => exact Ends.entry (·, ·) key (below.valueNode _ _) (below.flowEntries false)
  | flowMappingEnd => exact .ok (intact_next intact)
  | _ =>
    exact Ends.more (fun key entries => (key, Node.empty) :: entries) item
      (below.flowEntries false)

theorem reads_collection {α : Type} {anchor : Option (List Char)}
    {parts : Parsing → Except Fault (α × Parsing)} (make : α → Node)
    (intact : AllIntact p.tokens) (reads : ∀ q, AllIntact q.tokens → Reads (parts q)) :
    Reads (p.useAnchor anchor >>= fun q => parts q >>= fun read => .ok (make read.1, read.2)) :=
  (ends_useAnchor intact anchor).bind
    (fun q intact => (reads q intact).bind (fun _ intact => .ok intact))

theorem reads_node (below : AllRead fuel) (place : Parsing.Place) (intact : AllIntact p.tokens) :
    Reads (node (fuel + 1) place p) := by
  unfold node
  apply (ends_peek intact).bind
  intro token _
  split
  · exact Ends.ite (.ok (intact_next intact)) ends_malformed
  · apply (reads_properties intact).bind
    rintro ⟨anchor, written, p⟩ intact
    apply (ends_fullName p written).bind
    intro written _
    apply (ends_peek intact).bind
    intro token _
    split
    · exact reads_collection (Node.sequence anchor (.ofCollection written .sequence)) intact
        below.hangingItems
    · exact (ends_useAnchor (intact_next intact) anchor).bind (fun _ intact => .ok intact)
    · exact reads_collection (Node.sequence anchor (.ofCollection written .sequence)) intact
        (fun q intact => below.flowItems true q.next (intact_next intact))
    · exact reads_collection (Node.mapping anchor (.ofCollection written .mapping)) intact
        (fun q intact => below.flowEntries true q.next (intact_next intact))
    · apply Ends.ite (reads_collection (Node.sequence anchor (.ofCollection written .sequence))
        intact (fun q intact => below.blockItems q.next (intact_next intact)))
      apply Ends.ite (reads_collection (Node.mapping anchor (.ofCollection written .mapping))
        intact (fun q intact => below.blockEntries q.next (intact_next intact)))
      exact Ends.ite ((ends_useAnchor intact anchor).bind (fun _ intact => .ok intact))
        ends_malformed

theorem allRead (fuel : Nat) : AllRead fuel := by
  induction fuel with
  | zero =>
    constructor <;> intros <;> exact ends_malformed
  | succ fuel below =>
    exact {
      node := fun place _ intact => reads_node below place intact
      nodeUnless := fun place stops _ intact => reads_nodeUnless below place stops intact
      valueNode := fun place stops _ intact => reads_valueNode below place stops intact
      blockItems := fun _ intact => reads_blockItems below intact
      hangingItems := fun _ intact => reads_hangingItems below intact
      blockEntries := fun _ intact => reads_blockEntries below intact
      flowItems := fun first _ intact => reads_flowItems below first intact
      flowEntries := fun first _ intact => reads_flowEntries below first intact }

theorem reads_directives (fuel : Nat) (versioned : Bool) (handles : List (List Char × List Char))
    (intact : AllIntact p.tokens) : Reads (directives fuel versioned handles p) := by
  induction fuel generalizing p versioned handles with
  | zero => exact ends_malformed
  | succ fuel ih =>
    unfold directives
    apply (ends_peek intact).bind
    intro token _
    split
    · exact Ends.ite ends_malformed (ih _ _ (intact_next intact))
    · exact Ends.ite ends_malformed (ih _ _ (intact_next intact))
    · exact ih _ _ (intact_next intact)
    · exact .ok intact

theorem ends_skipEnds (fuel : Nat) (intact : AllIntact p.tokens) :
    Scans (fun q => AllIntact q.tokens) (p.skipEnds fuel) := by
  induction fuel generalizing p with
  | zero => exact .ok intact
  | succ fuel ih =>
    unfold skipEnds
    apply (ends_peek intact).bind
    intro token _
    split
    · exact ih (intact_next intact)
    · exact .ok intact

theorem ends_explicitStart (intact : AllIntact p.tokens) :
    Scans (fun start => ∀ q, start = some q → AllIntact q.tokens) p.explicitStart := by
  unfold explicitStart
  apply (ends_skipEnds _ intact).bind
  intro p intact
  apply (ends_peek intact).bind
  intro token _
  split
  · exact .ok (fun q none => nomatch none)
  · apply (reads_directives _ false [] intact).bind
    rintro ⟨handles, p⟩ intact
    apply (ends_peek intact).bind
    intro token _
    split
    · apply Ends.ok
      rintro q same
      cases same
      exact intact_next intact
    · exact ends_malformed

theorem ends_ending (intact : AllIntact p.tokens) : Scans Any p.ending := by
  unfold ending
  apply (ends_explicitStart intact).bind
  intro start _
  split
  · exact .ok trivial
  · exact ends_malformed

theorem ends_document {tokens : List Token} (intact : AllIntact tokens) :
    Scans Any (document tokens) := by
  have root : ∀ p : Parsing, AllIntact p.tokens → Reads (node (fuelFor tokens) .block p) :=
    (allRead (fuelFor tokens)).node .block
  have last : ∀ (node : Node) (p : Parsing), AllIntact p.tokens →
      Scans Any (p.ending >>= fun _ => .ok (some node)) :=
    fun node p intact => (ends_ending intact).bind (fun _ _ => .ok trivial)
  have explicit := ends_explicitStart (p := ⟨tokens, standardHandles, []⟩) intact
  unfold document
  apply (ends_peek intact).bind
  intro token _
  dsimp only
  split
  · exact .ok trivial
  -- a directive or a mark stands before the document in each of these
  iterate 4
    apply explicit.bind
    intro start begun
    split
    · exact .ok trivial
    · next p =>
      have intact := begun p rfl
      apply (ends_peek intact).bind
      intro token _
      split <;> first
        | exact last _ _ intact
        | exact (root _ intact).bind (fun _ intact => last _ _ intact)
  · exact (root _ intact).bind (fun _ intact => last _ _ intact)

end Parsing

theorem Node.ends_ofText (s : List Char) : Scans Any (Node.ofText s) := by
  apply (Token.ends_ofText s).bind
  intro tokens intact
  exact Parsing.ends_document intact

end ClusterManifest.Yaml
