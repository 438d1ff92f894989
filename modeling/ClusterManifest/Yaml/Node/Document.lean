import ClusterManifest.Yaml.Node
import ClusterManifest.Yaml.Token.Stream

/-! From tokens to the node of a text's one document. Each function takes the tokens from a
place on and gives the node there with what comes after it. -/

namespace ClusterManifest.Yaml

/-- The tokens ahead, what tag handles stand for, and the anchors used so far. -/
structure Parsing where
  tokens : List Token
  handles : List (List Char × List Char)
  anchors : List (List Char)

namespace Parsing

def standardHandles : List (List Char × List Char) :=
  [(['!'], ['!']), (['!', '!'], Tag.common)]

def peek (p : Parsing) : Except Fault Token :=
  match p.tokens with
  | [] => .error .malformed
  | .broken fault :: _ => .error fault
  | token :: _ => .ok token

def next (p : Parsing) : Parsing := { p with tokens := p.tokens.drop 1 }

def ahead (p : Parsing) (tokens : List Token) : Except Fault Bool := do
  let token ← p.peek
  .ok (tokens.contains token)

def anchor? (p : Parsing) : Except Fault (Option (List Char) × Parsing) := do
  match (← p.peek) with
  | .anchor name => .ok (some name, p.next)
  | _ => .ok (none, p)

def tag? (p : Parsing) : Except Fault (Option TagName × Parsing) := do
  match (← p.peek) with
  | .tag name => .ok (some name, p.next)
  | _ => .ok (none, p)

def properties (p : Parsing) : Except Fault (Option (List Char) × Option TagName × Parsing) := do
  let (anchor, p) ← p.anchor?
  match anchor with
  | some name => do
    let (tag, p) ← p.tag?
    .ok (some name, tag, p)
  | none => do
    let (tag, p) ← p.tag?
    match tag with
    | some name => do
      let (anchor, p) ← p.anchor?
      .ok (anchor, some name, p)
    | none => .ok (none, none, p)

def fullName (p : Parsing) : Option TagName → Except Fault (Option (List Char))
  | none => .ok none
  | some ⟨none, suffix⟩ => .ok (some suffix)
  | some ⟨some handle, suffix⟩ =>
    match p.handles.lookup handle with
    | some meaning => .ok (some (meaning ++ suffix))
    | none => .error .malformed

def useAnchor (p : Parsing) : Option (List Char) → Except Fault Parsing
  | none => .ok p
  | some name =>
    if p.anchors.contains name then .error .malformed
    else .ok { p with anchors := name :: p.anchors }

/-- Where a node stands: whether a block may start there, and whether items may that are
indented no further than the key before them. -/
inductive Place
  | block
  | afterKey
  | flow
  deriving DecidableEq, Repr

/-- The comma that is due before every item between brackets but the first. -/
def comma (first : Bool) (p : Parsing) : Except Fault Parsing :=
  if first then .ok p
  else do
    match (← p.peek) with
    | .flowEntry => .ok p.next
    | _ => .error .malformed

mutual

def node : Nat → Place → Parsing → Except Fault (Node × Parsing)
  | 0, _, _ => .error .malformed
  | fuel + 1, place, p => do
    match (← p.peek) with
    | .alias name =>
      if p.anchors.contains name then .ok (.alias name, p.next) else .error .malformed
    | _ => do
      let (anchor, written, p) ← p.properties
      let written ← p.fullName written
      let token ← p.peek
      match token, place with
      | .blockEntry, .afterKey => do
        let p ← p.useAnchor anchor
        let (items, p) ← hangingItems fuel p
        .ok (.sequence anchor (.ofCollection written .sequence) items, p)
      | .scalar content plain, _ => do
        let p ← p.next.useAnchor anchor
        .ok (.scalar anchor (.ofScalar written plain content) content, p)
      | .flowSequenceStart, _ => do
        let p ← p.useAnchor anchor
        let (items, p) ← flowItems fuel true p.next
        .ok (.sequence anchor (.ofCollection written .sequence) items, p)
      | .flowMappingStart, _ => do
        let p ← p.useAnchor anchor
        let (entries, p) ← flowEntries fuel true p.next
        .ok (.mapping anchor (.ofCollection written .mapping) entries, p)
      | token, place =>
        if token == .blockSequenceStart && place != .flow then do
          let p ← p.useAnchor anchor
          let (items, p) ← blockItems fuel p.next
          .ok (.sequence anchor (.ofCollection written .sequence) items, p)
        else if token == .blockMappingStart && place != .flow then do
          let p ← p.useAnchor anchor
          let (entries, p) ← blockEntries fuel p.next
          .ok (.mapping anchor (.ofCollection written .mapping) entries, p)
        else if anchor.isSome || written.isSome then do
          let p ← p.useAnchor anchor
          .ok (.scalar anchor (.ofScalar written true (.text [])) (.text []), p)
        else .error .malformed

def nodeUnless : Nat → Place → List Token → Parsing → Except Fault (Node × Parsing)
  | 0, _, _, _ => .error .malformed
  | fuel + 1, place, stops, p => do
    if (← p.ahead stops) then .ok (.empty, p) else node fuel place p

def valueNode : Nat → Place → List Token → Parsing → Except Fault (Node × Parsing)
  | 0, _, _, _ => .error .malformed
  | fuel + 1, place, stops, p => do
    if (← p.ahead [.value]) then nodeUnless fuel place stops p.next else .ok (.empty, p)

def blockItems : Nat → Parsing → Except Fault (List Node × Parsing)
  | 0, _ => .error .malformed
  | fuel + 1, p => do
    match (← p.peek) with
    | .blockEntry => do
      let (item, p) ← nodeUnless fuel .block [.blockEntry, .blockEnd] p.next
      let (items, p) ← blockItems fuel p
      .ok (item :: items, p)
    | .blockEnd => .ok ([], p.next)
    | _ => .error .malformed

/-- The items of a sequence that is indented no further than the key before it. -/
def hangingItems : Nat → Parsing → Except Fault (List Node × Parsing)
  | 0, _ => .error .malformed
  | fuel + 1, p => do
    match (← p.peek) with
    | .blockEntry => do
      let (item, p) ← nodeUnless fuel .block [.blockEntry, .key, .value, .blockEnd] p.next
      let (items, p) ← hangingItems fuel p
      .ok (item :: items, p)
    | _ => .ok ([], p)

def blockEntries : Nat → Parsing → Except Fault (List (Node × Node) × Parsing)
  | 0, _ => .error .malformed
  | fuel + 1, p => do
    let stops : List Token := [.key, .value, .blockEnd]
    match (← p.peek) with
    | .key => do
      let (key, p) ← nodeUnless fuel .afterKey stops p.next
      let (value, p) ← valueNode fuel .afterKey stops p
      let (entries, p) ← blockEntries fuel p
      .ok ((key, value) :: entries, p)
    | .blockEnd => .ok ([], p.next)
    | _ => .error .malformed

/-- The items of a sequence in brackets, up to its end. An item with a colon is a mapping
of one entry. -/
def flowItems : Nat → Bool → Parsing → Except Fault (List Node × Parsing)
  | 0, _, _ => .error .malformed
  | fuel + 1, first, p => do
    if (← p.ahead [.flowSequenceEnd]) then .ok ([], p.next)
    else do
      let p ← comma first p
      match (← p.peek) with
      | .key => do
        let (key, p) ←
          nodeUnless fuel .flow [.value, .flowEntry, .flowSequenceEnd] p.next
        let (value, p) ← valueNode fuel .flow [.flowEntry, .flowSequenceEnd] p
        let (items, p) ← flowItems fuel false p
        .ok (.mapping none .mapping [(key, value)] :: items, p)
      | .flowSequenceEnd => .ok ([], p.next)
      | _ => do
        let (item, p) ← node fuel .flow p
        let (items, p) ← flowItems fuel false p
        .ok (item :: items, p)

/-- The entries of a mapping in braces, up to its end. A key without a colon has an empty
value. -/
def flowEntries : Nat → Bool → Parsing → Except Fault (List (Node × Node) × Parsing)
  | 0, _, _ => .error .malformed
  | fuel + 1, first, p => do
    if (← p.ahead [.flowMappingEnd]) then .ok ([], p.next)
    else do
      let p ← comma first p
      match (← p.peek) with
      | .key => do
        let (key, p) ← nodeUnless fuel .flow [.value, .flowEntry, .flowMappingEnd] p.next
        let (value, p) ← valueNode fuel .flow [.flowEntry, .flowMappingEnd] p
        let (entries, p) ← flowEntries fuel false p
        .ok ((key, value) :: entries, p)
      | .flowMappingEnd => .ok ([], p.next)
      | _ => do
        let (key, p) ← node fuel .flow p
        let (entries, p) ← flowEntries fuel false p
        .ok ((key, .empty) :: entries, p)

end

/-- The directives ahead: at most one version, which must be 1, and the meanings of tag
handles, none of them twice. -/
def directives : Nat → Bool → List (List Char × List Char) → Parsing →
    Except Fault (List (List Char × List Char) × Parsing)
  | 0, _, _, _ => .error .malformed
  | fuel + 1, versioned, handles, p => do
    match (← p.peek) with
    | .version major =>
      if versioned || major != 1 then .error .malformed
      else directives fuel true handles p.next
    | .tagHandle handle meaning =>
      if (handles.lookup handle).isSome then .error .malformed
      else directives fuel versioned ((handle, meaning) :: handles) p.next
    | .directive => directives fuel versioned handles p.next
    | _ => .ok (handles, p)

def skipEnds : Nat → Parsing → Except Fault Parsing
  | 0, p => .ok p
  | fuel + 1, p => do
    match (← p.peek) with
    | .documentEnd => skipEnds fuel p.next
    | _ => .ok p

/-- The start of a document: none when the text is over. -/
def explicitStart (p : Parsing) : Except Fault (Option Parsing) := do
  let p ← p.skipEnds (p.tokens.length + 1)
  match (← p.peek) with
  | .streamEnd => .ok none
  | _ => do
    let (handles, p) ← p.directives (p.tokens.length + 1) false []
    match (← p.peek) with
    | .documentStart => .ok (some { p.next with handles := handles ++ standardHandles })
    | _ => .error .malformed

def ending (p : Parsing) : Except Fault Unit := do
  match (← p.explicitStart) with
  | none => .ok ()
  | some _ => .error .malformed

def fuelFor (tokens : List Token) : Nat := 4 * tokens.length + 8

/-- The node of the one document of a text; none when the text has no document. -/
def document (tokens : List Token) : Except Fault (Option Node) := do
  let p : Parsing := ⟨tokens, standardHandles, []⟩
  let fuel := fuelFor tokens
  match (← p.peek) with
  | .streamEnd => .ok none
  | .directive | .version _ | .tagHandle _ _ | .documentStart => do
    match (← p.explicitStart) with
    | none => .ok none
    | some p => do
      let (root, p) ←
        match (← p.peek) with
        | .directive | .version _ | .tagHandle _ _ | .documentStart | .documentEnd
        | .streamEnd => pure (.empty, p)
        | _ => node fuel .block p
      p.ending
      .ok (some root)
  | _ => do
    let (root, p) ← node fuel .block p
    p.ending
    .ok (some root)

end Parsing

def Node.ofText (s : List Char) : Except Fault (Option Node) := do
  let tokens ← Token.ofText s
  Parsing.document tokens

end ClusterManifest.Yaml
