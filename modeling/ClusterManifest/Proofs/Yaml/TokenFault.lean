import ClusterManifest.Proofs.Result
import ClusterManifest.Yaml.Node.Document

/-! What the reading of tokens can fail with. All that is wrong with a text makes it malformed,
but for two things that are found out too late: an escape in double quotes that is no character,
and the number of a version that has too many digits. -/

namespace ClusterManifest.Yaml

/-- The faults that tokens are read or parsed with. -/
inductive Fault.OfToken : Fault → Prop
  | malformed : OfToken .malformed
  | version (fault : Text.Numeral.Fault) : OfToken (.numeral fault)
  | codePoint : OfToken .codePoint
  | codePointRange : OfToken .codePointRange

/-- A step ends with a result of a kind, or with a fault of tokens. -/
abbrev Scans {α : Type} (good : α → Prop) (step : Except Fault α) : Prop :=
  Ends Fault.OfToken good step

theorem ends_malformed {α : Type} {good : α → Prop} : Scans good (.error .malformed) :=
  .error .malformed

/-- A token that says where a text cannot be looked at says so with a fault of tokens. -/
def Token.Intact : Token → Prop
  | .broken fault => fault.OfToken
  | _ => True

namespace Token

theorem ends_name (c : Cursor) : Scans Any (name c) := by
  unfold name
  dsimp only
  split
  · exact ends_malformed
  · exact .ok trivial

theorem ends_anchorName (c : Cursor) : Scans Any (anchorName c) := by
  apply (ends_name c).bind
  rintro ⟨run, after⟩ -
  dsimp only
  split
  · exact .ok trivial
  · exact ends_malformed

theorem ends_escapedBytes (fuel : Nat) (c : Cursor) : Scans Any (escapedBytes fuel c) := by
  induction fuel generalizing c with
  | zero => exact ends_malformed
  | succ fuel ih =>
    unfold escapedBytes
    split
    · split
      · apply (ih (c.skip 3)).bind
        exact fun _ _ => .ok trivial
      · exact ends_malformed
    · exact .ok trivial

theorem ends_tagChars (fuel : Nat) (c : Cursor) : Scans Any (tagChars fuel c) := by
  induction fuel generalizing c with
  | zero => exact .ok trivial
  | succ fuel ih =>
    unfold tagChars
    split
    · apply (ends_escapedBytes _ c).bind
      rintro ⟨bytes, c⟩ -
      dsimp only
      split
      · exact ends_malformed
      · apply (ih c).bind
        exact fun _ _ => .ok trivial
    · dsimp only
      split
      · exact .ok trivial
      · apply (ih _).bind
        exact fun _ _ => .ok trivial

theorem ends_tagText (c : Cursor) : Scans Any (tagText c) := by
  unfold tagText
  split
  · exact ends_tagChars _ c
  · exact ends_malformed

theorem ends_handle (c : Cursor) : Scans Any (handle c) := by
  unfold handle
  split
  · exact ends_malformed
  · split
    · exact .ok trivial
    · dsimp only
      split
      · exact .ok trivial
      · exact ends_malformed

theorem ends_tagName (c : Cursor) : Scans Any (tagName c) := by
  have last : ∀ (tag : TagName) (after : Cursor),
      Scans Any (if isSpaceOrEnd after.peek then .ok (tag, after) else .error .malformed) := by
    intro tag after
    split
    · exact .ok trivial
    · exact ends_malformed
  have suffix : ∀ (start : List Char) (c : Cursor), Scans Any (tagText c >>= fun read =>
      if isSpaceOrEnd read.2.peek then .ok (TagName.mk (some start) read.1, read.2)
      else .error .malformed) :=
    fun start c => (ends_tagText c).bind (fun _ _ => last _ _)
  unfold tagName
  dsimp only
  split
  · apply (ends_tagText _).bind
    rintro ⟨suffix, after⟩ -
    dsimp only
    split
    · exact last _ _
    · exact ends_malformed
  · split
    · exact last _ _
    · split
      · apply (ends_handle c).bind
        exact fun start _ => suffix start.1 start.2
      · exact suffix ['!'] c.next

theorem ends_versionNumber (c : Cursor) : Scans Any (versionNumber c) := by
  unfold versionNumber
  dsimp only
  split
  · exact ends_malformed
  · split
    · exact .ok trivial
    · exact .error (.version _)

theorem ends_versionLine (c : Cursor) : Scans (fun line => line.1.Intact) (versionLine c) := by
  apply (ends_versionNumber _).bind
  rintro ⟨major, c⟩ -
  dsimp only
  split
  · exact ends_malformed
  · apply (ends_versionNumber _).bind
    rintro ⟨_, c⟩ -
    dsimp only
    split
    · exact .ok trivial
    · exact ends_malformed

theorem ends_tagHandleLine (c : Cursor) : Scans (fun line => line.1.Intact) (tagHandleLine c) := by
  apply (ends_handle _).bind
  rintro ⟨start, c⟩ -
  dsimp only
  split
  · exact ends_malformed
  · apply (ends_tagText _).bind
    rintro ⟨meaning, c⟩ -
    dsimp only
    split
    · exact .ok trivial
    · exact ends_malformed

theorem ends_directiveLine (c : Cursor) :
    Scans (fun line => line.1.Intact) (directiveLine c) := by
  have last : ∀ (token : Token) (c : Cursor), token.Intact →
      Scans (fun line : Token × Cursor => line.1.Intact)
        (if isLineEnd (c.skipWhile (· == ' ')).skipComment.peek then
          .ok (token, (c.skipWhile (· == ' ')).skipComment.lineBreak.2)
        else .error .malformed) := by
    intro token c intact
    split
    · exact .ok intact
    · exact ends_malformed
  unfold directiveLine
  apply (ends_name _).bind
  rintro ⟨kind, c⟩ -
  dsimp only
  split
  · exact ends_malformed
  · split
    · exact (ends_versionLine c).bind (fun line intact => last line.1 line.2 intact)
    · split
      · exact (ends_tagHandleLine c).bind (fun line intact => last line.1 line.2 intact)
      · exact last _ _ trivial

theorem ends_quotedBreaks (fuel : Nat) (c : Cursor) : Scans Any (quotedBreaks fuel c) := by
  induction fuel generalizing c with
  | zero => exact ends_malformed
  | succ fuel ih =>
    unfold quotedBreaks
    split
    · exact ends_malformed
    · dsimp only
      split
      · exact (ih _).bind (fun _ _ => .ok trivial)
      · exact .ok trivial

theorem ends_quotedSpace (c : Cursor) : Scans Any (quotedSpace c) := by
  unfold quotedSpace
  dsimp only
  split
  · exact ends_malformed
  · split
    · exact (ends_quotedBreaks _ _).bind (fun _ _ => .ok trivial)
    · exact .ok trivial

theorem ends_escapedCode (width : Nat) (c : Cursor) : Scans Any (escapedCode width c) := by
  unfold escapedCode
  dsimp only
  split
  · exact ends_malformed
  · split
    · exact .ok trivial
    · split
      · exact .error .codePoint
      · exact .error .codePointRange

theorem ends_escaped (c : Cursor) : Scans Any (escaped c) := by
  unfold escaped
  split
  · exact .ok trivial
  · split
    · exact (ends_escapedCode _ _).bind (fun _ _ => .ok trivial)
    · split
      · exact (ends_quotedBreaks _ _).bind (fun _ _ => .ok trivial)
      · exact ends_malformed

theorem ends_doubleQuoted (fuel : Nat) (c : Cursor) : Scans Any (doubleQuoted fuel c) := by
  induction fuel generalizing c with
  | zero => exact ends_malformed
  | succ fuel ih =>
    have more : ∀ (codes : List Text.CodePoint) (c : Cursor),
        Scans Any (doubleQuoted fuel c >>= fun read => .ok (codes ++ read.1, read.2)) :=
      fun codes c => (ih c).bind (fun _ _ => .ok trivial)
    unfold doubleQuoted
    split
    · exact .ok trivial
    · split
      · exact (ends_escaped _).bind (fun read _ => more read.1 read.2)
      · split
        · exact (ends_quotedSpace c).bind
            (fun read _ => more (read.1.map Text.CodePoint.ofChar) read.2)
        · exact (ih _).bind (fun _ _ => .ok trivial)

theorem ends_singleQuoted (fuel : Nat) (c : Cursor) : Scans Any (singleQuoted fuel c) := by
  induction fuel generalizing c with
  | zero => exact ends_malformed
  | succ fuel ih =>
    unfold singleQuoted
    split
    · split
      · exact (ih _).bind (fun _ _ => .ok trivial)
      · exact .ok trivial
    · split
      · exact (ends_quotedSpace c).bind (fun read _ => (ih read.2).bind (fun _ _ => .ok trivial))
      · exact (ih _).bind (fun _ _ => .ok trivial)

theorem ends_quotedScalar (c : Cursor) :
    Scans (fun read => read.1.Intact) (quotedScalar c) := by
  unfold quotedScalar
  split
  · exact (ends_doubleQuoted _ _).bind (fun _ _ => .ok trivial)
  · exact (ends_singleQuoted _ _).bind (fun _ _ => .ok trivial)

theorem ends_increment (ch : Char) : Scans Any (increment? ch) := by
  unfold increment?
  split
  · exact .ok trivial
  · split
    · exact ends_malformed
    · exact .ok trivial

theorem ends_blockHeader (c : Cursor) : Scans Any (blockHeader c) := by
  have last : ∀ (chomping : Chomping) (increment : Option Nat) (c : Cursor),
      Scans Any (if !isSpaceOrEnd c.peek then .error .malformed
        else if !isLineEnd (c.skipWhile (· == ' ')).skipComment.peek then .error .malformed
        else .ok (chomping, increment, (c.skipWhile (· == ' ')).skipComment.lineBreak.2)) := by
    intro chomping increment c
    split
    · exact ends_malformed
    · split
      · exact ends_malformed
      · exact .ok trivial
  unfold blockHeader
  dsimp only
  split
  · apply (ends_increment _).bind
    intro increment _
    cases increment <;> exact last _ _ _
  · apply (ends_increment _).bind
    intro increment _
    cases increment with
    | none => exact last _ _ _
    | some n =>
      dsimp only
      split <;> exact last _ _ _

theorem ends_blockScalar (parent : Int) (c : Cursor) :
    Scans (fun read => read.1.Intact) (blockScalar parent c) := by
  apply (ends_blockHeader c.next).bind
  exact fun _ _ => .ok trivial

end Token

def AllIntact (tokens : List Token) : Prop := ∀ token ∈ tokens, token.Intact

theorem AllIntact.append {first second : List Token} (left : AllIntact first)
    (right : AllIntact second) : AllIntact (first ++ second) :=
  List.forall_mem_append.mpr ⟨left, right⟩

theorem AllIntact.cons {token : Token} {tokens : List Token} (here : token.Intact)
    (rest : AllIntact tokens) : AllIntact (token :: tokens) :=
  List.forall_mem_cons.mpr ⟨here, rest⟩

theorem AllIntact.of_subset {tokens other : List Token} (intact : AllIntact tokens)
    (subset : other ⊆ tokens) : AllIntact other :=
  fun token among => intact token (subset among)

theorem intact_nil : AllIntact [] := fun _ among => nomatch among

namespace Lexing

variable {l : Lexing} {token : Token}

/-- A step on a state with intact tokens ends with one, or with a fault of tokens. -/
abbrev Keeps (step : Except Fault Lexing) : Prop := Scans (fun l => AllIntact l.tokens) step

theorem intact_emit (intact : AllIntact l.tokens) (here : token.Intact) :
    AllIntact (l.emit token).tokens :=
  intact.append (intact_nil.cons here)

theorem intact_insertAt (token : Token) (intact : AllIntact l.tokens) (here : token.Intact)
    (position : Nat) :
    AllIntact (l.insertAt position token).tokens :=
  (intact.of_subset (List.take_subset ..)).append
    ((intact.of_subset (List.drop_subset ..)).cons here)

theorem keeps_dropKey (intact : AllIntact l.tokens) : Keeps l.dropKey := by
  unfold dropKey
  split
  · split
    · exact ends_malformed
    · exact .ok intact
  · exact .ok intact

theorem keeps_dropStale (intact : AllIntact l.tokens) : Keeps l.dropStale := by
  unfold dropStale
  split
  · exact ends_malformed
  · exact .ok intact

theorem keeps_saveKey (intact : AllIntact l.tokens) : Keeps l.saveKey := by
  unfold saveKey
  split
  · exact .ok intact
  · exact (keeps_dropKey intact).bind (fun _ intact => .ok intact)

theorem intact_unwind (column : Int) (fuel : Nat) (intact : AllIntact l.tokens) :
    AllIntact (l.unwind column fuel).tokens := by
  induction fuel generalizing l with
  | zero => exact intact
  | succ fuel ih =>
    unfold unwind
    split
    · exact ih (intact_emit intact trivial)
    · exact intact

theorem tokens_skipToToken (fuel : Nat) (l : Lexing) : (l.skipToToken fuel).tokens = l.tokens := by
  induction fuel generalizing l with
  | zero => rfl
  | succ fuel ih =>
    unfold skipToToken
    dsimp only
    split
    · exact ih _
    · rfl

theorem tokens_skipMark (l : Lexing) : l.skipMark.tokens = l.tokens := by
  unfold skipMark
  split <;> rfl

theorem keeps_finish (intact : AllIntact l.tokens) : Keeps l.finish :=
  (keeps_dropKey (intact_unwind _ _ intact)).bind
    (fun _ intact => .ok (intact.append (intact_nil.cons trivial)))

theorem keeps_directive (intact : AllIntact l.tokens) : Keeps l.directive := by
  apply (keeps_dropKey (intact_unwind _ _ intact)).bind
  intro l intact
  exact (Token.ends_directiveLine _).bind (fun _ here => .ok (intact_emit intact here))

theorem keeps_separator (token : Token) (intact : AllIntact l.tokens) (here : token.Intact) :
    Keeps (l.separator token) :=
  (keeps_dropKey (intact_unwind _ _ intact)).bind
    (fun _ intact => .ok (intact.append (intact_nil.cons here)))

theorem keeps_openBracket (token : Token) (intact : AllIntact l.tokens) (here : token.Intact) :
    Keeps (l.openBracket token) :=
  (keeps_saveKey intact).bind (fun _ intact => .ok (intact.append (intact_nil.cons here)))

theorem keeps_closeBracket (token : Token) (intact : AllIntact l.tokens) (here : token.Intact) :
    Keeps (l.closeBracket token) :=
  (keeps_dropKey intact).bind (fun _ intact => .ok (intact.append (intact_nil.cons here)))

/-- A sign before an entry ends a pending key; its token, and that of a block that it starts, are
intact. -/
theorem keeps_sign (start sign : Token) {allowed : Lexing → Bool} (intact : AllIntact l.tokens)
    (block : start.Intact) (here : sign.Intact) (column : Nat) :
    Keeps (do
      let l ←
        if l.depth != 0 then pure l
        else if !l.keyAllowed then .error .malformed
        else if l.indents column then pure ((l.enter column).emit start)
        else pure l
      let l ← { l with keyAllowed := allowed l }.dropKey
      .ok (l.take 1 sign)) := by
  have last : ∀ l : Lexing, AllIntact l.tokens →
      Keeps ({ l with keyAllowed := allowed l }.dropKey >>= fun l => .ok (l.take 1 sign)) := by
    intro l intact
    have dropped := keeps_dropKey (l := { l with keyAllowed := allowed l }) intact
    exact dropped.bind (fun _ intact => .ok (intact.append (intact_nil.cons here)))
  dsimp only
  split
  · exact last l intact
  · split
    · exact ends_malformed
    · split
      · exact last _ (intact_emit intact block)
      · exact last l intact

theorem keeps_flowEntry (intact : AllIntact l.tokens) : Keeps l.flowEntry := by
  have dropped := keeps_dropKey (l := { l with keyAllowed := true }) intact
  exact dropped.bind
    (fun _ intact => .ok (intact.append (intact_nil.cons trivial)))

theorem keeps_blockEntry (intact : AllIntact l.tokens) : Keeps l.blockEntry :=
  keeps_sign .blockSequenceStart .blockEntry intact trivial trivial l.cursor.column

theorem keeps_explicitKey (intact : AllIntact l.tokens) : Keeps l.explicitKey :=
  keeps_sign .blockMappingStart .key intact trivial trivial l.cursor.column

theorem keeps_colon (intact : AllIntact l.tokens) : Keeps l.colon := by
  unfold colon
  split
  · next key _ =>
    have inserted : AllIntact (l.forgetKey.insertAt key.position .key).tokens :=
      intact_insertAt .key intact trivial key.position
    unfold colonAfter
    dsimp only
    split
    · have started := intact_insertAt .blockMappingStart inserted trivial key.position
      exact .ok (started.append (intact_nil.cons trivial))
    · exact .ok (inserted.append (intact_nil.cons trivial))
  · exact keeps_sign .blockMappingStart .value intact trivial trivial l.cursor.column

theorem keeps_keyLike {read : Cursor → Except Fault (Token × Cursor)}
    (intact : AllIntact l.tokens) (reads : ∀ c, Scans (fun found => found.1.Intact) (read c)) :
    Keeps (l.keyLike read) := by
  apply (keeps_saveKey intact).bind
  intro l intact
  exact (reads l.cursor).bind (fun _ here => .ok (intact_emit intact here))

theorem keeps_plain (intact : AllIntact l.tokens) : Keeps l.plain :=
  (keeps_saveKey intact).bind (fun _ intact => .ok (intact_emit intact trivial))

theorem keeps_block (intact : AllIntact l.tokens) : Keeps l.block := by
  have dropped := keeps_dropKey (l := { l with keyAllowed := true }) intact
  apply dropped.bind
  intro l intact
  exact (Token.ends_blockScalar _ _).bind (fun _ here => .ok (intact_emit intact here))

theorem keeps_token (intact : AllIntact l.tokens) : Keeps l.token := by
  have anchored : ∀ c : Cursor, Scans (fun found : Token × Cursor => found.1.Intact)
      ((Token.anchorName c.next).map (fun read => (.anchor read.1, read.2))) :=
    fun c => (Token.ends_anchorName c.next).map (fun _ _ => trivial)
  have aliased : ∀ c : Cursor, Scans (fun found : Token × Cursor => found.1.Intact)
      ((Token.anchorName c.next).map (fun read => (.alias read.1, read.2))) :=
    fun c => (Token.ends_anchorName c.next).map (fun _ _ => trivial)
  have tagged : ∀ c : Cursor, Scans (fun found : Token × Cursor => found.1.Intact)
      ((Token.tagName c).map (fun read => (.tag read.1, read.2))) :=
    fun c => (Token.ends_tagName c).map (fun _ _ => trivial)
  unfold Lexing.token
  extract_lets c ch inFlow following
  apply Ends.ite (keeps_finish intact)
  apply Ends.ite (keeps_directive intact)
  apply Ends.ite (keeps_separator .documentStart intact trivial)
  apply Ends.ite (keeps_separator .documentEnd intact trivial)
  apply Ends.ite (keeps_openBracket .flowSequenceStart intact trivial)
  apply Ends.ite (keeps_openBracket .flowMappingStart intact trivial)
  apply Ends.ite (keeps_closeBracket .flowSequenceEnd intact trivial)
  apply Ends.ite (keeps_closeBracket .flowMappingEnd intact trivial)
  apply Ends.ite (keeps_flowEntry intact)
  apply Ends.ite (keeps_blockEntry intact)
  apply Ends.ite (keeps_explicitKey intact)
  apply Ends.ite (keeps_colon intact)
  apply Ends.ite (keeps_keyLike intact aliased)
  apply Ends.ite (keeps_keyLike intact anchored)
  apply Ends.ite (keeps_keyLike intact tagged)
  apply Ends.ite (keeps_block intact)
  apply Ends.ite (keeps_keyLike intact Token.ends_quotedScalar)
  exact Ends.ite (keeps_plain intact) ends_malformed

theorem ends_run (fuel : Nat) (intact : AllIntact l.tokens) : Scans AllIntact (l.run fuel) := by
  induction fuel generalizing l with
  | zero => exact ends_malformed
  | succ fuel ih =>
    unfold run
    apply (keeps_dropStale intact).bind
    intro ready intact
    have skipped :
        AllIntact (ready.skipMark.skipToToken (ready.cursor.rest.length + 1)).tokens := by
      rw [tokens_skipToToken, tokens_skipMark]
      exact intact
    apply (keeps_dropStale skipped).bind
    intro next kept
    have step : Keeps (next.unwindTo next.cursor.column).token :=
      keeps_token (intact_unwind _ _ kept)
    dsimp only
    split
    · next l made =>
      have kept := step.result made
      split
      · exact .ok kept
      · exact ih kept
    · exact ends_malformed
    · next fault _ failed =>
      have taken := intact.of_subset (List.take_subset ready.firstPending ready.tokens)
      exact .ok (taken.append (intact_nil.cons (step.fault failed)))

end Lexing

theorem Token.ends_ofText (s : List Char) : Scans AllIntact (Token.ofText s) :=
  Lexing.ends_run _ intact_nil

end ClusterManifest.Yaml
