import ClusterManifest.Proofs.Yaml.Key
import ClusterManifest.Proofs.Yaml.Numeral
import ClusterManifest.Proofs.Yaml.Printed

/-! A printed document is read as its tokens, unless a name in it is too long to stand before
its colon: then it is not read at all. The induction is on the document; what it carries from
part to part is where the reader stands and which blocks are open. -/

namespace ClusterManifest.Yaml

open Lexing Printer

theorem writePhrase_written (split : Bool) {indent : Nat} (column : Nat) (indented : 0 < indent)
    (shallow : indent < Style.width) (phrase : Phrase) :
    Written indent (Style.writePhrase split indent column phrase) (.ofPhrase phrase)
      (standsPlain phrase) := by
  cases phrase with
  | text value => exact Style.write_written split column indented shallow value.toList
  | illFormed value =>
    have written := Style.inDoubleQuotes_written split column indented shallow value.codes
    rwa [Content.ofCodes_illFormed] at written

theorem Written.startsToken {indent : Nat} {w : List Char} {content : Content} {plain : Bool}
    (written : Written indent w content plain) (t : List Char) : StartsToken (w ++ t) := by
  cases written with
  | plain written starts =>
    obtain ⟨r, w', s', run, rfl, _, _⟩ := written.firstRun
    obtain ⟨x, v, rfl⟩ := List.exists_cons_of_ne_nil run.nonempty
    obtain ⟨printable, text⟩ := run.printable x (List.mem_cons_self ..)
    have unmarked := starts.unmarked
    exact startsToken_cons printable text (by simpa using unmarked)
  | single => exact startsToken_cons rfl (by decide) (by decide)
  | double => exact startsToken_cons rfl (by decide) (by decide)

theorem written_null (indent : Nat) :
    Written indent "null".toList (.text "null".toList) true := by
  have printable : ("null".toList.all fun x => isPrintable x && x != ' ') = true := rfl
  have run : IsRun "null".toList := by
    refine ⟨by decide, fun x within => ?_, by decide⟩
    simpa using List.all_eq_true.mp printable x within
  exact .plain (.run run) ⟨⟨'n', "ull".toList, rfl, rfl, .inl rfl⟩, by decide, by decide⟩

namespace Lexing

/-- The reader stands behind a lead in a collection at an indentation. -/
structure AtLead (l : Lexing) (lead : Lead) (indent : Nat) : Prop where
  depth : l.depth = 0
  keys : l.keys = []
  block : l.indent = indent
  inside : indent < l.cursor.column
  sign : lead = .sign → l.keyAllowed = true ∧ l.cursor.column = indent + 1

theorem Takes.reads {l m base : Lexing} {fits : Prop} {tokens tokens' : List Token}
    {column : Nat} {t : List Char} (takes : Takes m base fits tokens column t)
    (arrived : l.arrive = .ok m) (within : m.cursor.rest.length ≤ l.cursor.rest.length)
    (same : ∀ c, (base.after tokens c).unwindTo column = (l.after tokens' c).unwindTo column) :
    Reads l fits tokens' column t := by
  obtain ⟨c, rest, place, goes⟩ := takes
  refine ⟨c, rest, place, ?_⟩
  rw [← same]
  exact ((Leads.passes (.here arrived within)).goes goes).congr (iff_of_eq (true_and _))

theorem AtLead.next_inside {l : Lexing} {lead : Lead} {indent : Nat} (behind : AtLead l lead indent)
    {t : List Char} (here : l.cursor.rest = ' ' :: t) : l.indent < (l.cursor.next.column : Int) := by
  have := behind.inside
  rw [behind.block, Cursor.next_of_printable here rfl]
  dsimp only
  omega

/-- A value on the line of its lead stands behind one space. -/
theorem AtLead.arrive {l : Lexing} {lead : Lead} {indent : Nat} (behind : AtLead l lead indent)
    {t : List Char} (here : l.cursor.rest = ' ' :: t) (starts : StartsToken t) :
    l.arrive = .ok { l with cursor := l.cursor.next } ∧
      l.cursor.next = ⟨t, l.cursor.index + 1, l.cursor.line, l.cursor.column + 1⟩ := by
  have next := Cursor.next_of_printable here rfl
  have arrived := arrive_spaces (n := 1) behind.keys here starts
  have inside := Int.le_of_lt (behind.next_inside here)
  rw [← Cursor.skip_one] at inside
  rw [unwindTo_of_le (l := { l with cursor := l.cursor.skip 1 }) inside] at arrived
  exact ⟨arrived, next⟩

theorem AtLead.reads_scalar {l : Lexing} {lead : Lead} {indent k n : Nat} {w t : List Char}
    {content : Content} {plain : Bool} (behind : AtLead l lead indent)
    (written : Written k w content plain)
    (here : l.cursor.rest = ' ' :: (w ++ '\n' :: (List.replicate n ' ' ++ t)))
    (starts : StartsToken t) (within : n ≤ indent) (fold : indent < k) :
    Reads l True [.scalar content plain] n t := by
  obtain ⟨arrived, next⟩ := behind.arrive here (written.startsToken _)
  have rest : l.cursor.next.rest = w ++ '\n' :: (List.replicate n ' ' ++ t) := by rw [next]
  have takes := takes_scalar (m := { l with cursor := l.cursor.next }) written behind.depth
    behind.keys rest starts (behind.next_inside here) (by simp only [behind.block]; omega)
    (by simp only [behind.block]; omega)
  exact takes.reads arrived (by simp [rest, here]) (fun _ => rfl)

theorem AtLead.reads_brackets {l : Lexing} {lead : Lead} {indent n : Nat} {t : List Char}
    {first last : Token} {x y : Char} (behind : AtLead l lead indent)
    (here : l.cursor.rest = ' ' :: x :: y :: '\n' :: (List.replicate n ' ' ++ t))
    (starts : StartsToken t)
    (opens : ∀ l : Lexing, l.cursor.peek = x → l.cursor.rest ≠ [] →
      l.token = l.openBracket first)
    (closes : ∀ l : Lexing, l.cursor.peek = y → l.cursor.rest ≠ [] →
      l.token = l.closeBracket last)
    (printable : isPrintable x = true ∧ isPrintable y = true)
    (other : (x ≠ ' ' ∧ x ≠ '#') ∧ y ≠ ' ' ∧ y ≠ '#')
    (unfinished : first ≠ .streamEnd ∧ last ≠ .streamEnd) :
    Reads l True [first, last] n t := by
  obtain ⟨arrived, next⟩ :=
    behind.arrive here (startsToken_cons printable.1 other.1.1 other.1.2)
  have rest : l.cursor.next.rest = x :: y :: '\n' :: (List.replicate n ' ' ++ t) := by rw [next]
  have takes := takes_brackets (m := { l with cursor := l.cursor.next }) behind.depth
    behind.keys (behind.next_inside here) rest starts opens closes printable other.2 unfinished
  exact takes.reads arrived (by simp [rest, here]) (fun _ => rfl)

theorem token_brackets (l : Lexing) (full : l.cursor.rest ≠ []) :
    (l.cursor.peek = '[' → l.token = l.openBracket .flowSequenceStart) ∧
      (l.cursor.peek = ']' → l.token = l.closeBracket .flowSequenceEnd) ∧
      (l.cursor.peek = '\x7b' → l.token = l.openBracket .flowMappingStart) ∧
      (l.cursor.peek = '\x7d' → l.token = l.closeBracket .flowMappingEnd) := by
  obtain ⟨x, t, rest⟩ := List.exists_cons_of_ne_nil full
  rw [Cursor.peek_of_rest rest]
  refine ⟨?_, ?_, ?_, ?_⟩ <;>
    · rintro rfl
      simp [token, Cursor.peek, rest, Cursor.atMark]

/-- Rounds that take one part of a collection go on with the next ones, which find the
collection open. -/
theorem Takes.append {m base : Lexing} {first second : Prop} {tokens more : List Token}
    {i n : Nat} {t t' : List Char} (takes : Takes m base first tokens i t)
    (entry : AtEntry base) (block : base.indent = i) (start : Token)
    (next : ∀ m', AtEntry m' → m'.cursor.column = i → m'.indent = i → m'.cursor.rest = t →
      Takes m' (m'.opened start) second more n t') :
    Takes m base (first ∧ second) (tokens ++ more) n t' := by
  obtain ⟨c, rest, place, goes⟩ := takes
  have still : (base.after tokens c).unwindTo i = base.after tokens c :=
    unwindTo_of_le (Int.le_of_eq block)
  have takes' := next (base.after tokens c) ⟨entry.depth, rfl, rfl⟩ place block rest
  have inside : ((base.after tokens c).cursor.column : Int) ≤ (base.after tokens c).indent := by
    have same : base.indent = c.column := by rw [place, block]
    exact Int.le_of_eq same.symm
  rw [opened_of_le inside] at takes'
  obtain ⟨c', rest', place', goes'⟩ := takes'
  rw [still] at goes
  refine ⟨c', rest', place', (goes.trans ?_)⟩
  have same : (base.after tokens c).after more c' = base.after (tokens ++ more) c' := by
    simp [after]
  rwa [same] at goes'

end Lexing

/-- A value is read behind its lead, whatever comes on the lines after it. -/
def ValueReads (d : Document) : Prop :=
  ∀ ⦃l : Lexing⦄ ⦃lead : Lead⦄ ⦃indent column n : Nat⦄ ⦃w t : List Char⦄,
    value indent column lead d = .ok w → AtLead l lead indent →
    l.cursor.rest = w ++ '\n' :: (List.replicate n ' ' ++ t) → StartsToken t → n ≤ indent →
    indent + 2 * d.height < Style.width → Reads l (KeysFit d) (valueTokens lead d) n t

/-- Some items are read from the first hyphen on. -/
def ItemsTake (items : List Document) : Prop :=
  ∀ ⦃m : Lexing⦄ ⦃i n : Nat⦄ ⦃w t : List Char⦄,
    moreItems i items = .ok (Style.newLine i ++ w) → AtEntry m → m.cursor.column = i →
    m.indent ≤ i → m.cursor.rest = w ++ '\n' :: (List.replicate n ' ' ++ t) → StartsToken t →
    n ≤ i → i + 2 * Document.heightOfItems items < Style.width →
    Takes m (m.opened .blockSequenceStart) (KeysFitItems items) (itemTokens items) n t

/-- Some fields are read from the first name on. -/
def FieldsTake (fields : List (String × Document)) : Prop :=
  ∀ ⦃m : Lexing⦄ ⦃i n : Nat⦄ ⦃w t : List Char⦄,
    moreFields i fields = .ok (Style.newLine i ++ w) → AtEntry m → m.cursor.column = i →
    m.indent ≤ i → m.cursor.rest = w ++ '\n' :: (List.replicate n ' ' ++ t) → StartsToken t →
    n ≤ i → i + 2 * Document.heightOfFields fields < Style.width →
    Takes m (m.opened .blockMappingStart) (KeysFitFields fields) (fieldTokens fields) n t

/-- In a collection that is open at the place, or is opened there, parts stand at its
indentation. -/
theorem Lexing.AtEntry.opened_indent {m : Lexing} {i : Nat} (place : m.cursor.column = i)
    (inside : m.indent ≤ i) (start : Token) : (m.opened start).indent = i := by
  by_cases further : m.indent < m.cursor.column
  · rw [opened_of_lt _ further, place]
  · rw [opened_of_le (Int.not_lt.mp further)]
    omega

theorem item_takes {item : Document} (reads : ValueReads item) {m : Lexing} {i n : Nat}
    {w t : List Char} (written : value i (i + 1) .sign item = .ok w) (entry : AtEntry m)
    (place : m.cursor.column = i) (inside : m.indent ≤ i)
    (here : m.cursor.rest = '-' :: w ++ '\n' :: (List.replicate n ' ' ++ t))
    (starts : StartsToken t) (within : n ≤ i) (shallow : i + 2 * item.height < Style.width) :
    Takes m (m.opened .blockSequenceStart) (KeysFit item)
      (.blockEntry :: valueTokens .sign item) n t := by
  obtain ⟨x, v, rfl, blank⟩ := value_head written
  have taken := token_hyphen entry here blank
  have next := Cursor.next_of_printable here rfl
  have opened := entry.opened .blockSequenceStart
  have block := AtEntry.opened_indent place inside .blockSequenceStart
  have behind : AtLead { m.opened .blockSequenceStart with
      cursor := m.cursor.next
      tokens := (m.opened .blockSequenceStart).tokens ++ [.blockEntry] } .sign i := by
    refine ⟨opened.depth, opened.keys, block, ?_, fun _ => ⟨opened.allowed, ?_⟩⟩
    · simp [next, place]
    · simp [next, place]
  have rest : m.cursor.next.rest = x :: v ++ '\n' :: (List.replicate n ' ' ++ t) := by
    rw [next]
    rfl
  obtain ⟨c, atText, column, passes⟩ := reads written behind rest starts within shallow
  refine ⟨c, atText, column, ⟨_, taken, ?_, ?_, ?_⟩⟩
  · simp [Unfinished]
  · simp [next, here]
  · simpa [after] using passes

theorem items_take {item : Document} {items : List Document} (reads : ValueReads item)
    (more : ItemsTake items) : ItemsTake (item :: items) := by
  intro m i n w t written entry place inside here starts within shallow
  obtain ⟨first, rest, item_written, items_written, same⟩ := moreItems_cons written
  rw [List.append_assoc] at same
  cases List.append_cancel_left same
  have tall : item.height ≤ Document.heightOfItems (item :: items) ∧
      Document.heightOfItems items ≤ Document.heightOfItems (item :: items) := by
    simp only [Document.heightOfItems]
    omega
  cases items with
  | nil =>
    simp only [moreItems, Except.ok.injEq] at items_written
    subst items_written
    have takes := item_takes reads item_written entry place inside (by simpa using here) starts
      within (by omega)
    simpa [itemTokens, KeysFitItems] using takes
  | cons item' items =>
    obtain ⟨first', rest', _, _, rfl⟩ := moreItems_cons items_written
    rw [List.append_assoc] at items_written
    have takes := item_takes (n := i)
      (t := '-' :: first' ++ rest' ++ '\n' :: (List.replicate n ' ' ++ t)) reads item_written
      entry place inside (by simpa [Style.newLine] using here)
      (startsToken_cons rfl (by decide) (by decide)) (Nat.le_refl _) (by omega)
    have block := AtEntry.opened_indent place inside .blockSequenceStart
    have opened := entry.opened .blockSequenceStart
    refine takes.append opened block .blockSequenceStart (fun m' entry' place' block' rest => ?_)
    exact more items_written entry' place' (Int.le_of_eq block') (by simpa using rest) starts
      within (by omega)

namespace Lexing

/-- The state behind a scalar that may be a key. -/
def behindScalar (token : Token) (c : Cursor) (m : Lexing) : Lexing :=
  { m with
    cursor := c, tokens := m.tokens ++ [token], keyAllowed := false, keys := [(0, m.keyAt)] }

/-- The state behind the colon of a key. -/
def behindKey (token : Token) (allowed : Bool) (c : Cursor) (m : Lexing) : Lexing :=
  { m.opened .blockMappingStart with
    cursor := c, tokens := (m.opened .blockMappingStart).tokens ++ [.key, token, .value]
    keyAllowed := allowed }

theorem after_behindKey (token : Token) (tokens : List Token) (allowed : Bool) (c d : Cursor)
    (m : Lexing) : (m.behindKey token allowed c).after tokens d =
      (m.opened .blockMappingStart).after (.key :: token :: .value :: tokens) d := by
  simp [behindKey, after]

theorem colon_passes {m target : Lexing} {c : Cursor} {token : Token} {fits : Prop} {x : Char}
    {v : List Char} (entry : AtEntry m) (inside : m.indent ≤ m.cursor.column)
    (here : c.rest = ':' :: x :: v) (blank : isBlankOrEnd x = true)
    (line : c.line = m.cursor.line) (short : c.index ≤ m.cursor.index + keyLimit)
    (ahead : m.cursor.column ≤ c.column)
    (passes : Passes (m.behindKey token false c.next) fits target) :
    Passes (m.behindScalar token c) fits target := by
  have fresh : isStale (m.behindScalar token c).cursor m.keyAt = false := by
    have within : ¬c.index > m.cursor.index + keyLimit := Nat.not_lt.mpr short
    simp [isStale, behindScalar, keyAt, line, within]
  have behind : (m.behindScalar token c).indent ≤ (c.column : Int) :=
    Int.le_trans inside (Int.ofNat_le.mpr ahead)
  have arrived := (arrive_colon (l := m.behindScalar token c) rfl here fresh).trans
    (congrArg Except.ok (unwindTo_of_le behind))
  have taken := token_colonAfter (l := m.behindScalar token c) entry.depth rfl rfl rfl here blank
  have same : ({ m.behindScalar token c with
      cursor := c.next, keyAllowed := false, keys := []
      indent := if m.indent < m.cursor.column then (m.cursor.column : Int) else m.indent
      outer := if m.indent < m.cursor.column then m.indent :: m.outer else m.outer
      tokens := m.tokens ++ (if m.indent < m.cursor.column then [.blockMappingStart] else []) ++
        [.key, token, .value] } : Lexing) = m.behindKey token false c.next := by
    unfold behindKey
    by_cases further : m.indent < m.cursor.column
    · simp [opened_of_lt _ further, further, behindScalar, entry.keys]
    · simp [opened_of_le (Int.not_lt.mp further), further, behindScalar, entry.keys]
  have taken : (m.behindScalar token c).token = .ok (m.behindKey token false c.next) := by
    rw [← same]
    exact taken
  have next := Cursor.next_of_printable here rfl
  refine ((Leads.passes (.here arrived (Nat.le_refl _))).goes
    ⟨_, taken, ?_, ?_, passes⟩).congr (iff_of_eq (true_and _))
  · simp [Unfinished, behindKey]
  · simp [behindKey, behindScalar, next, here]

/-- The colon after a key that is too long has nothing to belong to. -/
theorem colon_fails {m : Lexing} {c : Cursor} (token : Token) {x : Char} {v : List Char}
    (entry : AtEntry m) (inside : m.indent ≤ m.cursor.column)
    (here : c.rest = ':' :: x :: v) (blank : isBlankOrEnd x = true)
    (long : m.cursor.index + keyLimit < c.index) (ahead : m.cursor.column ≤ c.column) :
    Fails (m.behindScalar token c) := by
  have stale : isStale (m.behindScalar token c).cursor m.keyAt = true := by
    simp [isStale, behindScalar, keyAt, long]
  by_cases required : m.keyAt.required = true
  · exact fails_of_arrive (arrive_lost rfl stale required)
  · have behind : ({ m.behindScalar token c with keys := [] } : Lexing).indent ≤ (c.column : Int) :=
      Int.le_trans inside (Int.ofNat_le.mpr ahead)
    have arrived := (arrive_dropped (l := m.behindScalar token c) rfl here stale
      (by simpa using required)).trans (congrArg Except.ok (unwindTo_of_le behind))
    exact fails_of_token arrived
      (token_colonLost (l := { m.behindScalar token c with keys := [] }) entry.depth rfl rfl here
        blank)

end Lexing

theorem field_startsToken {i : Nat} {entry : String × Document} {w : List Char}
    (written : field i entry = .ok w) (shallow : i + 2 < Style.width) (t : List Char) :
    StartsToken (w ++ t) := by
  obtain ⟨name, content⟩ := entry
  cases simple : Style.isSimpleKey name.toList with
  | true =>
    obtain ⟨column, v, _, rfl⟩ := field_simple simple written
    have key := Style.write_written false i (Nat.succ_pos _) shallow name.toList
    rw [List.append_assoc]
    exact key.startsToken _
  | false =>
    obtain ⟨v, _, rfl⟩ := field_marked simple written
    exact startsToken_cons rfl (by decide) (by decide)

/-- A name that stands before its colon is read if it is not too long; if it is, the colon is
not taken for its own. -/
theorem key_takes {name : String} (simple : Style.isSimpleKey name.toList = true)
    {m : Lexing} {i n : Nat} {v t : List Char} {fits : Prop} {tokens : List Token} {x : Char}
    (entry : AtEntry m) (place : m.cursor.column = i) (inside : m.indent ≤ i)
    (here : m.cursor.rest = Style.write false (i + 2) i name.toList ++ ':' :: x :: v)
    (blank : isBlankOrEnd x = true) (shallow : i + 2 < Style.width)
    (reads : ∀ c, c.rest = x :: v → i < c.column →
      Reads (m.behindKey (scalarToken name.toList) false c) fits tokens n t) :
    Takes m (m.opened .blockMappingStart) (KeyFits name.toList ∧ fits)
      (.key :: scalarToken name.toList :: .value :: tokens) n t := by
  have written := Style.write_written false i (Nat.succ_pos _) shallow name.toList
  have printable := Style.write_simpleKey_printable simple (i + 2) i
  have length : (Style.write false (i + 2) i name.toList).length =
      (Style.write false 0 0 name.toList).length :=
    congrArg List.length (Style.write_simpleKey simple (i + 2) i)
  generalize Style.write false (i + 2) i name.toList = w at here written printable length
  have skipped := Cursor.skip_of_printable here printable
  have inside' : m.indent ≤ m.cursor.column := by rw [place]; exact inside
  have taken := token_key written entry here blank inside' (by omega) (Nat.succ_pos _)
  have positive := written.length_pos
  generalize m.cursor.skip w.length = c at skipped taken
  have rest : c.rest = ':' :: x :: v := by rw [skipped]
  have next := Cursor.next_of_printable rest rfl
  obtain ⟨c', atText, column, passes⟩ := reads c.next (by rw [next])
    (by rw [next, skipped, place]; simp only; omega)
  have ahead : m.cursor.column ≤ c.column := by rw [skipped]; exact Nat.le_add_right ..
  have index : c.index = m.cursor.index + w.length := by rw [skipped]
  rw [after_behindKey] at passes
  refine ⟨c', atText, column, ⟨m.behindScalar (scalarToken name.toList) c, taken, ?_, ?_, ?_⟩⟩
  · simp [Unfinished, behindScalar, scalarToken]
  · simp only [behindScalar, rest, here, List.length_append, List.length_cons]
    omega
  · by_cases short : w.length ≤ keyLimit
    · have fit : KeyFits name.toList := fun _ => by rwa [← length]
      have holds : fits ↔ (KeyFits name.toList ∧ fits) := ⟨fun h => ⟨fit, h⟩, fun h => h.2⟩
      exact (colon_passes entry inside' rest blank (by rw [skipped]) (by omega) ahead
        passes).congr holds
    · have fails := colon_fails (scalarToken name.toList) entry inside' rest blank
        (by omega) ahead
      have lacks : ¬(KeyFits name.toList ∧ fits) :=
        fun h => short (by rw [length]; exact h.1 simple)
      exact ⟨fun h => absurd h lacks, fun _ => fails⟩

/-- A scalar behind a mark of its own is read as a key however long it is. -/
theorem marked_takes {m : Lexing} {i n : Nat} {w v t : List Char} {content : Content}
    {plain : Bool} {fits : Prop} {tokens : List Token} {x : Char}
    (written : Written (i + 2) w content plain) (entry : AtEntry m) (place : m.cursor.column = i) (inside : m.indent ≤ i)
    (here : m.cursor.rest = '?' :: ' ' :: w ++ Style.newLine i ++ ':' :: x :: v)
    (blank : isBlankOrEnd x = true)
    (reads : ∀ c, c.rest = x :: v → c.column = i + 1 →
      Reads (m.behindKey (.scalar content plain) true c) fits tokens n t) :
    Takes m (m.opened .blockMappingStart) fits
      (.key :: .scalar content plain :: .value :: tokens) n t := by
  have taken := token_question entry here rfl
  have next := Cursor.next_of_printable here rfl
  have opened := entry.opened .blockMappingStart
  have block := AtEntry.opened_indent place inside .blockMappingStart
  generalize mark : ({ m.opened .blockMappingStart with
    cursor := m.cursor.next
    tokens := (m.opened .blockMappingStart).tokens ++ [.key] } : Lexing) = l at taken
  have behind : AtLead l .sign i := by
    rw [← mark]
    refine ⟨opened.depth, opened.keys, block, ?_, fun _ => ⟨opened.allowed, ?_⟩⟩
    · simp [next, place]
    · simp [next, place]
  have rest : l.cursor.rest =
      ' ' :: (w ++ '\n' :: (List.replicate i ' ' ++ ':' :: x :: v)) := by
    rw [← mark]
    simp [next, Style.newLine]
  obtain ⟨c, atColon, column, passes⟩ := behind.reads_scalar written rest
    (startsToken_cons rfl (by decide) (by decide)) (Nat.le_refl _) (by omega)
  rw [unwindTo_of_le (l := l.after _ c) (Int.le_of_eq behind.block)] at passes
  have colon := token_colonAlone (l := l.after [.scalar content plain] c)
    ⟨behind.depth, rfl, rfl⟩ atColon blank
    (by simp only [after, column, behind.block]; exact Int.le_refl _)
  have next' := Cursor.next_of_printable atColon rfl
  obtain ⟨c', atText, column', passes'⟩ := reads c.next (by rw [next']) (by rw [next', column])
  have same : ({ l.after [.scalar content plain] c with
      cursor := c.next
      tokens := (l.after [.scalar content plain] c).tokens ++ [.value] } : Lexing) =
      m.behindKey (.scalar content plain) true c.next := by
    rw [← mark]
    simp [after, behindKey, opened.keys]
  rw [after_behindKey] at passes'
  refine ⟨c', atText, column', ⟨l, taken, ?_, ?_, ?_⟩⟩
  · simp [Unfinished, ← mark]
  · simp [← mark, next, here]
  · refine (passes.goes ⟨_, colon, ?_, ?_, ?_⟩).congr (iff_of_eq (true_and _))
    · simp [Unfinished]
    · simp [next', after, atColon]
    · rw [← same] at passes'
      exact passes'

theorem field_takes {name : String} {content : Document} (reads : ValueReads content)
    {m : Lexing} {i n : Nat} {w t : List Char}
    (written : field i (name, content) = .ok w) (entry : AtEntry m)
    (place : m.cursor.column = i) (inside : m.indent ≤ i)
    (here : m.cursor.rest = w ++ '\n' :: (List.replicate n ' ' ++ t))
    (starts : StartsToken t) (within : n ≤ i)
    (shallow : i + 2 * content.height < Style.width) :
    Takes m (m.opened .blockMappingStart) (KeyFits name.toList ∧ KeysFit content)
      (.key :: scalarToken name.toList :: .value :: valueTokens (leadOf name) content) n t := by
  have tall := content.one_le_height
  have opened := entry.opened .blockMappingStart
  have block := AtEntry.opened_indent place inside .blockMappingStart
  cases simple : Style.isSimpleKey name.toList with
  | true =>
    obtain ⟨column, v, content_written, rfl⟩ := field_simple simple written
    obtain ⟨x, v, rfl, blank⟩ := value_head content_written
    have lead : leadOf name = .key := by simp [leadOf, simple]
    refine key_takes simple entry place inside (by simpa using here) blank (by omega)
      (fun c rest ahead => ?_)
    have behind : AtLead (m.behindKey (scalarToken name.toList) false c) .key i :=
      ⟨opened.depth, opened.keys, block, ahead, fun h => by cases h⟩
    rw [lead]
    exact reads content_written behind rest starts within shallow
  | false =>
    obtain ⟨v, content_written, rfl⟩ := field_marked simple written
    obtain ⟨x, v, rfl, blank⟩ := value_head content_written
    have lead : leadOf name = .sign := by simp [leadOf, simple]
    have fit : KeyFits name.toList := fun h => by rw [simple] at h; cases h
    have holds : KeysFit content ↔ (KeyFits name.toList ∧ KeysFit content) :=
      ⟨fun h => ⟨fit, h⟩, fun h => h.2⟩
    have inner : i + 2 < Style.width := by omega
    have key := Style.write_written true (i + 2) (Nat.succ_pos _) inner name.toList
    refine (marked_takes key entry place inside (by simpa using here) blank
      (fun c rest column => ?_)).congr holds
    have behind : AtLead (m.behindKey (scalarToken name.toList) true c) .sign i :=
      ⟨opened.depth, opened.keys, block, by simp [behindKey, column],
        fun _ => ⟨rfl, column⟩⟩
    rw [lead]
    exact reads content_written behind rest starts within shallow

theorem fields_take {name : String} {content : Document} {fields : List (String × Document)}
    (reads : ValueReads content) (more : FieldsTake fields) :
    FieldsTake ((name, content) :: fields) := by
  intro m i n w t written entry place inside here starts within shallow
  obtain ⟨first, rest, field_written, fields_written, same⟩ := moreFields_cons written
  rw [List.append_assoc] at same
  cases List.append_cancel_left same
  have tall : content.height ≤ Document.heightOfFields ((name, content) :: fields) ∧
      Document.heightOfFields fields ≤ Document.heightOfFields ((name, content) :: fields) := by
    simp only [Document.heightOfFields]
    omega
  cases fields with
  | nil =>
    simp only [moreFields, Except.ok.injEq] at fields_written
    subst fields_written
    have takes := field_takes reads field_written entry place inside (by simpa using here) starts
      within (by omega)
    simpa [fieldTokens, KeysFitFields] using takes
  | cons entry' fields =>
    obtain ⟨first', rest', first_written, _, rfl⟩ := moreFields_cons fields_written
    rw [List.append_assoc] at fields_written
    have := content.one_le_height
    have start := field_startsToken first_written (by omega)
      (rest' ++ '\n' :: (List.replicate n ' ' ++ t))
    have takes := field_takes (n := i)
      (t := first' ++ (rest' ++ '\n' :: (List.replicate n ' ' ++ t))) reads field_written
      entry place inside (by simpa [Style.newLine] using here) start (Nat.le_refl _) (by omega)
    have block := AtEntry.opened_indent place inside .blockMappingStart
    have opened := entry.opened .blockMappingStart
    have all : (KeyFits name.toList ∧ KeysFit content) ∧ KeysFitFields (entry' :: fields) ↔
        KeysFitFields ((name, content) :: entry' :: fields) := by
      rw [and_assoc]
      rfl
    refine Takes.congr (takes.append opened block .blockMappingStart ?_) all
    intro m' entry' place' block' rest
    exact more fields_written entry' place' (Int.le_of_eq block') (by simpa using rest) starts
      within (by omega)

namespace Lexing

/-- A block that was opened at the place ends where a line falls back behind it. -/
theorem unwind_opened {m : Lexing} {n : Nat} (start : Token) (tokens : List Token) (c : Cursor)
    (depth : m.depth = 0) (further : m.indent < m.cursor.column) (back : n < m.cursor.column) :
    ((m.opened start).after tokens c).unwindTo n =
      (m.after (start :: tokens ++ [.blockEnd]) c).unwindTo n := by
  rw [opened_of_lt _ further]
  have closed := unwindTo_block (l := ({ m with
    tokens := m.tokens ++ [start], indent := m.cursor.column
    outer := m.indent :: m.outer } : Lexing).after tokens c) rfl depth (Int.ofNat_lt.mpr back)
  refine closed.trans ?_
  simp [after]

theorem AtLead.arrive_line {l : Lexing} {lead : Lead} {indent i : Nat}
    (behind : AtLead l lead indent) {t : List Char}
    (here : l.cursor.rest = Style.newLine i ++ t) (starts : StartsToken t) (within : indent ≤ i) :
    ∃ c, l.arrive = .ok { l with cursor := c, keyAllowed := true, keys := [] } ∧ c.rest = t ∧
      c.column = i ∧ c.rest.length ≤ l.cursor.rest.length := by
  have leaves : l.LeavesKeys := by simp [LeavesKeys, behind.keys]
  have arrived := Lexing.arrive_line behind.depth leaves here starts
  have place := Cursor.skip_newLine here
  have still : ({ l with cursor := l.cursor.skip (i + 1), keyAllowed := true, keys := [] } :
      Lexing).indent ≤ (i : Int) := by
    simp only [behind.block]
    omega
  refine ⟨l.cursor.skip (i + 1), arrived.trans (congrArg Except.ok (unwindTo_of_le still)), ?_⟩
  rw [place]
  refine ⟨rfl, rfl, ?_⟩
  simp only [here, Style.newLine, List.length_append, List.length_cons]
  omega

end Lexing

theorem hanging_reads {item : Document} {items : List Document}
    (take : ItemsTake (item :: items)) {l : Lexing} {indent column n : Nat} {w t : List Char}
    (written : value indent column .key (.list (item :: items)) = .ok w)
    (behind : AtLead l .key indent)
    (here : l.cursor.rest = w ++ '\n' :: (List.replicate n ' ' ++ t)) (starts : StartsToken t)
    (within : n ≤ indent)
    (shallow : indent + 2 * (Document.list (item :: items)).height < Style.width) :
    Reads l (KeysFit (.list (item :: items))) (valueTokens .key (.list (item :: items))) n t := by
  rw [value_hanging] at written
  obtain ⟨first, more, _, _, rfl⟩ := moreItems_cons written
  rw [List.append_assoc] at written
  obtain ⟨c, arrived, rest, place, shorter⟩ :=
    behind.arrive_line (t := '-' :: first ++ more ++ '\n' :: (List.replicate n ' ' ++ t))
      (by simpa using here) (startsToken_cons rfl (by decide) (by decide)) (Nat.le_refl _)
  have takes := take (m := { l with cursor := c, keyAllowed := true, keys := [] }) written
    ⟨behind.depth, rfl, rfl⟩ place (Int.le_of_eq behind.block) (by simpa using rest) starts
    within (by simp only [Document.height] at shallow; omega)
  rw [opened_of_le (by simp only [place, behind.block]; exact Int.le_refl _)] at takes
  exact takes.reads arrived shorter (fun _ => rfl)

theorem list_reads {item : Document} {items : List Document}
    (take : ItemsTake (item :: items)) {l : Lexing} {indent column n : Nat} {w t : List Char}
    (written : value indent column .sign (.list (item :: items)) = .ok w)
    (behind : AtLead l .sign indent)
    (here : l.cursor.rest = w ++ '\n' :: (List.replicate n ' ' ++ t)) (starts : StartsToken t)
    (within : n ≤ indent)
    (shallow : indent + 2 * (Document.list (item :: items)).height < Style.width) :
    Reads l (KeysFit (.list (item :: items))) (valueTokens .sign (.list (item :: items))) n t := by
  obtain ⟨v, items_written, rfl⟩ := value_list written
  obtain ⟨first, more, _, _, same⟩ := moreItems_cons items_written
  rw [List.append_assoc] at same
  cases List.append_cancel_left same
  obtain ⟨arrived, next⟩ := behind.arrive here (startsToken_cons rfl (by decide) (by decide))
  obtain ⟨allowed, column⟩ := behind.sign rfl
  have place : l.cursor.next.column = indent + 2 := by rw [next, column]
  have takes := take (m := { l with cursor := l.cursor.next }) (i := indent + 2) (n := n) (t := t)
    items_written ⟨behind.depth, allowed, behind.keys⟩ place
    (by simp only [behind.block]; omega) (by rw [next]; simp) starts (by omega)
    (by simp only [Document.height] at shallow; omega)
  refine takes.reads arrived (by rw [next]; simp [here]) (fun c => ?_)
  have opened := unwind_opened (m := { l with cursor := l.cursor.next }) (n := n)
    .blockSequenceStart (itemTokens (item :: items)) c behind.depth
    (by simp only [behind.block, place]; omega) (by simp only [place]; omega)
  exact opened

theorem block_reads {entry : String × Document} {fields : List (String × Document)}
    (take : FieldsTake (entry :: fields)) {l : Lexing} {lead : Lead} {indent column n : Nat}
    {w t : List Char} (written : value indent column lead (.block (entry :: fields)) = .ok w)
    (behind : AtLead l lead indent)
    (here : l.cursor.rest = w ++ '\n' :: (List.replicate n ' ' ++ t)) (starts : StartsToken t)
    (within : n ≤ indent)
    (shallow : indent + 2 * (Document.block (entry :: fields)).height < Style.width) :
    Reads l (KeysFit (.block (entry :: fields))) (valueTokens lead (.block (entry :: fields)))
      n t := by
  obtain ⟨v, fields_written, rfl⟩ := value_block written
  obtain ⟨first, more, first_written, _, same⟩ := moreFields_cons fields_written
  rw [List.append_assoc] at same
  cases List.append_cancel_left same
  simp only [Document.height] at shallow
  have tall : 1 ≤ Document.heightOfFields (entry :: fields) := by
    have := entry.2.one_le_height
    simp only [Document.heightOfFields]
    omega
  have start := field_startsToken first_written (by omega)
    (more ++ '\n' :: (List.replicate n ' ' ++ t))
  have arrived : ∃ c, l.arrive = .ok { l with cursor := c, keyAllowed := true, keys := [] } ∧
      c.rest = first ++ (more ++ '\n' :: (List.replicate n ' ' ++ t)) ∧ c.column = indent + 2 ∧
      c.rest.length ≤ l.cursor.rest.length := by
    cases lead with
    | key =>
      exact behind.arrive_line (by simpa [beforeBlock] using here) start (by omega)
    | sign =>
      obtain ⟨allowed, column⟩ := behind.sign rfl
      have here : l.cursor.rest = ' ' :: (first ++ (more ++ '\n' ::
          (List.replicate n ' ' ++ t))) := by simpa [beforeBlock] using here
      obtain ⟨arrived, next⟩ := behind.arrive here start
      refine ⟨l.cursor.next, ?_, by rw [next], by rw [next, column], by rw [next]; simp [here]⟩
      rw [arrived, ← allowed, ← behind.keys]
  obtain ⟨c, arrived, rest, place, shorter⟩ := arrived
  have takes := take (m := { l with cursor := c, keyAllowed := true, keys := [] })
    (i := indent + 2) (n := n) (t := t) fields_written ⟨behind.depth, rfl, rfl⟩ place
    (by simp only [behind.block]; omega) (by simpa using rest) starts (by omega) (by omega)
  refine takes.reads arrived shorter (fun d => ?_)
  have opened := unwind_opened (m := { l with cursor := c, keyAllowed := true, keys := [] })
    (n := n) .blockMappingStart (fieldTokens (entry :: fields)) d behind.depth
    (by simp only [behind.block, place]; omega) (by simp only [place]; omega)
  exact opened

mutual

theorem value_reads (d : Document) : ValueReads d := by
  intro l lead indent column n w t written behind here starts within shallow
  match d with
  | .null =>
    simp only [value, Except.ok.injEq] at written
    subst written
    exact behind.reads_scalar (written_null (indent + 1)) here starts within (Nat.lt_succ_self _)
  | .number k =>
    simp only [value, bind_ok] at written
    obtain ⟨digits, numeral, same⟩ := written
    cases Except.ok.inj same
    obtain ⟨rfl, _⟩ := Text.Numeral.write_ok numeral
    exact behind.reads_scalar (written_decimalInt (indent + 1) k) here starts within
      (Nat.lt_succ_self _)
  | .text phrase =>
    simp only [value, Except.ok.injEq] at written
    subst written
    simp only [Document.height] at shallow
    exact behind.reads_scalar (writePhrase_written true _ (Nat.succ_pos _) (by omega) phrase)
      here starts within (by omega)
  | .list [] =>
    simp only [value, Except.ok.injEq] at written
    subst written
    exact behind.reads_brackets here starts (fun l peek full => (token_brackets l full).1 peek)
      (fun l peek full => (token_brackets l full).2.1 peek) (by decide) (by decide) (by decide)
  | .block [] =>
    simp only [value, Except.ok.injEq] at written
    subst written
    exact behind.reads_brackets here starts
      (fun l peek full => (token_brackets l full).2.2.1 peek)
      (fun l peek full => (token_brackets l full).2.2.2 peek) (by decide) (by decide) (by decide)
  | .list (item :: items) =>
    cases lead with
    | key =>
      exact hanging_reads (items_read (item :: items)) written behind here starts within shallow
    | sign =>
      exact list_reads (items_read (item :: items)) written behind here starts within shallow
  | .block (entry :: fields) =>
    exact block_reads (fields_read (entry :: fields)) written behind here starts within shallow

theorem items_read (items : List Document) : ItemsTake items := by
  match items with
  | [] =>
    intro m i n w t written
    simp [moreItems, Style.newLine] at written
  | item :: items => exact items_take (value_reads item) (items_read items)

theorem fields_read (fields : List (String × Document)) : FieldsTake fields := by
  match fields with
  | [] =>
    intro m i n w t written
    simp [moreFields, Style.newLine] at written
  | (name, content) :: fields => exact fields_take (value_reads content) (fields_read fields)

end

/-- After the last line all blocks end, and the text does. -/
theorem finish_block {m : Lexing} (rest : m.cursor.rest = []) (keys : m.keys = [])
    (depth : m.depth = 0) (indent : m.indent = 0) (outer : m.outer = [-1]) :
    m.token = .ok { m with
      tokens := m.tokens ++ [.blockEnd, .streamEnd], indent := -1, outer := []
      keyAllowed := false, keys := [] } := by
  have dispatch : m.token = m.finish := by simp [token, rest]
  obtain ⟨cursor, tokens, indent', outer', depth', allowed, keys'⟩ := m
  cases keys
  cases depth
  cases indent
  cases outer
  rw [dispatch]
  simp [finish, unwindTo, unwind, emit, dropKey, pending?, bind, Except.bind]

/-- A text whose first line starts a block is read as that block if its fields are taken to the
end, and not at all if they are not. -/
theorem ofText_block {w : List Char} {fits : Prop} {tokens : List Token} (start : StartsToken w)
    (takes : Takes (Lexing.start w) ((Lexing.start w).opened .blockMappingStart) fits tokens 0 []) :
    (fits → Token.ofText w = .ok (.blockMappingStart :: tokens ++ [.blockEnd, .streamEnd])) ∧
      (¬fits → Token.ofText w = .error .malformed) := by
  have arrived := arrive_spaces (l := Lexing.start w) (n := 0) rfl rfl start
  have outside : (Lexing.start w).indent ≤ ((Cursor.start w).column : Int) :=
    (by decide : (-1 : Int) ≤ 0)
  have arrived := arrived.trans (congrArg Except.ok (unwindTo_of_le outside))
  obtain ⟨c, rest, place, goes⟩ := takes
  have passes := (Leads.passes (.here arrived (Nat.le_refl _))).goes goes
  have enough : (Lexing.start w).cursor.rest.length < w.length + 2 :=
    Nat.lt_succ_of_lt (Nat.lt_succ_self _)
  constructor
  · intro fit
    have leads := passes.leads ⟨trivial, fit⟩
    have block := AtEntry.opened_indent (m := Lexing.start w) (i := 0) rfl outside
      .blockMappingStart
    rw [unwindTo_of_le (l := ((Lexing.start w).opened .blockMappingStart).after tokens c)
      (Int.le_of_eq block)] at leads
    have opened := opened_of_lt (l := Lexing.start w) .blockMappingStart
      (by decide : (-1 : Int) < 0)
    have taken := finish_block (m := ((Lexing.start w).opened .blockMappingStart).after tokens c)
      rest rfl (by rw [opened]; rfl) block (by rw [opened]; rfl)
    have first : ((Lexing.start w).opened .blockMappingStart).tokens = [.blockMappingStart] := by
      rw [opened]
      rfl
    have read := leads.run taken (by simp) _ enough
    rw [Token.ofText, read]
    change Except.ok (((Lexing.start w).opened .blockMappingStart).tokens ++ tokens ++
      [.blockEnd, .streamEnd]) = _
    rw [first]
    rfl
  · intro unfit
    exact passes.fails (fun h => unfit h.2) _ enough

/-- A printed document of fields is read as its tokens if all names in it fit, and not at all
if one does not. -/
theorem ofText_printed {entry : String × Document} {fields : List (String × Document)}
    {w : List Char} (written : document (entry :: fields) = .ok w)
    (shallow : 2 * Document.heightOfFields (entry :: fields) < Style.width) :
    (KeysFitFields (entry :: fields) → Token.ofText w =
        .ok (.blockMappingStart :: fieldTokens (entry :: fields) ++ [.blockEnd, .streamEnd])) ∧
      (¬KeysFitFields (entry :: fields) → Token.ofText w = .error .malformed) := by
  obtain ⟨v, fields_written, rfl⟩ := document_block written
  obtain ⟨first, more, first_written, _, same⟩ := moreFields_cons fields_written
  rw [List.append_assoc] at same
  cases List.append_cancel_left same
  have tall : 1 ≤ Document.heightOfFields (entry :: fields) := by
    have := entry.2.one_le_height
    simp only [Document.heightOfFields]
    omega
  have start := field_startsToken first_written (by omega) (more ++ ['\n'])
  rw [← List.append_assoc] at start
  exact ofText_block start (fields_read (entry :: fields) (n := 0) (t := []) fields_written
    ⟨rfl, rfl, rfl⟩ rfl (by decide : (-1 : Int) ≤ 0) rfl startsToken_nil (Nat.le_refl _) (by omega))

end ClusterManifest.Yaml
