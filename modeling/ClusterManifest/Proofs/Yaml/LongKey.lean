import ClusterManifest.Proofs.Yaml.Roundtrip

/-! A key behind a mark of its own may be as long as it likes, and a hexadecimal number may have as
many digits: so a number of any size is read as a key. -/

namespace ClusterManifest

namespace Text

/-- The digits of a power of the base. -/
def powerDigits (n : Nat) : List Char := '1' :: List.replicate n '0'

def hexPower (n : Nat) : List Char := '0' :: 'x' :: powerDigits n

theorem forall_powerDigits {p : Char → Prop} (one : p '1') (zero : p '0') (n : Nat) :
    ∀ c ∈ powerDigits n, p c :=
  List.forall_mem_cons.mpr ⟨one, List.forall_mem_replicate.mpr (.inr zero)⟩

theorem forall_hexPower {p : Char → Prop} (one : p '1') (zero : p '0') (mark : p 'x') (n : Nat) :
    ∀ c ∈ hexPower n, p c :=
  List.forall_mem_cons.mpr ⟨zero, List.forall_mem_cons.mpr ⟨mark, forall_powerDigits one zero n⟩⟩

theorem foldl_zeros (base m n : Nat) :
    (List.replicate n 0).foldl (fun m d => m * base + d) m = m * Nat.pow base n := by
  induction n generalizing m with
  | zero => exact (Nat.mul_one m).symm
  | succ n ih =>
    have step : Nat.pow base (n + 1) = Nat.pow base n * base := rfl
    rw [List.replicate_succ, List.foldl_cons, ih, step, Nat.add_zero, Nat.mul_assoc,
      Nat.mul_comm base]

theorem ofDigits_powerDigits (n : Nat) :
    ofDigits 16 ((powerDigits n).filterMap (digitInBase? 16)) = Nat.pow 16 n := by
  have zeros : (List.replicate n '0').filterMap (digitInBase? 16) = List.replicate n 0 :=
    List.filterMap_replicate_of_some rfl
  have one : digitInBase? 16 '1' = some 1 := rfl
  rw [powerDigits, List.filterMap_cons_some one, zeros]
  exact (foldl_zeros 16 1 n).trans (Nat.one_mul _)

theorem Numeral.read_powerDigits (n : Nat) :
    read 16 (powerDigits n) = .ok (Nat.pow 16 n : Int) := by
  have digits := forall_powerDigits
    (p := fun c => isAsciiDigit c = true ∧ (digitInBase? 16 c).isSome = true)
    (by decide) (by decide) n
  have nonempty : powerDigits n ≠ [] := List.cons_ne_nil _ _
  have short : 16 = 10 → (powerDigits n).length ≤ digitLimit := fun same => by cases same
  rw [read_digits nonempty rfl digits short, ofDigits_powerDigits]

end Text

namespace Yaml

open Lexing Printer

theorem written_hexPower (indent n : Nat) :
    Written indent (Text.hexPower n) (.text (Text.hexPower n)) true := by
  have printable : ∀ c ∈ Text.hexPower n, isPrintable c = true ∧ c ≠ ' ' :=
    Text.forall_hexPower (by decide) (by decide) (by decide) n
  have last : (Text.hexPower n).getLast? ≠ some ':' := by
    intro colon
    exact Text.forall_hexPower (p := (· ≠ ':')) (by decide) (by decide) (by decide) n ':'
      (List.mem_of_getLast? colon) rfl
  exact .plain (.run ⟨List.cons_ne_nil _ _, printable, last⟩)
    ⟨⟨'0', _, rfl, rfl, .inl rfl⟩, by simp [Text.hexPower], by simp [Text.hexPower]⟩

theorem Tag.ofPlain_hexPower (n : Nat) : ofPlain (Text.hexPower n) = .int := by
  have digits : ∀ c ∈ Text.powerDigits n, ((Text.hexDigit? c).isSome || c == '_') = true :=
    Text.forall_powerDigits (by decide) (by decide) n
  have whole : isInt (Text.hexPower n) = true := List.all_eq_true.mpr digits
  have line : (Text.hexPower n).getLast? ≠ some '\n' := by
    intro newLine
    exact Text.forall_hexPower (p := (· ≠ '\n')) (by decide) (by decide) (by decide) n '\n'
      (List.mem_of_getLast? newLine) rfl
  exact ofPlain_number rfl (not_isFloat_number rfl rfl rfl) whole line

theorem Scalar.ofText_hexPower (n : Nat) :
    ofText .int (Text.hexPower n) = .ok (.int (Nat.pow 16 n : Int)) := by
  have unmarked : ∀ c ∈ Text.hexPower n, (c != '_') = true :=
    Text.forall_hexPower (by decide) (by decide) (by decide) n
  have kept := List.filter_eq_self.mpr unmarked
  have sign : Text.Numeral.splitSign (Text.hexPower n) = (false, Text.hexPower n) := rfl
  have worth : magnitude (Text.hexPower n) =
      (Text.Numeral.read 16 (Text.powerDigits n)).mapError .numeral := rfl
  rw [Text.Numeral.read_powerDigits] at worth
  have read : integer (Text.hexPower n) = .ok (Nat.pow 16 n : Int) := by
    simp only [integer, kept, sign, worth, ok_mapError, bind, Except.bind]
    rfl
  have nonempty : (Text.hexPower n).isEmpty = false := rfl
  simp only [ofText, nonempty, read]
  rfl

def markedKey (n : Nat) : List Char :=
  Style.newLine 2 ++ ('?' :: ' ' :: Text.hexPower n ++ Style.newLine 2 ++ [':', ' ', 'x', '\n'])

/-- A block within a field, whose only key is a number behind a mark. -/
def longKey (n : Nat) : List Char := "platform".toList ++ ':' :: markedKey n

def markedTokens (n : Nat) : List Token :=
  [.blockMappingStart, .key, .scalar (.text (Text.hexPower n)) true, .value,
    .scalar (.text ['x']) true, .blockEnd]

def longKeyTokens (n : Nat) : List Token :=
  .key :: scalarToken "platform".toList :: .value :: markedTokens n

def longKeyNode (n : Nat) : Node :=
  .mapping none .mapping [(.scalar none .text (.text "platform".toList),
    .mapping none .mapping [(.scalar none .int (.text (Text.hexPower n)),
      .scalar none .text (.text ['x']))])]

theorem written_x (indent : Nat) : Written indent ['x'] (.text ['x']) true :=
  .plain (.run (.single rfl (by decide) (by decide)))
    ⟨⟨'x', [], rfl, rfl, .inl rfl⟩, by decide, by decide⟩

theorem marked_reads (n : Nat) {l : Lexing} (behind : AtLead l .key 0)
    (here : l.cursor.rest = markedKey n) :
    Reads l True (markedTokens n) 0 [] := by
  obtain ⟨c, arrived, rest, place, shorter⟩ :=
    behind.arrive_line here (startsToken_cons rfl (by decide) (by decide)) (by decide)
  have entry : AtEntry { l with cursor := c, keyAllowed := true, keys := [] } :=
    ⟨behind.depth, rfl, rfl⟩
  have further : l.indent < c.column := by
    rw [behind.block, place]
    decide
  have inside : l.indent ≤ (2 : Nat) := Int.le_of_lt (place ▸ further)
  have opened := entry.opened .blockMappingStart
  have block := AtEntry.opened_indent
    (m := { l with cursor := c, keyAllowed := true, keys := [] }) place inside .blockMappingStart
  have takes := marked_takes (n := 0) (t := []) (written_hexPower 4 n) entry place inside rest rfl
    (fun d rest column => by
      have value : AtLead (({ l with cursor := c, keyAllowed := true, keys := [] } :
          Lexing).behindKey (.scalar (.text (Text.hexPower n)) true) true d) .sign 2 :=
        ⟨opened.depth, opened.keys, block, by simp [behindKey, column], fun _ => ⟨rfl, column⟩⟩
      exact value.reads_scalar (written_x 3) rest startsToken_nil (Nat.zero_le _) (by decide))
  refine takes.reads arrived shorter (fun d => ?_)
  exact unwind_opened .blockMappingStart _ d behind.depth further (by rw [place]; decide)

theorem ofText_longKey (n : Nat) : Token.ofText (longKey n) =
    .ok (.blockMappingStart :: longKeyTokens n ++ [.blockEnd, .streamEnd]) := by
  have outside : (Lexing.start (longKey n)).indent ≤ (0 : Nat) := (by decide : (-1 : Int) ≤ 0)
  have entry : AtEntry (Lexing.start (longKey n)) := ⟨rfl, rfl, rfl⟩
  have opened := entry.opened .blockMappingStart
  have block := AtEntry.opened_indent (m := Lexing.start (longKey n)) rfl outside
    .blockMappingStart
  have simple : Style.isSimpleKey "platform".toList = true := by decide +kernel
  have plain : Style.write false 2 0 "platform".toList = "platform".toList := by decide +kernel
  have here : (Lexing.start (longKey n)).cursor.rest =
      Style.write false 2 0 "platform".toList ++ ':' :: markedKey n := by
    rw [plain]
    rfl
  have takes := key_takes simple (i := 0) (n := 0) (t := []) entry rfl outside here rfl (by decide)
    (fun c rest ahead => by
      have behind : AtLead ((Lexing.start (longKey n)).behindKey
          (scalarToken "platform".toList) false c) .key 0 :=
        ⟨opened.depth, opened.keys, block, ahead, fun h => by cases h⟩
      exact marked_reads n behind rest)
  exact (ofText_block (startsToken_cons rfl (by decide) (by decide)) takes).1
    ⟨by decide +kernel, trivial⟩

theorem parse_longKey (n : Nat) :
    Parsing.document (.blockMappingStart :: longKeyTokens n ++ [.blockEnd, .streamEnd]) =
      .ok (some (longKeyNode n)) := by
  have tag : Tag.ofScalar none true (.text (Text.hexPower n)) = .int := Tag.ofPlain_hexPower n
  rw [longKeyNode, ← tag]
  rfl

theorem markedKey_ordinary (n : Nat) : Ordinary (markedKey n) := by
  have number : Ordinary (Text.hexPower n) :=
    ordinary_of_printable (Text.forall_hexPower (by decide) (by decide) (by decide) n)
  have value : Ordinary [':', ' ', 'x', '\n'] := by simp [Ordinary, isPrintable]
  exact (ordinary_newLine 2).append
    ((((number.append (ordinary_newLine 2)).append value).cons rfl).cons rfl)

namespace Meaning

theorem ofNode_entry {fuel : Nat} {key value : Node} {k : ClusterManifest.Scalar} {v : Value}
    (own : flatten alone (fuel + 1) [] [(key, value)] = .ok [(key, value)])
    (first : ofNode alone fuel key = sound (.scalar k))
    (second : ofNode alone fuel value = sound v) :
    ofNode alone (fuel + 1) (.mapping none .mapping [(key, value)]) = sound (.map [(k, v)]) := by
  have unfolded : ofNode alone (fuel + 1) (.mapping none .mapping [(key, value)]) =
      ofMapping alone (ofNode alone fuel) .map (fuel + 1) [(key, value)] := rfl
  simp only [unfolded, ofMapping, own, ofEntries, first, second]
  rfl

theorem ofNode_hexPower (fuel n : Nat) :
    ofNode alone (fuel + 1) (.scalar none .int (.text (Text.hexPower n))) =
      sound (.scalar (.int (Nat.pow 16 n : Int))) := by
  have unfolded : ofNode alone (fuel + 1) (.scalar none .int (.text (Text.hexPower n))) =
      ofScalar alone (fuel + 1) .int (.scalar none .int (.text (Text.hexPower n))) := rfl
  have content : content? alone (fuel + 1) (.scalar none .int (.text (Text.hexPower n))) =
      some (.text (Text.hexPower n)) := rfl
  simp only [unfolded, ofScalar, content, Scalar.ofContent, Scalar.ofText_hexPower]

theorem ofDocument_longKey (n : Nat) :
    ofDocument (longKeyNode n) = sound (.map [(.text "platform",
      .map [(.int (Nat.pow 16 n : Int), .scalar (.text "x"))])]) := by
  have root : ofDocument (longKeyNode n) = ofNode alone 6 (longKeyNode n) := rfl
  rw [root]
  exact ofNode_entry rfl rfl (ofNode_entry rfl (ofNode_hexPower 3 n) rfl)

end Meaning

/-- The number is read as the key that it is. -/
theorem read_longKey (n : Nat) : read (Text.Utf8.encode (longKey n)) =
    .ok (.map [(.text "platform",
      .map [(.int (Nat.pow 16 n : Int), .scalar (.text "x"))])]) := by
  have printable : ("platform".toList.all isPrintable) = true := rfl
  have ordinary : Ordinary (longKey n) :=
    (ordinary_of_printable (List.all_eq_true.mp printable)).append
      ((markedKey_ordinary n).cons rfl)
  have node : Node.ofText (longKey n) = .ok (some (longKeyNode n)) := by
    simp only [Node.ofText, ofText_longKey, bind, Except.bind]
    exact parse_longKey n
  simp only [read, source_ordinary ordinary, node, Meaning.ofDocument_longKey, bind, Except.bind]
  rfl

end Yaml

end ClusterManifest
