import ClusterManifest.Proofs.Json.Numbers

/-! Reading values: the reader takes exactly the texts of the grammar whose whole numbers are short
enough, and stops at a number that is too long where nothing before it is wrong. -/

namespace ClusterManifest.Json

open Text (isAsciiDigit)

variable {fits : List Char → Prop} {s a w rest : List Char} {c : Char} {v : Json}

theorem isSpace_iff : isSpace c = true ↔ c ∈ [' ', '\t', '\n', '\r'] := by
  simp [isSpace, or_assoc]

theorem skipSpace_append (spaces : Spaces a) (solid : isSpace c = false) :
    skipSpace (a ++ c :: s) = c :: s := by
  rw [skipSpace, List.dropWhile_append_of_pos (fun d among => isSpace_iff.mpr (spaces d among)),
    List.dropWhile_cons, solid, if_neg Bool.false_ne_true]

theorem skipSpace_parts (s : List Char) : ∃ a, Spaces a ∧ s = a ++ skipSpace s :=
  ⟨s.takeWhile isSpace,
    fun c among => isSpace_iff.mp (List.all_eq_true.mp List.all_takeWhile c among),
    List.takeWhile_append_dropWhile.symm⟩

theorem skipSpace_empty : (skipSpace s).isEmpty = true ↔ Spaces s := by
  rw [List.isEmpty_iff]
  constructor
  · intro none
    obtain ⟨a, spaces, same⟩ := skipSpace_parts s
    rw [none, List.append_nil] at same
    exact same ▸ spaces
  · exact fun spaces =>
      List.dropWhile_eq_nil_iff.mpr (fun c among => isSpace_iff.mpr (spaces c among))

/-- The characters with which a word or a number begins. -/
def Atomic (c : Char) : Prop := c ∈ ['-', 'n', 't', 'f', 'N', 'I'] ∨ isAsciiDigit c = true

def Opens (c : Char) : Prop := c ∈ ['"', '[', '\x7b'] ∨ Atomic c

theorem Atomic.cases {p : Char → Prop} (marks : ∀ c ∈ ['-', 'n', 't', 'f', 'N', 'I'], p c)
    (digits : ∀ m < 10, p (Nat.digitChar m)) (atomic : Atomic c) : p c :=
  atomic.elim (marks c) (Text.digit_cases digits)

theorem Atomic.other (atomic : Atomic c) : c ≠ '"' ∧ c ≠ '[' ∧ c ≠ '\x7b' :=
  atomic.cases (p := fun c => c ≠ '"' ∧ c ≠ '[' ∧ c ≠ '\x7b') (forall_of_all (by decide))
    (by decide)

theorem Opens.solid (opens : Opens c) : isSpace c = false ∧ c ≠ ']' ∧ c ≠ '\uFEFF' := by
  rcases opens with bracket | atomic
  · have all : ∀ c ∈ ['"', '[', '\x7b'], isSpace c = false ∧ c ≠ ']' ∧ c ≠ '\uFEFF' :=
      forall_of_all (by decide)
    exact all c bracket
  · exact atomic.cases (p := fun c => isSpace c = false ∧ c ≠ ']' ∧ c ≠ '\uFEFF')
      (forall_of_all (by decide)) (by decide)

theorem Word.head (written : Word w v) : ∃ c t, w = c :: t ∧ Atomic c := by
  cases written <;> exact ⟨_, _, rfl, .inl (by decide)⟩

theorem minus_head (negative : Bool) {digits : List Char} (run : Digits digits)
    (rest : List Char) : ∃ c t, minus negative (digits ++ rest) = c :: t ∧ Atomic c := by
  cases negative with
  | true => exact ⟨_, _, rfl, .inl (by decide)⟩
  | false =>
    obtain ⟨c, t, rfl, digit, -⟩ := run.head
    exact ⟨c, _, rfl, .inr digit⟩

theorem Number.head (written : Number fits w v) : ∃ c t, w = c :: t ∧ Atomic c := by
  cases written with
  | whole whole _ => simpa using minus_head _ whole.toDigits []
  | decimal whole _ _ _ => exact minus_head _ whole.toDigits _

theorem Value.head (written : Value fits w v) : ∃ c t, w = c :: t ∧ Opens c := by
  cases written with
  | word written =>
    obtain ⟨c, t, same, atomic⟩ := written.head
    exact ⟨c, t, same, .inr atomic⟩
  | number written =>
    obtain ⟨c, t, same, atomic⟩ := written.head
    exact ⟨c, t, same, .inr atomic⟩
  | string _ | emptyArray _ | array _ _ | emptyObject _ | object _ _ =>
    exact ⟨_, _, rfl, .inl (by decide)⟩

theorem readAtom_word (written : Word w v) : readAtom (w ++ rest) = .ok (v, rest) := by
  cases written <;> rfl

theorem wordValues_word (among : (w, v) ∈ wordValues) : Word w v := by
  simp only [wordValues, List.mem_cons, List.not_mem_nil, or_false, Prod.mk.injEq] at among
  rcases among with ⟨rfl, rfl⟩ | ⟨rfl, rfl⟩ | ⟨rfl, rfl⟩ | ⟨rfl, rfl⟩ | ⟨rfl, rfl⟩ | ⟨rfl, rfl⟩
  all_goals constructor

theorem readAtom_number (negative : Bool) {digits : List Char} (run : Digits digits)
    (rest : List Char) :
    readAtom (minus negative (digits ++ rest)) = readNumber (minus negative (digits ++ rest)) := by
  obtain ⟨d, t, rfl, digit, -⟩ := run.head
  have other : 'n' ≠ d ∧ 't' ≠ d ∧ 'f' ≠ d ∧ 'N' ≠ d ∧ 'I' ≠ d ∧ '-' ≠ d :=
    Text.digit_cases
      (p := fun d => 'n' ≠ d ∧ 't' ≠ d ∧ 'f' ≠ d ∧ 'N' ≠ d ∧ 'I' ≠ d ∧ '-' ≠ d) (by decide) digit
  unfold readAtom
  split
  · next word value found =>
    have first := List.find?_some found
    dsimp only at first
    cases wordValues_word (List.mem_of_find?_eq_some found) <;> cases negative <;>
      simp [minus, List.isPrefixOf, other] at first
  · rfl

theorem Number.readAtom (written : Number fits w v) :
    readAtom (w ++ rest) = readNumber (w ++ rest) := by
  cases written with
  | whole whole _ => rw [minus_append, readAtom_number _ whole.toDigits]
  | decimal whole _ _ _ =>
    rw [minus_append, List.append_assoc, readAtom_number _ whole.toDigits]

theorem readAtom_sound (s : List Char) :
    Ends (Told (Overlong s)) (fun read => ∃ w, s = w ++ read.2 ∧ Value Short w read.1)
      (readAtom s) := by
  unfold readAtom
  split
  · next word value found =>
    have first := List.find?_some found
    dsimp only at first
    obtain ⟨rest, rfl⟩ := List.isPrefixOf_iff_prefix.mp first
    refine .ok ⟨word, by simp, .word (wordValues_word (List.mem_of_find?_eq_some found))⟩
  · refine (readNumber_sound s).imp (fun _ told => told) ?_
    rintro ⟨v, rest⟩ ⟨w, same, written⟩
    exact ⟨w, same, .number written⟩

theorem readValue_atom (fuel : Nat) (atomic : Atomic c) :
    readValue (fuel + 1) (c :: s) = readAtom (c :: s) := by
  obtain ⟨string, array, object⟩ := atomic.other
  unfold readValue
  split
  · next none => cases none
  · next same => cases same
  · next same => exact absurd (List.cons.inj same).1 string
  · next same => exact absurd (List.cons.inj same).1 array
  · next same => exact absurd (List.cons.inj same).1 object
  · rfl

/-- What is read of a value, of elements or of members is written by the grammar, and a failure of
a number is told of the texts that begin with an overlong one. -/
def ValueSound (fuel : Nat) : Prop := ∀ s,
  Ends (Told (Overlong s)) (fun read => ∃ w, s = w ++ read.2 ∧ Value Short w read.1)
    (readValue fuel s)

def ElementsSound (fuel : Nat) : Prop := ∀ s,
  Ends (Told (OverlongElements s))
    (fun read => ∃ w, s = w ++ ']' :: read.2 ∧ Elements Short w read.1) (readElements fuel s)

def MembersSound (fuel : Nat) : Prop := ∀ s,
  Ends (Told (OverlongMembers s))
    (fun read => ∃ w, s = w ++ '\x7d' :: read.2 ∧ Members Short w read.1) (readMembers fuel s)

theorem Syntactic.told {long : Prop} {stop : Stop} (syntactic : Syntactic stop) : Told long stop :=
  fun fault same => absurd same (syntactic fault)

theorem readValue_sound {fuel : Nat} (elements : ElementsSound fuel) (members : MembersSound fuel) :
    ValueSound (fuel + 1) := by
  intro s
  unfold readValue
  split
  · next unended => cases unended
  · exact .error (fun _ same => nomatch same)
  · next fuel' rest same =>
    refine Ends.bind ((readString_sound rest).imp (fun _ => Syntactic.told) (fun _ read => read)) ?_
    rintro ⟨text, after⟩ ⟨w, body, rfl, written, rfl⟩
    exact .ok ⟨'"' :: (w ++ ['"']), by simp, .string written⟩
  · next fuel' rest same =>
    cases same
    obtain ⟨a, spaces, whole⟩ := skipSpace_parts rest
    split
    · next after empty =>
      rw [empty] at whole
      subst whole
      exact .ok ⟨'[' :: (a ++ [']']), by simp, .emptyArray spaces⟩
    · next body _ =>
      refine Ends.bind ((elements _).imp (fun stop told fault cause => ?_) (fun _ read => read)) ?_
      · rw [whole]
        exact .array spaces (told fault cause)
      · rintro ⟨items, after⟩ ⟨w, same, written⟩
        rw [same] at whole
        subst whole
        exact .ok ⟨'[' :: (a ++ (w ++ [']'])), by simp, .array spaces written⟩
  · next fuel' rest same =>
    cases same
    obtain ⟨a, spaces, whole⟩ := skipSpace_parts rest
    split
    · next after empty =>
      rw [empty] at whole
      subst whole
      exact .ok ⟨'\x7b' :: (a ++ ['\x7d']), by simp, .emptyObject spaces⟩
    · next body _ =>
      refine Ends.bind ((members _).imp (fun stop told fault cause => ?_) (fun _ read => read)) ?_
      · rw [whole]
        exact .object spaces (told fault cause)
      · rintro ⟨items, after⟩ ⟨w, same, written⟩
        rw [same] at whole
        subst whole
        exact .ok ⟨'\x7b' :: (a ++ (w ++ ['\x7d'])), by simp, .object spaces written⟩
  · exact readAtom_sound _

theorem readElements_sound {fuel : Nat} (values : ValueSound fuel)
    (elements : ElementsSound fuel) : ElementsSound (fuel + 1) := by
  intro s
  rw [readElements]
  refine Ends.bind ((values s).imp (fun stop told fault cause => .here (told fault cause))
    (fun _ read => read)) ?_
  rintro ⟨v, rest⟩ ⟨w, rfl, written⟩
  obtain ⟨a, spaces, whole⟩ := skipSpace_parts rest
  dsimp only at whole ⊢
  split
  · next after ended =>
    rw [ended] at whole
    subst whole
    exact .ok ⟨w ++ a, by simp, .last written spaces⟩
  · next following comma =>
    rw [comma] at whole
    subst whole
    obtain ⟨b, spaces', same⟩ := skipSpace_parts following
    refine Ends.bind ((elements _).imp (fun stop told fault cause => ?_) (fun _ read => read)) ?_
    · rw [same]
      exact .later written spaces spaces' (told fault cause)
    · rintro ⟨items, after⟩ ⟨u, goes, others⟩
      rw [goes] at same
      subst same
      exact .ok ⟨w ++ (a ++ ',' :: (b ++ u)), by simp, .more written spaces spaces' others⟩
  · exact .error (fun _ same => nomatch same)

theorem readMembers_sound {fuel : Nat} (values : ValueSound fuel) (members : MembersSound fuel) :
    MembersSound (fuel + 1) := by
  intro s
  unfold readMembers
  split
  · next none => cases none
  · next fuel' rest same =>
    cases same
    refine Ends.bind ((readString_sound rest).imp (fun _ => Syntactic.told) (fun _ read => read)) ?_
    rintro ⟨name, afterName⟩ ⟨n, text, rfl, body, rfl⟩
    obtain ⟨a, spacesA, whole⟩ := skipSpace_parts afterName
    dsimp only at whole ⊢
    split
    · next afterColon colon =>
      rw [colon] at whole
      subst whole
      obtain ⟨b, spacesB, same⟩ := skipSpace_parts afterColon
      refine Ends.bind ((values _).imp (fun stop told fault cause => ?_) (fun _ read => read)) ?_
      · rw [same]
        exact .here body spacesA spacesB (told fault cause)
      · rintro ⟨v, afterValue⟩ ⟨w, reads, written⟩
        rw [reads] at same
        subst same
        obtain ⟨c, spacesC, whole⟩ := skipSpace_parts afterValue
        dsimp only at whole ⊢
        split
        · next after ended =>
          rw [ended] at whole
          subst whole
          exact .ok ⟨_, by simp, .last body spacesA spacesB written spacesC⟩
        · next following comma =>
          rw [comma] at whole
          subst whole
          obtain ⟨d, spacesD, same⟩ := skipSpace_parts following
          refine Ends.bind
            ((members _).imp (fun stop told fault cause => ?_) (fun _ read => read)) ?_
          · rw [same]
            exact .later body spacesA spacesB written spacesC spacesD (told fault cause)
          · rintro ⟨items, after⟩ ⟨u, goes, others⟩
            rw [goes] at same
            subst same
            exact .ok ⟨_, by simp, .more body spacesA spacesB written spacesC spacesD others⟩
        · exact .error (fun _ same => nomatch same)
    · exact .error (fun _ same => nomatch same)
  · exact .error (fun _ same => nomatch same)

theorem read_sound (fuel : Nat) : ValueSound fuel ∧ ElementsSound fuel ∧ MembersSound fuel := by
  induction fuel with
  | zero =>
    refine ⟨fun s => ?_, fun s => ?_, fun s => ?_⟩
    · unfold readValue
      exact .error (fun _ same => nomatch same)
    · unfold readElements
      exact .error (fun _ same => nomatch same)
    · unfold readMembers
      exact .error (fun _ same => nomatch same)
  | succ fuel ih =>
    obtain ⟨values, elements, members⟩ := ih
    exact ⟨readValue_sound elements members, readElements_sound values elements,
      readMembers_sound values members⟩

/-- What may follow a value in a text. -/
def AtEnd (rest : List Char) : Prop :=
  ∀ c t, rest = c :: t → c ∈ [' ', '\t', '\n', '\r', ',', ']', '\x7d']

theorem atEnd_append (spaces : Spaces a) (ends : AtEnd rest) : AtEnd (a ++ rest) := by
  intro c t same
  cases a with
  | nil => exact ends c t same
  | cons d a =>
    cases same
    have among := spaces c (List.mem_cons_self ..)
    simp only [List.mem_cons, List.not_mem_nil, or_false] at among
    rcases among with rfl | rfl | rfl | rfl <;> decide

theorem AtEnd.numberEnd (ends : AtEnd rest) : NumberEnd rest := by
  have all : ∀ c ∈ [' ', '\t', '\n', '\r', ',', ']', '\x7d'],
      isAsciiDigit c = false ∧ c ≠ '.' ∧ ¬(c = 'e' ∨ c = 'E') := forall_of_all (by decide)
  refine ⟨fun c t same => (all c (ends c t same)).1, ?_, ?_⟩
  · rintro _ _ t (_ | _) same
    · rfl
    · exact absurd rfl (all '.' (ends _ _ same)).2.1
  · rintro _ _ t (_ | ⟨mark, -, -⟩) same
    · rfl
    · exact absurd mark (all _ (ends _ _ same)).2.2

theorem Elements.head {items : List Json} (written : Elements fits w items) :
    ∃ c t, w = c :: t ∧ Opens c := by
  cases written with
  | last written _ | more written _ _ _ =>
    obtain ⟨c, t, rfl, opens⟩ := written.head
    exact ⟨c, _, rfl, opens⟩

theorem Members.head {members : List (String × Json)} (written : Members fits w members) :
    ∃ t, w = '"' :: t := by
  cases written <;> exact ⟨_, rfl⟩

theorem atEnd_cons (mark : c ∈ [',', ']', '\x7d']) : AtEnd (c :: s) := by
  intro d t same
  cases same
  simp only [List.mem_cons, List.not_mem_nil, or_false] at mark
  rcases mark with rfl | rfl | rfl <;> decide

/-- A name with its colon is taken before the value of a member. -/
theorem readMembers_name {n name a b : List Char} {fuel : Nat} (body : Body n name)
    (spaces : Spaces a) (spaces' : Spaces b) (opens : Opens c) :
    readMembers (fuel + 1) ('"' :: (n ++ '"' :: (a ++ ':' :: (b ++ c :: s)))) =
      (readValue fuel (c :: s)).bind (fun read =>
        match skipSpace read.2 with
        | '\x7d' :: rest => .ok ([(String.ofList name, read.1)], rest)
        | ',' :: rest => (readMembers fuel (skipSpace rest)).bind (fun others =>
          .ok ((String.ofList name, read.1) :: others.1, others.2))
        | rest => .error ⟨.comma, rest⟩) := by
  rw [readMembers, readString_complete body, ok_bind]
  dsimp only
  rw [skipSpace_append spaces (by decide)]
  change (readValue fuel (skipSpace (b ++ c :: s))).bind _ = _
  rw [skipSpace_append spaces' opens.solid.1]
  rfl

mutual

/-- A value of the grammar is read whole, or there is a number in it that is too long. -/
theorem Value.read {w : List Char} {v : Json} {fuel : Nat} {rest : List Char} :
    Value fits w v → 2 * w.length ≤ fuel → AtEnd rest →
      Ends (Oversized fits) (fun read => read = (v, rest)) (readValue fuel (w ++ rest))
  | .word written, enough, ends => by
    obtain ⟨c, t, rfl, atomic⟩ := written.head
    obtain ⟨fuel, rfl⟩ := Nat.exists_eq_add_one.mpr (Nat.lt_of_lt_of_le (by simp) enough)
    rw [List.cons_append, readValue_atom fuel atomic, ← List.cons_append, readAtom_word written]
    exact .ok rfl
  | .number written, enough, ends => by
    obtain ⟨c, t, rfl, atomic⟩ := written.head
    obtain ⟨fuel, rfl⟩ := Nat.exists_eq_add_one.mpr (Nat.lt_of_lt_of_le (by simp) enough)
    rw [List.cons_append, readValue_atom fuel atomic, ← List.cons_append, written.readAtom]
    exact readNumber_complete written ends.numberEnd
  | .string body, enough, ends => by
    obtain ⟨fuel, rfl⟩ := Nat.exists_eq_add_one.mpr (Nat.lt_of_lt_of_le (by simp) enough)
    rw [List.cons_append, List.append_assoc, readValue, List.singleton_append,
      readString_complete body]
    exact .ok rfl
  | .emptyArray spaces, enough, ends => by
    obtain ⟨fuel, rfl⟩ := Nat.exists_eq_add_one.mpr (Nat.lt_of_lt_of_le (by simp) enough)
    rw [List.cons_append, List.append_assoc, readValue, List.singleton_append,
      skipSpace_append spaces (by decide)]
    exact .ok rfl
  | .array spaces written, enough, ends => by
    obtain ⟨fuel, rfl⟩ := Nat.exists_eq_add_one.mpr (Nat.lt_of_lt_of_le (by simp) enough)
    obtain ⟨c, t, rfl, opens⟩ := written.head
    rw [List.cons_append, List.append_assoc, List.append_assoc, readValue, List.singleton_append,
      List.cons_append, skipSpace_append spaces opens.solid.1]
    split
    · next same => exact absurd (List.cons.inj same).1 opens.solid.2.1
    · refine (Elements.read written ?_).bind ?_
      · simp only [List.length_cons, List.length_append] at enough ⊢
        omega
      · rintro _ rfl
        exact .ok rfl
  | .emptyObject spaces, enough, ends => by
    obtain ⟨fuel, rfl⟩ := Nat.exists_eq_add_one.mpr (Nat.lt_of_lt_of_le (by simp) enough)
    rw [List.cons_append, List.append_assoc, readValue, List.singleton_append,
      skipSpace_append spaces (by decide)]
    exact .ok rfl
  | .object spaces written, enough, ends => by
    obtain ⟨fuel, rfl⟩ := Nat.exists_eq_add_one.mpr (Nat.lt_of_lt_of_le (by simp) enough)
    obtain ⟨t, rfl⟩ := written.head
    rw [List.cons_append, List.append_assoc, List.append_assoc, readValue, List.singleton_append,
      List.cons_append, skipSpace_append spaces (by decide)]
    dsimp only
    refine (Members.read written ?_).bind ?_
    · simp only [List.length_cons, List.length_append] at enough ⊢
      omega
    · rintro _ rfl
      exact .ok rfl

theorem Elements.read {w : List Char} {items : List Json} {fuel : Nat} {rest : List Char} :
    Elements fits w items → 2 * w.length + 1 ≤ fuel →
      Ends (Oversized fits) (fun read => read = (items, rest))
        (readElements fuel (w ++ ']' :: rest))
  | .last written spaces, enough => by
    obtain ⟨fuel, rfl⟩ := Nat.exists_eq_add_one.mpr (Nat.lt_of_lt_of_le (by simp) enough)
    rw [List.append_assoc, readElements]
    refine (Value.read written ?_ (atEnd_append spaces (atEnd_cons (by decide)))).bind ?_
    · rw [List.length_append] at enough
      omega
    · rintro _ rfl
      dsimp only
      rw [skipSpace_append spaces (by decide)]
      exact .ok rfl
  | .more written spaces spaces' others, enough => by
    obtain ⟨fuel, rfl⟩ := Nat.exists_eq_add_one.mpr (Nat.lt_of_lt_of_le (by simp) enough)
    obtain ⟨c, t, rfl, opens⟩ := others.head
    rw [List.append_assoc, List.append_assoc, List.cons_append, List.append_assoc, readElements]
    simp only [List.length_append, List.length_cons] at enough
    refine (Value.read written (by omega)
      (atEnd_append spaces (atEnd_cons (by decide)))).bind ?_
    rintro _ rfl
    dsimp only
    rw [skipSpace_append spaces (by decide)]
    change Ends _ _ ((readElements fuel (skipSpace _)).bind _)
    rw [List.cons_append, skipSpace_append spaces' opens.solid.1]
    refine (Elements.read others (by rw [List.length_cons]; omega)).bind ?_
    rintro _ rfl
    exact .ok rfl

theorem Members.read {w : List Char} {members : List (String × Json)} {fuel : Nat}
    {rest : List Char} :
    Members fits w members → 2 * w.length + 1 ≤ fuel →
      Ends (Oversized fits) (fun read => read = (members, rest))
        (readMembers fuel (w ++ '\x7d' :: rest))
  | .last body spacesA spacesB written spacesC, enough => by
    obtain ⟨fuel, rfl⟩ := Nat.exists_eq_add_one.mpr (Nat.lt_of_lt_of_le (by simp) enough)
    obtain ⟨c, t, rfl, opens⟩ := written.head
    simp only [List.length_append, List.length_cons] at enough
    simp only [List.cons_append, List.append_assoc]
    rw [readMembers_name body spacesA spacesB opens]
    refine (Value.read written (by rw [List.length_cons]; omega)
      (atEnd_append spacesC (atEnd_cons (by decide)))).bind ?_
    rintro _ rfl
    dsimp only
    rw [skipSpace_append spacesC (by decide)]
    exact .ok rfl
  | .more body spacesA spacesB written spacesC spacesD others, enough => by
    obtain ⟨fuel, rfl⟩ := Nat.exists_eq_add_one.mpr (Nat.lt_of_lt_of_le (by simp) enough)
    obtain ⟨c, t, rfl, opens⟩ := written.head
    obtain ⟨u, rfl⟩ := others.head
    simp only [List.length_append, List.length_cons] at enough
    simp only [List.cons_append, List.append_assoc]
    rw [readMembers_name body spacesA spacesB opens]
    refine (Value.read written (by rw [List.length_cons]; omega)
      (atEnd_append spacesC (atEnd_cons (by decide)))).bind ?_
    rintro _ rfl
    dsimp only
    rw [skipSpace_append spacesC (by decide)]
    change Ends _ _ ((readMembers fuel (skipSpace _)).bind _)
    rw [skipSpace_append spacesD (by decide)]
    refine (Members.read others (by rw [List.length_cons]; omega)).bind ?_
    rintro _ rfl
    exact .ok rfl

end

theorem Value.read_short {fuel : Nat} (written : Value Short w v) (enough : 2 * w.length ≤ fuel)
    (ends : AtEnd rest) : readValue fuel (w ++ rest) = .ok (v, rest) := by
  cases read : readValue fuel (w ++ rest) with
  | ok result => rw [(written.read enough ends).result read]
  | error stop =>
    obtain ⟨-, digits, short, long⟩ := (written.read enough ends).fault read
    exact absurd short long

theorem Overlong.head (overlong : Overlong s) : ∃ c t, s = c :: t ∧ Opens c := by
  cases overlong with
  | @number negative digits rest whole _ _ =>
    obtain ⟨c, t, same, atomic⟩ := minus_head negative whole.toDigits rest
    exact ⟨c, t, by rw [minus_append, same], .inr atomic⟩
  | array _ _ | object _ _ => exact ⟨_, _, rfl, .inl (by decide)⟩

theorem OverlongElements.head (overlong : OverlongElements s) : ∃ c t, s = c :: t ∧ Opens c := by
  cases overlong with
  | here overlong => exact overlong.head
  | later written _ _ _ =>
    obtain ⟨c, t, rfl, opens⟩ := written.head
    exact ⟨c, _, rfl, opens⟩

theorem OverlongMembers.head (overlong : OverlongMembers s) : ∃ t, s = '"' :: t := by
  cases overlong <;> exact ⟨_, rfl⟩

/-- A reader stops at a number. -/
def StopsAtNumber {α : Type} (read : Except Stop α) : Prop :=
  Ends (fun stop => ∃ fault, stop.cause = .numeral fault) (fun _ => False) read

theorem StopsAtNumber.bind {α β : Type} {read : Except Stop α} {f : α → Except Stop β}
    (stops : StopsAtNumber read) : StopsAtNumber (read.bind f) :=
  Ends.bind stops (fun _ none => none.elim)

mutual

/-- A text that begins with an overlong value is not read on from its number. -/
theorem Overlong.read {s : List Char} {fuel : Nat} :
    Overlong s → 2 * s.length ≤ fuel → StopsAtNumber (readValue fuel s)
  | .number whole long ends, enough => by
    obtain ⟨c, t, same, atomic⟩ := minus_head _ whole.toDigits _
    obtain ⟨fuel, rfl⟩ := Nat.exists_eq_add_one.mpr
      (Nat.lt_of_lt_of_le (by rw [minus_append, same]; simp) enough)
    rw [minus_append, same, readValue_atom fuel atomic, ← same,
      readAtom_number _ whole.toDigits, ← minus_append, readNumber_whole whole ends,
      if_pos (Nat.not_le.mp long)]
    exact .error ⟨_, rfl⟩
  | .array spaces overlong, enough => by
    obtain ⟨fuel, rfl⟩ := Nat.exists_eq_add_one.mpr (Nat.lt_of_lt_of_le (by simp) enough)
    obtain ⟨c, t, rfl, opens⟩ := overlong.head
    simp only [List.length_cons, List.length_append] at enough
    rw [readValue, skipSpace_append spaces opens.solid.1]
    split
    · next same => exact absurd (List.cons.inj same).1 opens.solid.2.1
    · exact (OverlongElements.read overlong (by rw [List.length_cons]; omega)).bind
  | .object spaces overlong, enough => by
    obtain ⟨fuel, rfl⟩ := Nat.exists_eq_add_one.mpr (Nat.lt_of_lt_of_le (by simp) enough)
    obtain ⟨t, rfl⟩ := overlong.head
    simp only [List.length_cons, List.length_append] at enough
    rw [readValue, skipSpace_append spaces (by decide)]
    exact (OverlongMembers.read overlong (by rw [List.length_cons]; omega)).bind

theorem OverlongElements.read {s : List Char} {fuel : Nat} :
    OverlongElements s → 2 * s.length + 1 ≤ fuel → StopsAtNumber (readElements fuel s)
  | .here overlong, enough => by
    obtain ⟨fuel, rfl⟩ := Nat.exists_eq_add_one.mpr (Nat.lt_of_lt_of_le (by simp) enough)
    rw [readElements]
    exact (Overlong.read overlong (by omega)).bind
  | .later written spaces spaces' overlong, enough => by
    obtain ⟨fuel, rfl⟩ := Nat.exists_eq_add_one.mpr (Nat.lt_of_lt_of_le (by simp) enough)
    obtain ⟨c, t, rfl, opens⟩ := overlong.head
    simp only [List.length_append, List.length_cons] at enough
    rw [readElements,
      written.read_short (by omega) (atEnd_append spaces (atEnd_cons (by decide))), ok_bind]
    dsimp only
    rw [skipSpace_append spaces (by decide)]
    change StopsAtNumber ((readElements fuel (skipSpace _)).bind _)
    rw [skipSpace_append spaces' opens.solid.1]
    exact (OverlongElements.read overlong (by rw [List.length_cons]; omega)).bind

theorem OverlongMembers.read {s : List Char} {fuel : Nat} :
    OverlongMembers s → 2 * s.length + 1 ≤ fuel → StopsAtNumber (readMembers fuel s)
  | .here body spaces spaces' overlong, enough => by
    obtain ⟨fuel, rfl⟩ := Nat.exists_eq_add_one.mpr (Nat.lt_of_lt_of_le (by simp) enough)
    obtain ⟨c, t, rfl, opens⟩ := overlong.head
    simp only [List.length_append, List.length_cons] at enough
    rw [readMembers_name body spaces spaces' opens]
    exact (Overlong.read overlong (by rw [List.length_cons]; omega)).bind
  | .later body spacesA spacesB written spacesC spacesD overlong, enough => by
    obtain ⟨fuel, rfl⟩ := Nat.exists_eq_add_one.mpr (Nat.lt_of_lt_of_le (by simp) enough)
    obtain ⟨c, t, rfl, opens⟩ := written.head
    obtain ⟨u, rfl⟩ := overlong.head
    simp only [List.length_append, List.length_cons] at enough
    rw [List.cons_append, readMembers_name body spacesA spacesB opens, ← List.cons_append,
      written.read_short (by rw [List.length_cons]; omega)
        (atEnd_append spacesC (atEnd_cons (by decide)))]
    dsimp only [Except.bind]
    rw [skipSpace_append spacesC (by decide)]
    change StopsAtNumber ((readMembers fuel (skipSpace _)).bind _)
    rw [skipSpace_append spacesD (by decide)]
    exact (OverlongMembers.read overlong (by rw [List.length_cons]; omega)).bind

end

theorem not_marked (spaces : Spaces a) (opens : Opens c) :
    ((a ++ c :: s).head? == some '\uFEFF') = false := by
  cases a with
  | nil => simpa using opens.solid.2.2
  | cons d a =>
    have all : ∀ d ∈ [' ', '\t', '\n', '\r'], d ≠ '\uFEFF' := forall_of_all (by decide)
    simpa using all d (spaces d (List.mem_cons_self ..))

/-- What is read of a text from its first character on that is no space. -/
theorem read_text (spaces : Spaces a) (opens : Opens c) :
    Json.read (a ++ c :: s) =
      match readValue (2 * (a ++ c :: s).length + 2) (c :: s) with
      | .error stop =>
        .error ⟨stop.cause, a ++ c :: s, (a ++ c :: s).length - stop.rest.length⟩
      | .ok (v, rest) =>
        if (skipSpace rest).isEmpty then .ok v
        else .error ⟨.extraData, a ++ c :: s, (a ++ c :: s).length - (skipSpace rest).length⟩ := by
  rw [Json.read, not_marked spaces opens, skipSpace_append spaces opens.solid.1]
  rfl

/-- A text of the grammar is read as its value, or reading stops at a number in it. -/
theorem read_writes (written : Writes fits s v) :
    Ends (fun fault => (∃ numeral, fault.cause = .numeral numeral) ∧
      ∃ digits, fits digits ∧ ¬Short digits) (fun read => read = v) (Json.read s) := by
  obtain ⟨a, w, b, rfl, spaces, written, spaces'⟩ := written
  have ends : AtEnd b := by
    simpa using atEnd_append spaces' (fun _ _ same => nomatch same : AtEnd [])
  have enough : 2 * w.length ≤ 2 * (a ++ (w ++ b)).length + 2 := by
    simp only [List.length_append]
    omega
  have value := written.read enough ends
  obtain ⟨c, t, rfl, opens⟩ := written.head
  rw [List.cons_append] at value ⊢
  rw [read_text spaces opens]
  split
  · next stop failed => exact .error (value.fault failed)
  · next read =>
    cases value.result read
    rw [if_pos (skipSpace_empty.mpr spaces')]
    exact .ok rfl

/-- A text is read as a value just where the grammar has it with short numbers. -/
theorem read_ok : Json.read s = .ok v ↔ Writes Short s v := by
  constructor
  · intro read
    obtain ⟨a, spaces, whole⟩ := skipSpace_parts s
    unfold Json.read at read
    dsimp only at read
    split at read
    · cases read
    · split at read
      · cases read
      · next v' rest value =>
        split at read
        · next ended =>
          cases read
          obtain ⟨w, same, written⟩ := ((read_sound _).1 _).result value
          rw [same] at whole
          exact ⟨a, w, rest, whole, spaces, written, skipSpace_empty.mp ended⟩
        · cases read
  · intro written
    cases read : Json.read s with
    | ok result => rw [(read_writes written).result read]
    | error fault =>
      obtain ⟨-, digits, short, long⟩ := (read_writes written).fault read
      exact absurd short long

/-- Reading stops at a number just where the text begins with an overlong value. -/
theorem read_numeral :
    (∃ fault numeral, Json.read s = .error fault ∧ fault.cause = .numeral numeral) ↔
      OverlongText s := by
  constructor
  · rintro ⟨fault, numeral, read, cause⟩
    obtain ⟨a, spaces, whole⟩ := skipSpace_parts s
    unfold Json.read at read
    dsimp only at read
    split at read
    · cases read
      cases cause
    · split at read
      · next stop value =>
        cases read
        exact ⟨a, _, whole, spaces, ((read_sound _).1 _).fault value _ cause⟩
      · split at read
        · cases read
        · cases read
          cases cause
  · rintro ⟨a, t, rfl, spaces, overlong⟩
    obtain ⟨c, t, rfl, opens⟩ := overlong.head
    have enough : 2 * (c :: t).length ≤ 2 * (a ++ c :: t).length + 2 := by
      rw [List.length_append]
      omega
    have stops := overlong.read enough
    rw [read_text spaces opens]
    split
    · next stop value =>
      obtain ⟨numeral, cause⟩ := stops.fault value
      exact ⟨_, numeral, rfl, cause⟩
    · next value => exact (stops.result value).elim

/-- A text of the grammar has short numbers only, or it begins with an overlong value. -/
theorem short_or_overlong (written : Writes fits s v) : Writes Short s v ∨ OverlongText s := by
  cases read : Json.read s with
  | ok result =>
    cases (read_writes written).result read
    exact .inl (read_ok.mp read)
  | error fault =>
    obtain ⟨⟨numeral, cause⟩, -⟩ := (read_writes written).fault read
    exact .inr (read_numeral.mp ⟨fault, numeral, read, cause⟩)

end ClusterManifest.Json
