import ClusterManifest.Proofs.Json.Grammar
import ClusterManifest.Proofs.Result

/-! Reading strings: a body up to its closing quote is read as the text it writes, and nothing else
is read. -/

namespace ClusterManifest.Json

open Text.Utf16 (isHighSurrogate isLowSurrogate pairCode)

variable {s start rest more text : List Char} {code : Nat} {c l : Char}

theorem hexCode_iff :
    hexCode? s = some (code, rest) ↔ ∃ digits, s = digits ++ rest ∧ Hex digits code := by
  constructor
  · intro read
    unfold hexCode? at read
    split at read
    · next a b c d after =>
      split at read
      · next first second third fourth =>
        cases read
        exact ⟨[a, b, c, d], rfl, .digits first second third fourth⟩
      · cases read
    · cases read
  · rintro ⟨_, rfl, ⟨first, second, third, fourth⟩⟩
    simp [hexCode?, first, second, third, fourth]

theorem Hex.read {digits : List Char} (hex : Hex digits code) (rest : List Char) :
    hexCode? (digits ++ rest) = some (code, rest) :=
  hexCode_iff.mpr ⟨digits, rfl, hex⟩

theorem Hex.length {digits : List Char} (hex : Hex digits code) : digits.length = 4 := by
  cases hex
  rfl

theorem simpleEscape_iff : simpleEscape? l = some c ↔ Letter l c := by
  constructor
  · intro escape
    unfold simpleEscape? at escape
    split at escape
    all_goals
      cases escape
      try constructor
  · rintro ⟨⟩ <;> rfl

theorem high_not_low (high : isHighSurrogate code = true) : isLowSurrogate code = false := by
  simp only [isHighSurrogate, isLowSurrogate, Bool.and_eq_true, decide_eq_true_eq,
    Bool.and_eq_false_iff, decide_eq_false_iff_not] at high ⊢
  omega

theorem body_of_plain (plain : ∀ c ∈ s, 32 ≤ c.toNat ∧ c ≠ '"' ∧ c ≠ '\\') : Body s s := by
  induction s with
  | nil => exact .empty
  | cons c s ih =>
    obtain ⟨⟨printed, quote, backslash⟩, others⟩ := List.forall_mem_cons.mp plain
    exact .plain printed quote backslash (ih others)

/-- A body that goes on with an escape of digits has the digits whole. -/
theorem Body.digits (written : Body s text) (goes : s ++ '"' :: rest = '\\' :: 'u' :: more) :
    ∃ digits code after, s = '\\' :: 'u' :: (digits ++ after) ∧ Hex digits code ∧
      more = digits ++ (after ++ '"' :: rest) := by
  cases written with
  | empty => cases goes
  | plain _ _ other _ => exact absurd (List.cons.inj goes).1 other
  | letter escape _ =>
    cases escape <;> cases goes
  | unit hex _ _ _ | alone hex _ _ =>
    exact ⟨_, _, _, rfl, hex, by simpa [eq_comm] using goes⟩
  | pair first _ _ _ _ => exact ⟨_, _, _, rfl, first, by simpa [eq_comm] using goes⟩

/-- What digits after a backslash and an u are read as, and what is left then. A high surrogate is
left by itself where no low one follows that is itself followed by anything. -/
inductive Escape : List Char → Char → List Char → Prop
  | unit {digits rest : List Char} {code : Nat} : Hex digits code →
    isHighSurrogate code = false → isLowSurrogate code = false →
    Escape (digits ++ rest) (Char.ofNat code) rest
  | pair {first second rest : List Char} {high low : Nat} : Hex first high → Hex second low →
    isHighSurrogate high = true → isLowSurrogate low = true →
    Escape (first ++ ('\\' :: 'u' :: (second ++ rest))) (Char.ofNat (pairCode high low)) rest
  | high {digits rest : List Char} {code : Nat} : Hex digits code → isHighSurrogate code = true →
    (∀ second low after, rest = '\\' :: 'u' :: (second ++ after) → Hex second low →
      after ≠ [] → isLowSurrogate low = false) →
    Escape (digits ++ rest) '\uFFFD' rest
  | low {digits rest : List Char} {code : Nat} : Hex digits code → isLowSurrogate code = true →
    Escape (digits ++ rest) '\uFFFD' rest

theorem readUnicodeEscape_cases (read : readUnicodeEscape start s = .ok (c, rest)) :
    Escape s c rest := by
  unfold readUnicodeEscape at read
  split at read
  · cases read
  · cases read
  · next code after _ first =>
    obtain ⟨digits, rfl, hex⟩ := hexCode_iff.mp first
    split at read
    · next high =>
      split at read
      · next more _ =>
        split at read
        · next short =>
          cases read
          refine .high hex high (fun second low others same following some => absurd short ?_)
          cases same
          have := List.length_pos_iff.mpr some
          rw [List.length_append, following.length]
          omega
        · split at read
          · cases read
          · next low others second =>
            split at read
            · next paired =>
              obtain ⟨rfl, rfl⟩ := Prod.mk.inj (Except.ok.inj read)
              obtain ⟨following, rfl, hex'⟩ := hexCode_iff.mp second
              exact .pair hex hex' high paired
            · next unpaired =>
              cases read
              refine .high hex high (fun _ _ _ same following _ => ?_)
              cases same
              rw [following.read] at second
              cases second
              simpa using unpaired
      · next other =>
        cases read
        exact .high hex high (fun _ _ _ same _ _ => absurd same (other _))
    · next single =>
      split at read
      · next low =>
        cases read
        exact .low hex low
      · next notLow =>
        obtain ⟨rfl, rfl⟩ := Prod.mk.inj (Except.ok.inj read)
        exact .unit hex (by simpa using single) (by simpa using notLow)

/-- An escape with the body after it makes a body. -/
theorem Escape.body {body : List Char} (escape : Escape s c (body ++ '"' :: rest))
    (written : Body body text) :
    ∃ w, s = w ++ '"' :: rest ∧ Body ('\\' :: 'u' :: w) (c :: text) := by
  generalize whole : body ++ '"' :: rest = after at escape
  cases escape with
  | unit hex single low =>
    exact ⟨_, by rw [← whole, List.append_assoc], .unit hex single low written⟩
  | @pair first second _ _ _ hex hex' high low =>
    exact ⟨first ++ ('\\' :: 'u' :: (second ++ body)), by simp [← whole],
      .pair hex hex' high low written⟩
  | high hex high unpaired =>
    refine ⟨_, by rw [← whole, List.append_assoc], .alone hex (.inl ⟨high, ?_⟩) written⟩
    rintro ⟨second, low, others, rfl, following, paired⟩
    have none := unpaired second low (others ++ '"' :: rest) (by simp [← whole]) following (by simp)
    cases none.symm.trans paired
  | low hex low =>
    exact ⟨_, by rw [← whole, List.append_assoc], .alone hex (.inr low) written⟩

/-- A failure of the syntax, and not of a number. -/
def Syntactic (stop : Stop) : Prop := ∀ fault, stop.cause ≠ .numeral fault

theorem readUnicodeEscape_ends :
    Ends Syntactic (fun read => Escape s read.1 read.2) (readUnicodeEscape start s) := by
  cases read : readUnicodeEscape start s with
  | ok result => exact .ok (readUnicodeEscape_cases read)
  | error stop =>
    have cause : stop.cause = .unicodeEscape := by
      unfold readUnicodeEscape at read
      repeat' split at read
      all_goals
        cases read
        try rfl
    exact .error (fun fault same => by cases cause.symm.trans same)

theorem readStringBody_sound (opening : List Char) (fuel : Nat) (s : List Char) :
    Ends Syntactic (fun read => ∃ w, s = w ++ '"' :: read.2 ∧ Body w read.1)
      (readStringBody opening fuel s) := by
  induction fuel generalizing s with
  | zero => exact .error (fun fault same => nomatch same)
  | succ fuel ih =>
    -- what is read after a character makes a body with it
    have going {c : Char} {rest : List Char}
        (body : ∀ w after text, rest = w ++ '"' :: after → Body w text →
          ∃ u, s = u ++ '"' :: after ∧ Body u (c :: text)) :
        Ends Syntactic (fun read => ∃ w, s = w ++ '"' :: read.2 ∧ Body w read.1)
          (readStringBody opening fuel rest >>= fun read => .ok (c :: read.1, read.2)) := by
      refine (ih rest).bind ?_
      rintro ⟨text, after⟩ ⟨w, same, written⟩
      exact .ok (body w after text same written)
    unfold readStringBody
    split
    · next unended => cases unended
    · exact .error (fun fault same => nomatch same)
    · exact .ok ⟨[], rfl, .empty⟩
    · exact .error (fun fault same => nomatch same)
    · next more same =>
      cases same
      refine readUnicodeEscape_ends.bind ?_
      rintro ⟨c, rest⟩ escape
      refine going (fun w after text same written => ?_)
      subst same
      obtain ⟨u, rfl, longer⟩ := escape.body written
      exact ⟨_, rfl, longer⟩
    · next letter rest _ same =>
      cases same
      split
      · exact .error (fun fault same => nomatch same)
      · next c escape =>
        refine going (fun w after text same written => ?_)
        subst same
        exact ⟨_, rfl, .letter (simpleEscape_iff.mp escape) written⟩
    · next c rest quote alone unicode other same =>
      cases same
      have backslash : c ≠ '\\' := by
        rintro rfl
        cases rest with
        | nil => exact alone rfl rfl
        | cons letter rest => exact other letter rest rfl rfl
      split
      · exact .error (fun fault same => nomatch same)
      · next plain =>
        refine going (fun w after text same written => ?_)
        subst same
        exact ⟨_, rfl, .plain (Nat.not_lt.mp plain) quote backslash written⟩

theorem readUnicodeEscape_single {digits : List Char} (hex : Hex digits code)
    (high : isHighSurrogate code = false) (some : rest ≠ []) :
    readUnicodeEscape start (digits ++ rest) =
      .ok (if isLowSurrogate code then '\uFFFD' else Char.ofNat code, rest) := by
  obtain ⟨c, t, rfl⟩ := List.exists_cons_of_ne_nil some
  simp only [readUnicodeEscape, hex.read, high, Bool.false_eq_true, if_false]
  split <;> rfl

theorem readUnicodeEscape_pair {first second : List Char} {code' : Nat} (hex : Hex first code)
    (hex' : Hex second code') (high : isHighSurrogate code = true)
    (low : isLowSurrogate code' = true) (some : rest ≠ []) :
    readUnicodeEscape start (first ++ ('\\' :: 'u' :: (second ++ rest))) =
      .ok (Char.ofNat (pairCode code code'), rest) := by
  have long : ¬(second ++ rest).length ≤ 4 := by
    have := List.length_pos_iff.mpr some
    rw [List.length_append, hex'.length]
    omega
  simp only [readUnicodeEscape, hex.read, high, low, long, hex'.read, if_true, if_false]

theorem readUnicodeEscape_high {digits : List Char} (hex : Hex digits code)
    (high : isHighSurrogate code = true) (unpaired : ¬StartsLow s) (written : Body s text) :
    readUnicodeEscape start (digits ++ (s ++ '"' :: rest)) = .ok ('\uFFFD', s ++ '"' :: rest) := by
  generalize whole : s ++ '"' :: rest = after
  have some : after ≠ [] := by
    rintro rfl
    simp at whole
  obtain ⟨c, t, rfl⟩ := List.exists_cons_of_ne_nil some
  simp only [readUnicodeEscape, hex.read, high, if_true]
  split
  · next more same =>
    obtain ⟨digits', code', others, rfl, hex', rfl⟩ := written.digits (whole.trans same)
    have single : isLowSurrogate code' = false :=
      Bool.eq_false_iff.mpr (fun low => unpaired ⟨digits', code', others, rfl, hex', low⟩)
    simp only [hex'.read, single, Bool.false_eq_true, if_false, ite_self]
  · rfl

/-- A body with a quote after it is read whole. -/
theorem readStringBody_complete (written : Body s text) {opening : List Char} {fuel : Nat}
    (long : s.length < fuel) :
    readStringBody opening fuel (s ++ '"' :: rest) = .ok (text, rest) := by
  induction written generalizing fuel with
  | empty =>
    obtain ⟨fuel, rfl⟩ := Nat.exists_eq_add_one.mpr long
    rfl
  | @plain c s text printed quote backslash _ ih =>
    obtain ⟨fuel, rfl⟩ := Nat.exists_eq_add_one.mpr (Nat.zero_lt_of_lt long)
    have body := ih (Nat.lt_of_succ_lt_succ long)
    simp [readStringBody, body, backslash, Nat.not_lt.mpr printed, bind, Except.bind]
  | @letter l c s text escape _ ih =>
    obtain ⟨fuel, rfl⟩ := Nat.exists_eq_add_one.mpr (Nat.zero_lt_of_lt long)
    have body := ih (Nat.lt_of_succ_lt_succ (Nat.lt_of_succ_lt long))
    have other : l ≠ 'u' := by
      rintro rfl
      cases escape
    simp [readStringBody, body, simpleEscape_iff.mpr escape, bind, Except.bind]
  | @unit digits s text code hex high low _ ih =>
    obtain ⟨fuel, rfl⟩ := Nat.exists_eq_add_one.mpr (Nat.zero_lt_of_lt long)
    have body := @ih fuel (by simp at long; omega)
    simp [readStringBody, readUnicodeEscape_single hex high, low, body, bind, Except.bind]
  | @pair first second s text code code' hex hex' high low _ ih =>
    obtain ⟨fuel, rfl⟩ := Nat.exists_eq_add_one.mpr (Nat.zero_lt_of_lt long)
    have body := @ih fuel (by simp at long; omega)
    simp [readStringBody, readUnicodeEscape_pair hex hex' high low, body, bind, Except.bind]
  | @alone digits s text code hex surrogate written ih =>
    obtain ⟨fuel, rfl⟩ := Nat.exists_eq_add_one.mpr (Nat.zero_lt_of_lt long)
    have body := @ih fuel (by simp at long; omega)
    rcases surrogate with ⟨high, unpaired⟩ | low
    · simp [readStringBody, readUnicodeEscape_high hex high unpaired written, body, bind,
        Except.bind]
    · have high : isHighSurrogate code = false :=
        Bool.eq_false_iff.mpr (fun high => by cases (high_not_low high).symm.trans low)
      simp [readStringBody, readUnicodeEscape_single hex high, low, body, bind, Except.bind]

theorem readString_sound (s : List Char) :
    Ends Syntactic (fun read => ∃ w text, s = w ++ '"' :: read.2 ∧ Body w text ∧
      read.1 = String.ofList text) (readString ('"' :: s)) := by
  refine (readStringBody_sound _ _ _).bind ?_
  rintro ⟨text, rest⟩ ⟨w, same, written⟩
  exact .ok ⟨w, text, same, written, rfl⟩

theorem readString_complete (written : Body s text) :
    readString ('"' :: (s ++ '"' :: rest)) = .ok (String.ofList text, rest) := by
  have long : s.length < ('"' :: (s ++ '"' :: rest)).length + 1 := by
    rw [List.length_cons, List.length_append]
    omega
  have body : readStringBody ('"' :: (s ++ '"' :: rest)) _ (s ++ '"' :: rest) = _ :=
    readStringBody_complete written long
  simp only [readString, List.drop_one, List.tail_cons, body, bind, Except.bind]

end ClusterManifest.Json
