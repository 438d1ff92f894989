import ClusterManifest.Proofs.Yaml.Plain
import ClusterManifest.Yaml.Token.Stream

/-! A pass over a text, cut at the places where a token is due. A round first arrives at such a
place, past spaces and line breaks, and then takes the token. What a round does depends on the
text from the place on alone and on a few parts of the state, so that rounds can be put in a
row without a count of them. -/

namespace ClusterManifest.Yaml

/-- A text that goes on, if it does, with the start of a token. -/
def StartsToken (t : List Char) : Prop :=
  ∀ x, t.head? = some x → isPrintable x = true ∧ x ≠ ' ' ∧ x ≠ '#'

theorem startsToken_cons {x : Char} {t : List Char} (printable : isPrintable x = true)
    (text : x ≠ ' ') (other : x ≠ '#') : StartsToken (x :: t) := by
  intro y hy
  cases hy
  exact ⟨printable, text, other⟩

theorem startsToken_nil : StartsToken [] := by
  intro y hy
  cases hy

theorem StartsToken.solid {t : List Char} (starts : StartsToken t) : StartsSolid t :=
  fun x hx => Style.solid_of_printable (starts x hx).1 (starts x hx).2.1

namespace Lexing

/-- The state in which the next token is due. -/
def arrive (l : Lexing) : Except Fault Lexing := do
  let ready ← l.dropStale
  let next ← (ready.skipMark.skipToToken (ready.cursor.rest.length + 1)).dropStale
  .ok (next.unwindTo next.cursor.column)

/-- The text is not over with the tokens so far. -/
def Unfinished (l : Lexing) : Prop := l.tokens.getLast? ≠ some .streamEnd

theorem dropStale_fault {l : Lexing} {fault : Fault} (failed : l.dropStale = .error fault) :
    fault = .malformed := by
  unfold dropStale at failed
  split at failed
  · cases failed
    rfl
  · cases failed

theorem run_arrive {l m : Lexing} (fuel : Nat) (arrived : l.arrive = .ok m) :
    (∀ l', m.token = .ok l' → run (fuel + 1) l =
        if l'.tokens.getLast? == some .streamEnd then .ok l'.tokens else run fuel l') ∧
      (m.token = .error .malformed → run (fuel + 1) l = .error .malformed) := by
  unfold arrive at arrived
  cases first : l.dropStale with
  | error fault => simp [first, bind, Except.bind] at arrived
  | ok ready =>
    simp only [first, bind, Except.bind] at arrived
    cases second : (ready.skipMark.skipToToken (ready.cursor.rest.length + 1)).dropStale with
    | error fault => simp [second] at arrived
    | ok next =>
      simp only [second, Except.ok.injEq] at arrived
      constructor
      · intro l' token
        simp only [run, first, second, arrived, token, bind, Except.bind]
      · intro token
        simp only [run, first, second, arrived, token, bind, Except.bind]

theorem run_lost {l : Lexing} (fuel : Nat) {fault : Fault} (lost : l.arrive = .error fault) :
    run (fuel + 1) l = .error .malformed := by
  unfold arrive at lost
  cases first : l.dropStale with
  | error fault =>
    cases dropStale_fault first
    simp only [run, first, bind, Except.bind]
  | ok ready =>
    simp only [first, bind, Except.bind] at lost
    cases second : (ready.skipMark.skipToToken (ready.cursor.rest.length + 1)).dropStale with
    | error fault =>
      cases dropStale_fault second
      simp only [run, first, second, bind, Except.bind]
    | ok next => simp [second] at lost

/-- From the first state rounds lead to an arrival at the second, none but the last of them
without a token. -/
inductive Leads : Lexing → Lexing → Prop
  | here {l m : Lexing} (arrived : l.arrive = .ok m)
      (within : m.cursor.rest.length ≤ l.cursor.rest.length) : Leads l m
  | token {l m l' m' : Lexing} (arrived : l.arrive = .ok m)
      (within : m.cursor.rest.length ≤ l.cursor.rest.length) (taken : m.token = .ok l')
      (unfinished : l'.Unfinished) (shorter : l'.cursor.rest.length < m.cursor.rest.length)
      (more : Leads l' m') : Leads l m'

/-- From the state on the text is found to be malformed. -/
def Fails (l : Lexing) : Prop :=
  ∀ fuel, l.cursor.rest.length < fuel → run fuel l = .error .malformed

theorem Leads.trans {l m l' m' : Lexing} (leads : Leads l m) (taken : m.token = .ok l')
    (unfinished : l'.Unfinished) (shorter : l'.cursor.rest.length < m.cursor.rest.length)
    (more : Leads l' m') : Leads l m' := by
  induction leads with
  | here arrived within => exact .token arrived within taken unfinished shorter more
  | token arrived within first going less _ ih =>
    exact .token arrived within first going less (ih taken shorter)

theorem fails_token {l m l' : Lexing} (arrived : l.arrive = .ok m)
    (within : m.cursor.rest.length ≤ l.cursor.rest.length) (taken : m.token = .ok l')
    (unfinished : l'.Unfinished) (shorter : l'.cursor.rest.length < m.cursor.rest.length)
    (fails : Fails l') : Fails l := by
  intro fuel enough
  obtain ⟨fuel, rfl⟩ := Nat.exists_eq_succ_of_ne_zero (Nat.ne_of_gt (Nat.zero_lt_of_lt enough))
  have going : (l'.tokens.getLast? == some .streamEnd) = false :=
    beq_eq_false_iff_ne.mpr unfinished
  rw [(run_arrive fuel arrived).1 l' taken, going]
  exact fails fuel (by omega)

theorem fails_of_arrive {l : Lexing} {fault : Fault} (lost : l.arrive = .error fault) :
    Fails l := by
  intro fuel enough
  obtain ⟨fuel, rfl⟩ := Nat.exists_eq_succ_of_ne_zero (Nat.ne_of_gt (Nat.zero_lt_of_lt enough))
  exact run_lost fuel lost

theorem fails_of_token {l m : Lexing} (arrived : l.arrive = .ok m)
    (lost : m.token = .error .malformed) : Fails l := by
  intro fuel enough
  obtain ⟨fuel, rfl⟩ := Nat.exists_eq_succ_of_ne_zero (Nat.ne_of_gt (Nat.zero_lt_of_lt enough))
  exact (run_arrive fuel arrived).2 lost

theorem Leads.fails {l m l' : Lexing} (leads : Leads l m) (taken : m.token = .ok l')
    (unfinished : l'.Unfinished) (shorter : l'.cursor.rest.length < m.cursor.rest.length)
    (fails : Fails l') : Fails l := by
  induction leads with
  | here arrived within => exact fails_token arrived within taken unfinished shorter fails
  | token arrived within first going less _ ih =>
    exact fails_token arrived within first going less (ih taken shorter)

/-- Where rounds lead to the last token, the tokens are those of the pass. -/
theorem Leads.run {l m l' : Lexing} (leads : Leads l m) (taken : m.token = .ok l')
    (finished : l'.tokens.getLast? = some .streamEnd) :
    ∀ fuel, l.cursor.rest.length < fuel → Lexing.run fuel l = .ok l'.tokens := by
  induction leads with
  | here arrived within =>
    intro fuel enough
    obtain ⟨fuel, rfl⟩ :=
      Nat.exists_eq_succ_of_ne_zero (Nat.ne_of_gt (Nat.zero_lt_of_lt enough))
    rw [(run_arrive fuel arrived).1 l' taken, finished]
    rfl
  | token arrived within first going less _ ih =>
    intro fuel enough
    obtain ⟨fuel, rfl⟩ :=
      Nat.exists_eq_succ_of_ne_zero (Nat.ne_of_gt (Nat.zero_lt_of_lt enough))
    rw [(run_arrive fuel arrived).1 _ first, beq_eq_false_iff_ne.mpr going]
    exact ih taken fuel (by omega)

/-- Rounds lead from one state to another if a condition holds, and fail if not. -/
structure Passes (l : Lexing) (fits : Prop) (m : Lexing) : Prop where
  leads : fits → Leads l m
  fails : ¬fits → Fails l

theorem Leads.passes {l m : Lexing} (leads : Leads l m) : Passes l True m :=
  ⟨fun _ => leads, fun h => absurd trivial h⟩

/-- From a place where a token is due rounds lead to another if a condition holds, and fail
if not. -/
structure Goes (m : Lexing) (fits : Prop) (m' : Lexing) : Prop where
  going : ∃ l, m.token = .ok l ∧ l.Unfinished ∧
    l.cursor.rest.length < m.cursor.rest.length ∧ Passes l fits m'

theorem Passes.goes {l m m' : Lexing} {first second : Prop} (passes : Passes l first m)
    (goes : Goes m second m') : Passes l (first ∧ second) m' := by
  obtain ⟨l', taken, unfinished, shorter, more⟩ := goes.going
  constructor
  · rintro ⟨holds, both⟩
    exact (passes.leads holds).trans taken unfinished shorter (more.leads both)
  · intro lacks
    by_cases holds : first
    · have lacks : ¬second := fun both => lacks ⟨holds, both⟩
      exact (passes.leads holds).fails taken unfinished shorter (more.fails lacks)
    · exact passes.fails holds

theorem Goes.trans {m m' m'' : Lexing} {first second : Prop} (goes : Goes m first m')
    (more : Goes m' second m'') : Goes m (first ∧ second) m'' := by
  obtain ⟨l, taken, unfinished, shorter, passes⟩ := goes.going
  exact ⟨l, taken, unfinished, shorter, passes.goes more⟩

theorem Passes.congr {l m : Lexing} {first second : Prop} (passes : Passes l first m)
    (same : first ↔ second) : Passes l second m :=
  ⟨fun holds => passes.leads (same.mpr holds), fun lacks => passes.fails (lacks ∘ same.mp)⟩

theorem Goes.congr {m m' : Lexing} {first second : Prop} (goes : Goes m first m')
    (same : first ↔ second) : Goes m second m' := by
  obtain ⟨l, taken, unfinished, shorter, passes⟩ := goes.going
  exact ⟨l, taken, unfinished, shorter, passes.congr same⟩

end Lexing

end ClusterManifest.Yaml
