import ClusterManifest.Action
import ClusterManifest.Proofs.Result

/-! What an action comes to: a value and the files after it. An action that is made of parts yields
what its parts yield one after the other. -/

namespace ClusterManifest.Action

variable {α β : Type} {files after : FileTree}

/-- An action ends with a value, on files that it leaves as given. -/
def Yields (action : Action α) (files : FileTree) (value : α) (after : FileTree) : Prop :=
  (action.run files).result = .ok value ∧ (action.run files).files = after

theorem yields_done {value result : α} :
    Yields (.done value) files result after ↔ value = result ∧ files = after := by
  simp [Yields, run]

theorem not_yields_fail {failure : Failure} {result : α} :
    ¬Yields (.fail failure) files result after := by
  simp [Yields, run]

theorem yields_bind {action : Action α} {f : α → Action β} {result : β} :
    Yields (action.bind f) files result after ↔
      ∃ value mid, Yields action files value mid ∧ Yields (f value) mid result after := by
  unfold Yields
  rw [run_bind]
  cases ended : (action.run files).result with
  | error failure => simp
  | ok value =>
    simp only [Except.ok.injEq]
    constructor
    · exact fun both => ⟨value, _, ⟨rfl, rfl⟩, both⟩
    · rintro ⟨other, mid, ⟨rfl, rfl⟩, both⟩
      exact both

theorem yields_attempt {action : Action α} {result : Except Failure α} :
    Yields action.attempt files result after ↔
      (action.run files).result = result ∧ (action.run files).files = after := by
  simp [Yields, run_attempt]

theorem yields_ofExcept {ε : Type} {toFailure : ε → Failure} {x : Except ε α} {result : α} :
    Yields (ofExcept toFailure x) files result after ↔ x = .ok result ∧ files = after := by
  cases x with
  | error fault => simp [ofExcept, not_yields_fail]
  | ok value => simp [ofExcept, yields_done]

theorem yields_present {item : Console.Item} {next : Action α} {result : α} :
    Yields (.present item next) files result after ↔ Yields next files result after := Iff.rfl

theorem yields_tell {item : Except Console.Fault Console.Item} :
    Yields (tell item) files () after ↔ (∃ shown, item = .ok shown) ∧ files = after := by
  cases item with
  | error fault => simp [tell, not_yields_fail]
  | ok shown => simp [tell, yields_present, yields_done]

/-- An action ends with a failure, on files that it leaves as given. -/
def Fails (action : Action α) (files : FileTree) (failure : Failure) (after : FileTree) : Prop :=
  (action.run files).result = .error failure ∧ (action.run files).files = after

variable {failure : Failure}

theorem not_fails_of_yields {action : Action α} {value : α} {other : FileTree}
    (yields : Yields action files value other) : ¬Fails action files failure after :=
  fun failed => nomatch yields.1.symm.trans failed.1

theorem not_fails_done {value : α} : ¬Fails (.done value) files failure after := by
  simp [Fails, run]

theorem fails_fail {other : Failure} :
    Fails (.fail other : Action α) files failure after ↔ other = failure ∧ files = after := by
  simp [Fails, run]

/-- An action that is made of parts fails where its first part fails, or the others on what that
leaves. -/
theorem fails_bind {action : Action α} {f : α → Action β} :
    Fails (action.bind f) files failure after ↔ Fails action files failure after ∨
      ∃ value mid, Yields action files value mid ∧ Fails (f value) mid failure after := by
  unfold Fails Yields
  rw [run_bind]
  cases ended : (action.run files).result with
  | error other => simp
  | ok value =>
    simp only [reduceCtorEq, false_and, false_or, Except.ok.injEq]
    constructor
    · exact fun both => ⟨value, _, ⟨rfl, rfl⟩, both⟩
    · rintro ⟨other, mid, ⟨rfl, rfl⟩, both⟩
      exact both

theorem fails_ofExcept {ε : Type} {toFailure : ε → Failure} {x : Except ε α} :
    Fails (ofExcept toFailure x) files failure after ↔
      (∃ fault, x = .error fault ∧ toFailure fault = failure) ∧ files = after := by
  cases x with
  | error fault => simp [ofExcept, fails_fail]
  | ok value => simp [ofExcept, not_fails_done]

theorem fails_tell {item : Except Console.Fault Console.Item} :
    Fails (tell item) files failure after ↔
      (∃ fault, item = .error fault ∧ .console fault = failure) ∧ files = after := by
  cases item with
  | error fault => simp [tell, fails_fail]
  | ok shown => simp [tell, Fails, run, Outcome.after]

/-- What ends an action that is made of parts ends one of its parts. -/
theorem ends_bind {known : Failure → Prop} {good : α → Prop} {later : β → Prop}
    {action : Action α} {f : α → Action β} (first : Ends known good (action.run files).result)
    (rest : ∀ value mid, Yields action files value mid → good value →
      Ends known later ((f value).run mid).result) :
    Ends known later ((action.bind f).run files).result := by
  rw [run_bind]
  cases ended : (action.run files).result with
  | error failure => exact .error (first.fault ended)
  | ok value => exact rest value _ ⟨ended, rfl⟩ (first.result ended)

theorem ends_ofExcept {ε : Type} {known : ε → Prop} {told : Failure → Prop} {good : α → Prop}
    {toFailure : ε → Failure} {x : Except ε α} (ends : Ends known good x)
    (tells : ∀ fault, known fault → told (toFailure fault)) :
    Ends told good ((ofExcept toFailure x).run files).result := by
  cases ends with
  | ok here => exact .ok here
  | error failed => exact .error (tells _ failed)

/-- An action that does no more than read and show. -/
def Reading : Action α → Prop
  | .done _ | .fail _ => True
  | .readFile _ next => ∀ answer, Reading (next answer)
  | .isDirectory _ next => ∀ answer, Reading (next answer)
  | .makeDirectory _ _ | .writeFile _ _ _ => False
  | .present _ next => Reading next

theorem reading_bind {action : Action α} {f : α → Action β} (first : Reading action)
    (rest : ∀ value, Reading (f value)) : Reading (action.bind f) := by
  induction action with
  | done value => exact rest value
  | fail failure => exact trivial
  | readFile path next ih => exact fun answer => ih answer (first answer)
  | isDirectory path next ih => exact fun answer => ih answer (first answer)
  | makeDirectory path next ih => exact first.elim
  | writeFile path data next ih => exact first.elim
  | present item next ih => exact ih first

theorem files_of_reading {action : Action α} (reads : Reading action) (files : FileTree) :
    (action.run files).files = files := by
  induction action with
  | done value => rfl
  | fail failure => rfl
  | readFile path next ih => exact ih _ (reads _)
  | isDirectory path next ih => exact ih _ (reads _)
  | makeDirectory path next ih => exact reads.elim
  | writeFile path data next ih => exact reads.elim
  | present item next ih => exact ih reads

/-- An action that does no more than read. -/
def Asking : Action α → Prop
  | .done _ | .fail _ => True
  | .readFile _ next => ∀ answer, Asking (next answer)
  | .isDirectory _ next => ∀ answer, Asking (next answer)
  | _ => False

theorem asking_bind {action : Action α} {f : α → Action β} (first : Asking action)
    (rest : ∀ value, Asking (f value)) : Asking (action.bind f) := by
  induction action with
  | done value => exact rest value
  | fail failure => trivial
  | readFile path next ih => exact fun answer => ih answer (first answer)
  | isDirectory path next ih => exact fun answer => ih answer (first answer)
  | makeDirectory _ _ _ | writeFile _ _ _ _ | present _ _ _ => exact first.elim

theorem asking_ofExcept {ε : Type} {toFailure : ε → Failure} {x : Except ε α} :
    Asking (ofExcept toFailure x) := by
  cases x <;> trivial

/-- It leaves the files as they are and shows nothing. -/
theorem run_of_asking {action : Action α} (asks : Asking action) (files : FileTree) :
    action.run files = ⟨(action.run files).result, [], files⟩ := by
  induction action with
  | done value => rfl
  | fail failure => rfl
  | readFile path next ih => exact ih _ (asks _)
  | isDirectory path next ih => exact ih _ (asks _)
  | makeDirectory _ _ _ | writeFile _ _ _ _ | present _ _ _ => exact asks.elim

theorem files_of_asking {action : Action α} (asks : Asking action) (files : FileTree) :
    (action.run files).files = files :=
  congrArg Outcome.files (run_of_asking asks files)

/-- An action that does no more than show. -/
def Showing : Action α → Prop
  | .done _ | .fail _ => True
  | .present _ next => Showing next
  | _ => False

theorem showing_bind {action : Action α} {f : α → Action β} (first : Showing action)
    (rest : ∀ value, Showing (f value)) : Showing (action.bind f) := by
  induction action with
  | done value => exact rest value
  | fail failure => exact trivial
  | present item next ih => exact ih first
  | readFile _ _ _ | isDirectory _ _ _ | makeDirectory _ _ _ | writeFile _ _ _ _ => exact first.elim

theorem showing_ofExcept {ε : Type} {toFailure : ε → Failure} {x : Except ε α} :
    Showing (ofExcept toFailure x) := by
  cases x <;> trivial

theorem showing_tell {item : Except Console.Fault Console.Item} : Showing (tell item) := by
  cases item <;> trivial

theorem reading_of_showing {action : Action α} (shows : Showing action) : Reading action := by
  induction action with
  | done value => trivial
  | fail failure => trivial
  | present item next ih => exact ih shows
  | readFile _ _ _ | isDirectory _ _ _ | makeDirectory _ _ _ | writeFile _ _ _ _ => exact shows.elim

theorem yields_of_showing {action : Action α} (shows : Showing action) {result : α}
    (yields : Yields action files result after) (other : FileTree) :
    Yields action other result other ∧ after = files := by
  induction action with
  | done value =>
    obtain ⟨rfl, rfl⟩ := yields_done.mp yields
    exact ⟨⟨rfl, rfl⟩, rfl⟩
  | fail failure => exact absurd yields not_yields_fail
  | present item next ih => exact ih shows yields
  | readFile _ _ _ | isDirectory _ _ _ | makeDirectory _ _ _ | writeFile _ _ _ _ => exact shows.elim

/-- An action that ends and shows some things, whatever files there are. -/
def Shows (action : Action Unit) (items : List Console.Item) : Prop :=
  ∀ files, action.run files = ⟨.ok (), items, files⟩

theorem Shows.run_bind {action : Action Unit} {items : List Console.Item}
    (shows : Shows action items) (f : Unit → Action β) (files : FileTree) :
    (action.bind f).run files = ⟨((f ()).run files).result,
      items ++ ((f ()).run files).shown, ((f ()).run files).files⟩ := by
  rw [Action.run_bind, shows files]

theorem shows_tell {item : Console.Item} {made : Except Console.Fault Console.Item}
    (ok : made = .ok item) : Shows (tell made) [item] := by
  rw [ok]
  exact fun _ => rfl

end ClusterManifest.Action
