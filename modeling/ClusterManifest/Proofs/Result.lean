import Mathlib.Data.List.Forall2

/-! Steps that may fail, one after the other: what their success says of each. -/

namespace ClusterManifest

theorem bind_ok {ε α β : Type} {x : Except ε α} {f : α → Except ε β} {b : β} :
    (x >>= f) = .ok b ↔ ∃ a, x = .ok a ∧ f a = .ok b := by
  cases x with
  | error e => simp [bind, Except.bind]
  | ok a => simp [bind, Except.bind]

theorem ok_bind {ε α β : Type} (a : α) (f : α → Except ε β) : (.ok a >>= f) = f a := rfl

theorem bind_error {ε α β : Type} {x : Except ε α} {f : α → Except ε β} {e : ε} :
    (x >>= f) = .error e ↔ x = .error e ∨ ∃ a, x = .ok a ∧ f a = .error e := by
  cases x with
  | error e => simp [bind, Except.bind]
  | ok a => simp [bind, Except.bind]

theorem ok_mapError {ε ε' α : Type} (f : ε → ε') (a : α) :
    (Except.ok a : Except ε α).mapError f = .ok a := rfl

theorem mapError_ok {ε ε' α : Type} {x : Except ε α} {f : ε → ε'} {a : α} :
    x.mapError f = .ok a ↔ x = .ok a := by
  cases x with
  | error e =>
    change Except.error (f e) = .ok a ↔ Except.error e = .ok a
    simp
  | ok b => rw [ok_mapError]; simp

theorem mapError_error {ε ε' α : Type} {x : Except ε α} {f : ε → ε'} {told : ε'} :
    x.mapError f = .error told ↔ ∃ e, x = .error e ∧ f e = told := by
  cases x with
  | error e =>
    change (Except.error (f e) : Except ε' α) = _ ↔ _
    simp
  | ok b => rw [ok_mapError]; simp

theorem ite_ok {ε α : Type} {p : Prop} [Decidable p] {a b : α} {e : ε} :
    (if p then Except.ok a else .error e) = .ok b ↔ p ∧ a = b := by
  split <;> simp [*]

/-- What a step fails with can be computed where its value cannot be compared. -/
theorem error_of_check {ε α : Type} [DecidableEq ε] {x : Except ε α} {fault : ε}
    (check : (match x with
      | .error found => decide (found = fault)
      | .ok _ => false) = true) : x = .error fault := by
  cases x with
  | error found => rw [of_decide_eq_true check]
  | ok a => cases check

theorem ok_of_toOption {ε α : Type} {x : Except ε α} {a : α} (some : x.toOption = some a) :
    x = .ok a := by
  cases x with
  | error e => cases some
  | ok b => rw [Option.some.inj some]

theorem one_ok {ε α β : Type} {x : Except ε α} {f : α → β} :
    (∃ b, (x >>= fun a => .ok (f a)) = .ok b) ↔ ∃ a, x = .ok a := by
  cases x with
  | error e => simp [bind, Except.bind]
  | ok a => simp [bind, Except.bind]

theorem both_ok {ε α β γ : Type} {x : Except ε α} {y : Except ε β} {f : α → β → γ} :
    (∃ c, (x >>= fun a => y >>= fun b => .ok (f a b)) = .ok c) ↔
      (∃ a, x = .ok a) ∧ (∃ b, y = .ok b) := by
  cases x with
  | error e => simp [bind, Except.bind]
  | ok a =>
    cases y with
    | error e => simp [bind, Except.bind]
    | ok b => simp [bind, Except.bind]

theorem map_ok {ε α β : Type} {x : Except ε α} {f : α → β} {b : β} :
    x.map f = .ok b ↔ ∃ a, x = .ok a ∧ f a = b := by
  cases x with
  | error e => simp [Except.map]
  | ok a => simp [Except.map]

theorem mapM_ok {ε α β : Type} {o : Option α} {f : α → Except ε β} {result : Option β} :
    o.mapM f = .ok result ↔
      (o = none ∧ result = none) ∨ ∃ a b, o = some a ∧ f a = .ok b ∧ result = some b := by
  cases o with
  | none => simp [pure, Except.pure, eq_comm]
  | some a =>
    cases made : f a <;> simp [made, Functor.map, Except.map, eq_comm]

theorem option_mapM_error {ε α β : Type} {o : Option α} {f : α → Except ε β} {e : ε} :
    o.mapM f = .error e ↔ ∃ a, o = some a ∧ f a = .error e := by
  cases o with
  | none => simp [pure, Except.pure]
  | some a => cases made : f a <;> simp [made, Functor.map, Except.map]

namespace Results

variable {ε α β : Type} {f : α → Except ε β} {xs : List α} {ys : List β}

theorem all_ok : (∃ ys, xs.mapM f = .ok ys) ↔ ∀ x ∈ xs, ∃ y, f x = .ok y := by
  induction xs with
  | nil => simp [pure, Except.pure]
  | cons x xs ih =>
    rw [List.mapM_cons, List.forall_mem_cons, ← ih]
    exact both_ok (f := List.cons)

theorem mem_all (made : xs.mapM f = .ok ys) (y : β) :
    y ∈ ys ↔ ∃ x ∈ xs, f x = .ok y := by
  induction xs generalizing ys with
  | nil =>
    cases made
    simp
  | cons x xs ih =>
    rw [List.mapM_cons] at made
    obtain ⟨first, here, rest⟩ := bind_ok.mp made
    obtain ⟨others, later, same⟩ := bind_ok.mp rest
    cases same
    simp [ih later, here, eq_comm]

theorem mapM_error {fault : ε}
    (failed : xs.mapM f = .error fault) : ∃ x ∈ xs, f x = .error fault := by
  induction xs with
  | nil => cases failed
  | cons x xs ih =>
    rw [List.mapM_cons] at failed
    rcases bind_error.mp failed with here | ⟨_, -, rest⟩
    · exact ⟨x, List.mem_cons_self .., here⟩
    · rcases bind_error.mp rest with later | ⟨_, -, done⟩
      · obtain ⟨other, among, unmade⟩ := ih later
        exact ⟨other, List.mem_cons_of_mem _ among, unmade⟩
      · cases done

end Results

/-- A step ends with a result of a kind, or with a fault of a kind. -/
inductive Ends {ε α : Type} (known : ε → Prop) (good : α → Prop) : Except ε α → Prop
  | ok {result : α} (here : good result) : Ends known good (.ok result)
  | error {fault : ε} (failed : known fault) : Ends known good (.error fault)

def Any {α : Type} (_ : α) : Prop := True

namespace Ends

variable {ε α β : Type} {known : ε → Prop} {good : α → Prop} {after : β → Prop}

theorem imp {known' : ε → Prop} {good' : α → Prop} {x : Except ε α} (ends : Ends known good x)
    (told : ∀ e, known e → known' e) (kept : ∀ a, good a → good' a) : Ends known' good' x := by
  cases ends with
  | ok here => exact ok (kept _ here)
  | error failed => exact error (told _ failed)

theorem bind {x : Except ε α} {f : α → Except ε β} (first : Ends known good x)
    (rest : ∀ a, good a → Ends known after (f a)) : Ends known after (x >>= f) := by
  cases first with
  | ok here => exact rest _ here
  | error failed => exact error failed

theorem map {x : Except ε α} {f : α → β} (first : Ends known good x)
    (kept : ∀ a, good a → after (f a)) : Ends known after (x.map f) := by
  cases first with
  | ok here => exact ok (kept _ here)
  | error failed => exact error failed

theorem mapError {ε' : Type} {knownAfter : ε' → Prop} {f : ε → ε'} {x : Except ε α}
    (first : Ends known good x) (told : ∀ e, known e → knownAfter (f e)) :
    Ends knownAfter good (x.mapError f) := by
  cases first with
  | ok here => exact ok here
  | error failed => exact error (told _ failed)

theorem mapM {f : α → Except ε β} (each : ∀ a, Ends known Any (f a)) (o : Option α) :
    Ends known Any (o.mapM f) := by
  cases o with
  | none => exact ok trivial
  | some a =>
    rw [Option.mapM_some]
    exact map (each a) (fun _ _ => trivial)

theorem any (x : Except ε α) : Ends Any Any x := by
  cases x with
  | ok a => exact ok trivial
  | error e => exact error trivial

theorem ite {p : Prop} [Decidable p] {x y : Except ε α} (yes : Ends known good x)
    (no : Ends known good y) : Ends known good (if p then x else y) := by
  split
  · exact yes
  · exact no

theorem fault {x : Except ε α} {fault : ε} (ends : Ends known good x)
    (failed : x = .error fault) : known fault := by
  subst failed
  cases ends with
  | error known => exact known

theorem result {x : Except ε α} {a : α} (ends : Ends known good x) (made : x = .ok a) :
    good a := by
  subst made
  cases ends with
  | ok here => exact here

end Ends

end ClusterManifest
