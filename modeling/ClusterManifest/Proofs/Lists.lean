/-! Lists: a step that may fail for each element, and what is decided of each. -/

namespace ClusterManifest

theorem mapM_of_all {α β : Type} {f : α → Option β} {g : α → β} {s : List α}
    (all : ∀ a ∈ s, f a = some (g a)) : s.mapM f = some (s.map g) := by
  induction s with
  | nil => rfl
  | cons a s ih =>
    have first := all a (List.mem_cons_self ..)
    have more := ih (fun b hb => all b (List.mem_cons_of_mem _ hb))
    rw [List.mapM_cons, first, more]
    rfl

theorem mapM_cons_some {α β : Type} {f : α → Option β} {a : α} {s : List α} {t : List β} :
    (a :: s).mapM f = some t ↔ ∃ b u, f a = some b ∧ s.mapM f = some u ∧ t = b :: u := by
  rw [List.mapM_cons]
  cases f a with
  | none => simp
  | some b =>
    cases s.mapM f with
    | none => simp
    | some u => simp [eq_comm]

theorem mem_of_mapM {α β : Type} {f : α → Option β} {s : List α} {t : List β}
    (all : s.mapM f = some t) {b : β} (among : b ∈ t) : ∃ a ∈ s, f a = some b := by
  induction s generalizing t with
  | nil =>
    cases all
    cases among
  | cons a s ih =>
    obtain ⟨c, u, first, more, rfl⟩ := mapM_cons_some.mp all
    rcases List.mem_cons.mp among with rfl | later
    · exact ⟨a, List.mem_cons_self .., first⟩
    · obtain ⟨d, within, gives⟩ := ih more later
      exact ⟨d, List.mem_cons_of_mem _ within, gives⟩

theorem length_of_mapM {α β : Type} {f : α → Option β} {s : List α} {t : List β}
    (all : s.mapM f = some t) : t.length = s.length := by
  induction s generalizing t with
  | nil =>
    cases all
    rfl
  | cons a s ih =>
    obtain ⟨c, u, -, more, rfl⟩ := mapM_cons_some.mp all
    rw [List.length_cons, List.length_cons, ih more]

/-- What is decided of each element is decided of all. -/
theorem forall_of_all {α : Type} {p : α → Prop} [DecidablePred p] {s : List α}
    (all : s.all (fun a => decide (p a)) = true) : ∀ a ∈ s, p a :=
  fun a among => of_decide_eq_true (List.all_eq_true.mp all a among)

end ClusterManifest
