import ClusterManifest.Proofs.Manifest.WellFormed
import ClusterManifest.Store

/-! Sessions with a store: requests of all kinds, one after another. A request that puts no
manifest into the store leaves it as it was, so what is stored is what the last successful one of
composing and loading gave. -/

namespace ClusterManifest

/-- A manifest as it may be stored: it lacks nothing, no network in it has a host bit, and no count
is negative. -/
structure Manifest.Sound (m : Manifest) : Prop where
  complete : m.violation? = none
  networks : m.networking.WellFormed
  counts : (∀ network ∈ m.networking.clusterNetworks, (0 : Int) ≤ network.hostSubnetLength) ∧
    ∀ pool ∈ m.machines, ∀ n, pool.replicas = some n → (0 : Int) ≤ n

theorem Manifest.sound {m : Manifest} (complete : m.violation? = none)
    (networks : m.networking.WellFormed) : m.Sound :=
  ⟨complete, networks, fun _ _ => Int.natCast_nonneg _, fun _ _ _ _ => Int.natCast_nonneg _⟩

namespace Store

inductive Request
  | generate (inputs : Inputs) (defaults : Defaults)
  | load (fetched : Fetched)
  | stored
  | files

inductive Answer
  | generated (result : Except Failure Manifest)
  | loaded (result : Except Failure Bool)
  | stored (result : Except Failure Manifest)
  | files (result : Except Failure (List NamedFile))

/-- A manifest was composed, or there was one to be loaded. -/
def Answer.succeeded : Answer → Bool
  | .generated (.ok _) => true
  | .loaded (.ok true) => true
  | _ => false

def perform (store : Store) : Request → Answer × Store
  | .generate inputs defaults =>
    let (result, next) := store.generate inputs defaults
    (.generated result, next)
  | .load fetched =>
    let (result, next) := store.load fetched
    (.loaded result, next)
  | .stored => (.stored store.stored, store)
  | .files => (.files store.files, store)

def after (store : Store) (requests : List Request) : Store :=
  requests.foldl (fun store request => (store.perform request).2) store

def answers : Store → List Request → List Answer
  | _, [] => []
  | store, request :: requests =>
    (store.perform request).1 :: answers (store.perform request).2 requests

/-- What a successful request puts into the store: the manifest that it composed, or the one that
it read from what was fetched. -/
inductive Gives : Request → Answer → Manifest → Prop
  | composed {inputs : Inputs} {defaults : Defaults} {m : Manifest} :
    Manifest.compose inputs defaults = .ok m →
      Gives (.generate inputs defaults) (.generated (.ok m)) m
  | read {data : Text.Bytes} {m : Manifest} :
    Manifest.read data = .ok m → m.violation? = none →
      Gives (.load (.data data)) (.loaded (.ok true)) m

variable {store : Store} {request : Request}

theorem accept_ok {data : Text.Bytes} {m : Manifest} :
    accept data = .ok m ↔ Manifest.read data = .ok m ∧ m.violation? = none := by
  unfold accept
  cases read : Manifest.read data with
  | error fault => simp
  | ok found =>
    cases lack : found.violation? with
    | some violation =>
      simp only [lack, reduceCtorEq, Except.ok.injEq, false_iff]
      rintro ⟨rfl, none⟩
      rw [lack] at none
      cases none
    | none =>
      simp only [lack, Except.ok.injEq]
      constructor
      · rintro rfl
        exact ⟨rfl, lack⟩
      · exact fun both => both.1

/-- A request either succeeds and its manifest is stored, or changes nothing. -/
theorem perform_cases (store : Store) (request : Request) :
    (∃ m, (store.perform request).2 = ⟨some m⟩ ∧ (store.perform request).1.succeeded = true ∧
      Gives request (store.perform request).1 m) ∨
    ((store.perform request).2 = store ∧ (store.perform request).1.succeeded = false) := by
  cases request with
  | generate inputs defaults =>
    cases composed : Manifest.compose inputs defaults with
    | ok m =>
      left
      refine ⟨m, ?_⟩
      simp only [perform, generate, composed]
      exact ⟨trivial, rfl, .composed composed⟩
    | error failure =>
      right
      simp only [perform, generate, composed]
      exact ⟨trivial, rfl⟩
  | load fetched =>
    cases fetched with
    | absent => exact .inr ⟨rfl, rfl⟩
    | failed fault => exact .inr ⟨rfl, rfl⟩
    | data data =>
      cases accepted : accept data with
      | ok m =>
        left
        refine ⟨m, ?_⟩
        simp only [perform, load, accepted]
        exact ⟨trivial, rfl, .read (accept_ok.mp accepted).1 (accept_ok.mp accepted).2⟩
      | error failure =>
        right
        simp only [perform, load, accepted]
        exact ⟨trivial, rfl⟩
  | stored => exact .inr ⟨rfl, rfl⟩
  | files => exact .inr ⟨rfl, rfl⟩

theorem Gives.sound {answer : Answer} {m : Manifest} (gives : Gives request answer m) :
    m.Sound := by
  cases gives with
  | composed composed =>
    obtain ⟨complete, layout, -⟩ := Manifest.compose_ok composed
    exact Manifest.sound complete (Networking.wellFormed_ofDefaults layout)
  | read loaded complete =>
    exact Manifest.sound complete (Manifest.wellFormed_read loaded).networking

/-- What holds of the manifest in a store, and of the one that a request gives, holds after the
request. -/
theorem perform_keeps {P : Manifest → Prop}
    (given : ∀ answer m, Gives request answer m → P m)
    (kept : ∀ m, store.manifest? = some m → P m) :
    ∀ m, (store.perform request).2.manifest? = some m → P m := by
  rcases perform_cases store request with ⟨m, next, -, gives⟩ | ⟨same, -⟩
  · intro other stored
    rw [next] at stored
    cases stored
    exact given _ _ gives
  · rw [same]
    exact kept

/-- What holds of every manifest that a request gives holds after all of them. -/
theorem after_keeps {P : Manifest → Prop} {requests : List Request}
    (given : ∀ request ∈ requests, ∀ answer m, Gives request answer m → P m)
    (kept : ∀ m, store.manifest? = some m → P m) :
    ∀ m, (store.after requests).manifest? = some m → P m := by
  induction requests generalizing store with
  | nil => exact kept
  | cons request requests ih =>
    have first := perform_keeps (given request (List.mem_cons_self ..)) kept
    exact ih (fun r among => given r (List.mem_cons_of_mem _ among)) first

theorem after_sound (requests : List Request) :
    ∀ m, (empty.after requests).manifest? = some m → m.Sound :=
  after_keeps (fun _ _ _ _ gives => gives.sound) (fun _ stored => nomatch stored)

theorem after_append (store : Store) (earlier later : List Request) :
    store.after (earlier ++ later) = (store.after earlier).after later :=
  List.foldl_append ..

/-- There is something in the store once a request succeeded, and only then. -/
theorem stored_iff (store : Store) (requests : List Request) :
    (store.after requests).manifest? = none ↔
      store.manifest? = none ∧ ∀ answer ∈ store.answers requests, answer.succeeded = false := by
  induction requests generalizing store with
  | nil => simp [after, answers]
  | cons request requests ih =>
    change ((store.perform request).2.after requests).manifest? = none ↔ _
    rw [ih]
    simp only [answers, List.mem_cons, forall_eq_or_imp]
    rcases perform_cases store request with ⟨given, next, succeeded, -⟩ | ⟨same, failed⟩
    · simp [next, succeeded]
    · simp [same, failed]

theorem stored_error (store : Store) :
    store.stored = .error .nothingStored ↔ store.manifest? = none := by
  unfold stored
  cases store.manifest? <;> simp

theorem files_none (store : Store) : store.files = .ok [] ↔ store.manifest? = none := by
  unfold files
  cases store.manifest? with
  | none => simp
  | some m => cases written : m.write <;> simp [written]

/-- After every request of a session that starts with an empty store: what is stored is sound; it
is what was stored before, unless the request succeeded and gives it; and nothing is stored, and no
file given, just when no request has succeeded yet. -/
theorem session_sound (earlier : List Request) (request : Request) :
    let before := empty.after earlier
    let answer := (before.perform request).1
    let now := (before.perform request).2
    (∀ m, now.manifest? = some m → m.Sound) ∧
    ((answer.succeeded = false ∧ now = before) ∨
      (answer.succeeded = true ∧ ∃ m, now.manifest? = some m ∧ Gives request answer m)) ∧
    ((now.stored = .error .nothingStored ↔
        ∀ answer ∈ empty.answers (earlier ++ [request]), answer.succeeded = false) ∧
      (now.files = .ok [] ↔
        ∀ answer ∈ empty.answers (earlier ++ [request]), answer.succeeded = false)) := by
  intro before answer now
  have whole : empty.after (earlier ++ [request]) = now := after_append empty earlier [request]
  have nothing := stored_iff empty (earlier ++ [request])
  rw [whole] at nothing
  have first : empty.manifest? = none := rfl
  simp only [first, true_and] at nothing
  refine ⟨?_, ?_, (stored_error now).trans nothing, (files_none now).trans nothing⟩
  · rw [← whole]
    exact after_sound _
  · rcases perform_cases before request with ⟨m, next, succeeded, gives⟩ | ⟨same, failed⟩
    · exact .inr ⟨succeeded, m, congrArg Store.manifest? next, gives⟩
    · exact .inl ⟨failed, same⟩

end Store

end ClusterManifest
