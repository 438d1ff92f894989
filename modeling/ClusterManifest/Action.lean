import ClusterManifest.Console
import ClusterManifest.Failure
import ClusterManifest.File.Tree

/-! What a command does to the world, as a tree of steps: reading and making files, showing
things, failing. The same steps are carried out on the files of a machine or on a file tree;
the second way is a function, so what an action does is a matter of proof. -/

namespace ClusterManifest

inductive Action (α : Type)
  | done (value : α)
  | fail (failure : Failure)
  | readFile (path : Path) (next : Except FileError Text.Bytes → Action α)
  | isDirectory (path : Path) (next : Except FileError Bool → Action α)
  | makeDirectory (path : Path) (next : Except FileError Unit → Action α)
  | writeFile (path : Path) (data : Text.Bytes) (next : Except FileError Unit → Action α)
  | present (item : Console.Item) (next : Action α)

namespace Action

def bind {α β : Type} : Action α → (α → Action β) → Action β
  | .done value, f => f value
  | .fail failure, _ => .fail failure
  | .readFile path next, f => .readFile path (fun answer => bind (next answer) f)
  | .isDirectory path next, f => .isDirectory path (fun answer => bind (next answer) f)
  | .makeDirectory path next, f => .makeDirectory path (fun answer => bind (next answer) f)
  | .writeFile path data next, f => .writeFile path data (fun answer => bind (next answer) f)
  | .present item next, f => .present item (bind next f)

instance : Monad Action where
  pure := done
  bind := bind

/-- An action that does not fail but gives the failure as its result. -/
def attempt {α : Type} : Action α → Action (Except Failure α)
  | .done value => .done (.ok value)
  | .fail failure => .done (.error failure)
  | .readFile path next => .readFile path (fun answer => attempt (next answer))
  | .isDirectory path next => .isDirectory path (fun answer => attempt (next answer))
  | .makeDirectory path next => .makeDirectory path (fun answer => attempt (next answer))
  | .writeFile path data next => .writeFile path data (fun answer => attempt (next answer))
  | .present item next => .present item (attempt next)

def ofExcept {ε α : Type} (toFailure : ε → Failure) : Except ε α → Action α
  | .ok value => .done value
  | .error fault => .fail (toFailure fault)

/-- Shows what was composed, or fails with the reason why it cannot be shown. -/
def tell (item : Except Console.Fault Console.Item) : Action Unit :=
  match item with
  | .ok item => .present item (.done ())
  | .error fault => .fail (.console fault)

/-- What comes of an action: its result, what it showed, and the files after it. -/
structure Outcome (α : Type) where
  result : Except Failure α
  shown : List Console.Item
  files : FileTree

def Outcome.after {α : Type} (item : Console.Item) (outcome : Outcome α) : Outcome α :=
  { outcome with shown := item :: outcome.shown }

def answered (files : FileTree) : Except FileError FileTree → Except FileError Unit × FileTree
  | .ok changed => (.ok (), changed)
  | .error fault => (.error fault, files)

def run {α : Type} : Action α → FileTree → Outcome α
  | .done value, files => ⟨.ok value, [], files⟩
  | .fail failure, files => ⟨.error failure, [], files⟩
  | .readFile path next, files => run (next (files.readFile path)) files
  | .isDirectory path next, files => run (next (files.isDirectory path)) files
  | .makeDirectory path next, files =>
    let (answer, changed) := answered files (files.makeDirectory path)
    run (next answer) changed
  | .writeFile path data next, files =>
    let (answer, changed) := answered files (files.writeFile path data)
    run (next answer) changed
  | .present item next, files => (run next files).after item

@[simp] theorem pure_def {α : Type} (value : α) : (pure value : Action α) = .done value := rfl

@[simp] theorem bind_def {α β : Type} (action : Action α) (f : α → Action β) :
    action >>= f = action.bind f := rfl

/-- The first action is carried out, and unless it fails the second on what it leaves. -/
theorem run_bind {α β : Type} (action : Action α) (f : α → Action β) (files : FileTree) :
    (action.bind f).run files =
      match (action.run files).result with
      | .error failure => ⟨.error failure, (action.run files).shown, (action.run files).files⟩
      | .ok value =>
        let second := (f value).run (action.run files).files
        ⟨second.result, (action.run files).shown ++ second.shown, second.files⟩ := by
  induction action generalizing files with
  | done value => simp [bind, run]
  | fail failure => simp [bind, run]
  | readFile path next ih => simpa only [bind, run] using ih _ _
  | isDirectory path next ih => simpa only [bind, run] using ih _ _
  | makeDirectory path next ih => simpa only [bind, run] using ih _ _
  | writeFile path data next ih => simpa only [bind, run] using ih _ _
  | present item next ih =>
    simp only [bind, run, Outcome.after, ih]
    cases (next.run files).result <;> simp

/-- An attempt shows and changes what the action does, and gives its result. -/
theorem run_attempt {α : Type} (action : Action α) (files : FileTree) :
    action.attempt.run files =
      ⟨.ok (action.run files).result, (action.run files).shown, (action.run files).files⟩ := by
  induction action generalizing files with
  | done value => rfl
  | fail failure => rfl
  | readFile path next ih => simpa only [attempt, run] using ih _ _
  | isDirectory path next ih => simpa only [attempt, run] using ih _ _
  | makeDirectory path next ih => simpa only [attempt, run] using ih _ _
  | writeFile path data next ih => simpa only [attempt, run] using ih _ _
  | present item next ih => simp only [attempt, run, Outcome.after, ih]

end Action

end ClusterManifest
