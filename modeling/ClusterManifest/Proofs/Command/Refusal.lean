import ClusterManifest.Proofs.Command.Course

/-! How resolving inputs ends: with the inputs, with a fault of one of them, or, for a few files and
secrets, with a failure that is no fault of an input. Faults of inputs end a command with code two,
and they can always be shown. -/

namespace ClusterManifest

open ClusterManifest.Action

namespace Inputs

variable {host : Host} {environment : Environment} {files after : FileTree}
  {setting path : String} {failure : Failure}

/-- A setting is not set, and its second variable names a file. -/
def Names (environment : Environment) (setting path : String) : Prop :=
  environment.value? setting = none ∧ environment.value? (Setting.pathOf setting) = some path

/-- The file of a setting cannot be read for what no system call answers: the home in its path is
not known, there is a zero character in its path, or it holds no text. -/
inductive Unread (host : Host) (environment : Environment) (files : FileTree) (setting : String) :
    Failure → Prop
  | homeless {path : String} : Names environment setting path →
    host.expand (Path.ofText path) = .error .unknown →
      Unread host environment files setting .noHome
  | zeroAccount {path : String} : Names environment setting path →
    host.expand (Path.ofText path) = .error .zeroCharacter →
      Unread host environment files setting (.file .zeroCharacter)
  | zeroPath {path : String} {file : Path} : Names environment setting path →
    host.expand (Path.ofText path) = .ok file → files.readFile file = .error .zeroCharacter →
      Unread host environment files setting (.file .zeroCharacter)
  | notText {path : String} {file : Path} {data : Text.Bytes} {fault : Text.Utf8.Fault} :
    Names environment setting path → host.expand (Path.ofText path) = .ok file →
    files.readFile file = .ok data → Text.Utf8.decode data = .error fault →
      Unread host environment files setting (.notText fault)

/-- What comes of reading the file at a path, with a failure for each way in which it fails. -/
theorem run_contentAt : (contentAt host setting path).run files =
    match host.expand (Path.ofText path) with
    | .error fault => ⟨.error (homeFailure fault), [], files⟩
    | .ok file =>
      match files.readFile file with
      | .error error => ⟨.error (unreadable setting path error), [], files⟩
      | .ok data => ⟨(contentOf data).mapError .notText, [], files⟩ := by
  have course : contentAt host setting path =
      (ofExcept homeFailure (host.expand (Path.ofText path))).bind (fun file =>
        .readFile file (fun answer => (ofExcept (unreadable setting path) answer).bind (fun data =>
          ofExcept .notText (contentOf data)))) := rfl
  rw [course]
  cases host.expand (Path.ofText path) with
  | error fault => rfl
  | ok file =>
    simp only [Action.ofExcept, Action.bind, run]
    cases files.readFile file with
    | error error => rfl
    | ok data =>
      dsimp only [Action.bind]
      cases contentOf data <;> rfl

theorem run_named (names : Names environment setting path) :
    (valueOrContent host environment setting).run files =
      ((contentAt host (Setting.pathOf setting) path).bind
        (fun s => .done (some s))).run files := by
  rw [valueOrContent, names.1, names.2]

theorem yields_unset (unset : environment.value? setting = none)
    (unnamed : environment.value? (Setting.pathOf setting) = none) :
    Yields (valueOrContent host environment setting) files none files := by
  rw [valueOrContent, unset, unnamed]
  exact yields_done.mpr ⟨rfl, rfl⟩

theorem contentOf_error {data : Text.Bytes} {fault : Text.Utf8.Fault} :
    contentOf data = .error fault ↔ Text.Utf8.decode data = .error fault := by
  unfold contentOf
  cases Text.Utf8.decode data <;> simp [Except.map]

/-- A failure to read a file is a fault of the input, or one of the few others. -/
theorem unread_or_input
    (failed : Fails (valueOrContent host environment setting) files failure after) :
    Unread host environment files setting failure ∨ ∃ fault, failure = .input fault := by
  have names : ∃ path, Names environment setting path := by
    unfold valueOrContent at failed
    split at failed
    · exact absurd failed not_fails_done
    · next unset =>
      split at failed
      · exact absurd failed not_fails_done
      · next path named => exact ⟨path, unset, named⟩
  obtain ⟨path, names⟩ := names
  rw [Fails, run_named names] at failed
  rcases fails_bind.mp failed with reading | ⟨_, _, -, done⟩
  · rw [Fails, run_contentAt] at reading
    cases expanded : host.expand (Path.ofText path) with
    | error fault =>
      rw [expanded] at reading
      cases reading.1
      cases fault with
      | unknown => exact .inl (.homeless names expanded)
      | zeroCharacter => exact .inl (.zeroAccount names expanded)
    | ok file =>
      simp only [expanded] at reading
      cases read : files.readFile file with
      | error error =>
        rw [read] at reading
        cases reading.1
        cases error with
        | zeroCharacter => exact .inl (.zeroPath names expanded read)
        | system reason place => exact .inr ⟨_, rfl⟩
      | ok data =>
        rw [read] at reading
        obtain ⟨fault, undecoded, rfl⟩ := mapError_error.mp reading.1
        exact .inl (.notText names expanded read (contentOf_error.mp undecoded))
  · exact absurd done not_fails_done

theorem Unread.fails (unread : Unread host environment files setting failure) :
    Fails (valueOrContent host environment setting) files failure files := by
  cases unread with
  | homeless names expanded | zeroAccount names expanded =>
    rw [Fails, run_named names]
    refine fails_bind.mpr (.inl ?_)
    rw [Fails, run_contentAt, expanded]
    exact ⟨rfl, rfl⟩
  | zeroPath names expanded read =>
    rw [Fails, run_named names]
    refine fails_bind.mpr (.inl ?_)
    rw [Fails, run_contentAt, expanded]
    simp only [read]
    trivial
  | notText names expanded read undecoded =>
    rw [Fails, run_named names]
    refine fails_bind.mpr (.inl ?_)
    rw [Fails, run_contentAt, expanded]
    simp only [read]
    exact ⟨mapError_error.mpr ⟨_, contentOf_error.mpr undecoded, rfl⟩, trivial⟩

/-- The public key and both names pass their checks. -/
structure Passed (environment : Environment) (key? : Option String) : Prop where
  key : ∃ key, InputCheck.publicKey (key?.getD "") = .ok key
  baseDomain : ∀ value, environment.value? Setting.baseDomain = some value →
    ∃ name, InputCheck.baseDomain value = .ok name
  clusterName : ∀ value, environment.value? Setting.clusterName = some value →
    ∃ name, InputCheck.clusterName value = .ok name

/-- The failures that are no fault of an input, where all that is looked at before is in order: a
file cannot be read for what no system call answers, or a number in the secret is too long to be
read. -/
inductive Escapes (host : Host) (environment : Environment) (files : FileTree) : Failure → Prop
  | key {failure : Failure} : Unread host environment files Setting.sshPublicKey failure →
    Escapes host environment files failure
  | secret {key? : Option String} {failure : Failure} :
    Yields (valueOrContent host environment Setting.sshPublicKey) files key? files →
    Unread host environment files Setting.pullSecret failure →
      Escapes host environment files failure
  | number {key? : Option String} {secret : String} {fault : Json.Fault}
    {number : Text.Numeral.Fault} :
    Yields (valueOrContent host environment Setting.sshPublicKey) files key? files →
    Yields (valueOrContent host environment Setting.pullSecret) files (some secret) files →
    Passed environment key? → Json.read secret.toList = .error fault →
    fault.cause = .numeral number → Escapes host environment files (.numeral number)

/-- The checks of what was read, one after the other. -/
def checked (environment : Environment) (key? secret? : Option String) : Except Failure Inputs := do
  let key ← (InputCheck.publicKey (key?.getD "")).mapError .input
  let baseDomain ← (environment.value? Setting.baseDomain).mapM (fun value =>
    (InputCheck.baseDomain value).mapError .input)
  let clusterName ← (environment.value? Setting.clusterName).mapM (fun value =>
    (InputCheck.clusterName value).mapError .input)
  let secret ← (secret?.filter (fun value => !value.isEmpty)).mapM (fun value =>
    (InputCheck.pullSecret value).mapError secretFailure)
  let platform ← (Platform.ofEnvironment environment).mapError .input
  return ⟨.given (.text key), .ofOption (baseDomain.map .text), .ofOption (clusterName.map .text),
    .ofOption (secret.map .text), .ofOption platform⟩

theorem course_ofEnvironment : ofEnvironment host environment =
    (valueOrContent host environment Setting.sshPublicKey).bind (fun key? =>
      (valueOrContent host environment Setting.pullSecret).bind (fun secret? =>
        Action.ofExcept id (checked environment key? secret?))) := rfl

theorem pullSecret_number {secret : String} {number : Text.Numeral.Fault} :
    InputCheck.pullSecret secret = .error (.numeral number) ↔
      ∃ fault, Json.read secret.toList = .error fault ∧ fault.cause = .numeral number := by
  unfold InputCheck.pullSecret
  cases Json.read secret.toList with
  | error fault =>
    simp only [Except.error.injEq, exists_eq_left']
    cases fault.cause <;> simp
  | ok value =>
    simp only [reduceCtorEq, false_and, exists_false, iff_false]
    split <;> simp

theorem mapM_passed {α β : Type} {o : Option α} {check : α → Except InputFault β} :
    (∃ passed, o.mapM (fun value => (check value).mapError Failure.input) = .ok passed) ↔
      ∀ value, o = some value → ∃ passed, check value = .ok passed := by
  constructor
  · rintro ⟨passed, made⟩ value rfl
    rcases mapM_ok.mp made with ⟨none, -⟩ | ⟨_, read, one, checked, -⟩
    · cases none
    · cases one
      exact ⟨read, mapError_ok.mp checked⟩
  · intro each
    cases o with
    | none => exact ⟨none, mapM_ok.mpr (.inl ⟨rfl, rfl⟩)⟩
    | some value =>
      obtain ⟨read, checked⟩ := each value rfl
      exact ⟨some read, mapM_ok.mpr (.inr ⟨value, read, rfl, mapError_ok.mpr checked, rfl⟩)⟩

variable {key? secret? : Option String}

/-- What stops the checks is a fault of an input, or a number in the secret. -/
theorem checked_error (failed : checked environment key? secret? = .error failure) :
    (∃ fault, failure = .input fault) ∨
    ∃ secret fault number, secret? = some secret ∧ Passed environment key? ∧
      Json.read secret.toList = .error fault ∧ fault.cause = .numeral number ∧
      failure = .numeral number := by
  rcases bind_error.mp failed with wrong | ⟨key, keyPassed, step1⟩
  · obtain ⟨fault, -, rfl⟩ := mapError_error.mp wrong
    exact .inl ⟨fault, rfl⟩
  rcases bind_error.mp step1 with wrong | ⟨domain, domainPassed, step2⟩
  · obtain ⟨_, -, wrong⟩ := option_mapM_error.mp wrong
    obtain ⟨fault, -, rfl⟩ := mapError_error.mp wrong
    exact .inl ⟨fault, rfl⟩
  rcases bind_error.mp step2 with wrong | ⟨name, namePassed, step3⟩
  · obtain ⟨_, -, wrong⟩ := option_mapM_error.mp wrong
    obtain ⟨fault, -, rfl⟩ := mapError_error.mp wrong
    exact .inl ⟨fault, rfl⟩
  rcases bind_error.mp step3 with wrong | ⟨secret, -, step4⟩
  · obtain ⟨secret, kept, wrong⟩ := option_mapM_error.mp wrong
    obtain ⟨stop, stopped, rfl⟩ := mapError_error.mp wrong
    cases stop with
    | fault fault => exact .inl ⟨fault, rfl⟩
    | numeral number =>
      obtain ⟨fault, read, cause⟩ := pullSecret_number.mp stopped
      refine .inr ⟨secret, fault, number, (Option.filter_eq_some_iff.mp kept).1, ?_, read, cause,
        rfl⟩
      exact ⟨⟨key, mapError_ok.mp keyPassed⟩, mapM_passed.mp ⟨domain, domainPassed⟩,
        mapM_passed.mp ⟨name, namePassed⟩⟩
  rcases bind_error.mp step4 with wrong | ⟨platform, -, last⟩
  · obtain ⟨fault, -, rfl⟩ := mapError_error.mp wrong
    exact .inl ⟨fault, rfl⟩
  · cases last

theorem checked_number {secret : String} {fault : Json.Fault} {number : Text.Numeral.Fault}
    (passed : Passed environment key?) (read : Json.read secret.toList = .error fault)
    (cause : fault.cause = .numeral number) :
    checked environment key? (some secret) = .error (.numeral number) := by
  obtain ⟨key, keyPassed⟩ := passed.key
  obtain ⟨domain, domainPassed⟩ := mapM_passed.mpr passed.baseDomain
  obtain ⟨name, namePassed⟩ := mapM_passed.mpr passed.clusterName
  have full : secret.isEmpty = false := by
    rw [Bool.eq_false_iff]
    intro empty
    have nothing : Json.read "".toList = .error ⟨.value, [], 0⟩ := rfl
    rw [String.isEmpty_iff.mp empty, nothing] at read
    cases read
    cases cause
  have kept : (some secret).filter (fun value => !value.isEmpty) = some secret := by
    rw [Option.filter, full]
    rfl
  refine bind_error.mpr (.inr ⟨key, mapError_ok.mpr keyPassed, ?_⟩)
  refine bind_error.mpr (.inr ⟨domain, domainPassed, ?_⟩)
  refine bind_error.mpr (.inr ⟨name, namePassed, bind_error.mpr (.inl ?_)⟩)
  exact option_mapM_error.mpr ⟨secret, kept, mapError_error.mpr
    ⟨.numeral number, pullSecret_number.mpr ⟨fault, read, cause⟩, rfl⟩⟩

theorem Escapes.fails (escapes : Escapes host environment files failure) :
    Fails (ofEnvironment host environment) files failure files := by
  rw [course_ofEnvironment]
  cases escapes with
  | key unread => exact fails_bind.mpr (.inl unread.fails)
  | secret keyRead unread =>
    exact fails_bind.mpr (.inr ⟨_, _, keyRead, fails_bind.mpr (.inl unread.fails)⟩)
  | number keyRead secretRead passed read cause =>
    refine fails_bind.mpr (.inr ⟨_, _, keyRead, fails_bind.mpr (.inr ⟨_, _, secretRead, ?_⟩)⟩)
    exact fails_ofExcept.mpr ⟨⟨_, checked_number passed read cause, rfl⟩, rfl⟩

theorem Unread.unsorted (unread : Unread host environment files setting failure) :
    failure.category? = none := by
  cases unread <;> rfl

theorem Escapes.unsorted (escapes : Escapes host environment files failure) :
    failure.category? = none := by
  cases escapes with
  | key unread | secret _ unread => exact unread.unsorted
  | number => rfl

theorem Escapes.not_input (escapes : Escapes host environment files failure)
    (fault : InputFault) : failure ≠ .input fault := by
  rintro rfl
  cases escapes.unsorted

theorem escapes_or_input (failed : Fails (ofEnvironment host environment) files failure after) :
    Escapes host environment files failure ∨ ∃ fault, failure = .input fault := by
  rw [course_ofEnvironment] at failed
  rcases fails_bind.mp failed with keyFailed | ⟨key?, _, keyRead, rest⟩
  · exact (unread_or_input keyFailed).imp_left .key
  cases keyRead.2.symm.trans (files_of_asking (asking_valueOrContent host environment _) files)
  rcases fails_bind.mp rest with secretFailed | ⟨secret?, _, secretRead, checking⟩
  · exact (unread_or_input secretFailed).imp_left (.secret keyRead)
  cases secretRead.2.symm.trans (files_of_asking (asking_valueOrContent host environment _) files)
  obtain ⟨⟨_, wrong, rfl⟩, -⟩ := fails_ofExcept.mp checking
  rcases checked_error wrong with fault | ⟨secret, fault, number, rfl, passed, read, cause, rfl⟩
  · exact .inr fault
  · exact .inl (.number keyRead secretRead passed read cause)

end Inputs

namespace Command

open Inputs

variable {host : Host} {given : Option String} {target : Path} {environment : Environment}
  {files : FileTree} {failure : Failure} {category : Failure.Category}

section Refusal

variable [Console.LiteralReader]

theorem errorPanel_ok (category : Failure.Category) (message : String) :
    ∃ item, Console.errorPanel category.title message = .ok item := by
  have inert : Console.Markup.Inert category.title.toList ∧ category.title.toList ≠ [] := by
    cases category <;> decide +kernel
  have titled : Console.rendered ("[bold red]" ++ category.title ++ "[/]") = .ok category.title :=
    Console.rendered_signed Console.opens_red inert.1 inert.2 (by simp [Console.Markup.signed])
  obtain ⟨shown, content⟩ := (Console.Markup.render_ok _).mpr
    (Console.Markup.legible_escape message.toList)
  have contained : Console.rendered (Console.escaped message) = .ok (String.ofList shown) := by
    rw [Console.rendered, Console.escaped, String.toList_ofList, content]
    rfl
  refine ⟨.panel category.title (String.ofList shown), ?_⟩
  rw [Console.errorPanel, contained, titled]
  rfl

/-- A failure of a sort can always be told, so that it gives the code of its sort. -/
theorem giveUp_sorted (files : FileTree) (sorted : failure.category? = some category) :
    Yields (giveUp (inPanel failure) failure) files category.exitCode files := by
  rw [giveUp, sorted]
  refine yields_bind.mpr ⟨(), files, ?_, yields_done.mpr ⟨rfl, rfl⟩⟩
  exact yields_present.mpr (yields_tell.mpr ⟨errorPanel_ok category _, rfl⟩)

theorem giveUp_unsorted (files : FileTree) (unsorted : failure.category? = none) :
    Fails (giveUp (inPanel failure) failure) files failure files := by
  rw [giveUp, unsorted]
  exact fails_fail.mpr ⟨rfl, rfl⟩

/-- Where there is no manifest, what resolving fails with is what both commands give up on. -/
theorem commands_refused
    (absent : Directory.fetchedOf (files.readFile (fileIn (directory host given))) = .absent)
    (refused : Fails (ofEnvironment host environment) files failure files) :
    ((create host given environment).run files).result =
        ((giveUp (inPanel failure) failure).run files).result ∧
      ((preview host given environment).run files).result =
        ((giveUp (inPanel failure) failure).run files).result := by
  have missing : Yields (load (directory host given)) files (false, .empty) files := by
    rw [Yields, load_missing absent]
    exact ⟨rfl, rfl⟩
  have ended : Fails (manifestIn host (directory host given) environment) files failure files :=
    fails_bind.mpr (.inl (fails_bind.mpr (.inr ⟨_, _, missing, fails_bind.mpr (.inl refused)⟩)))
  rw [run_create, run_preview, ended.1]
  exact ⟨rfl, rfl⟩

/-- Resolving inputs ends with the inputs or with a fault of one of them just where nothing else
is met, and what else is met it ends with. Where there is no manifest yet, creating and previewing
end with code two on a fault of an input, and with no code at all on anything else. -/
theorem resolving_closed (host : Host) (environment : Environment) (files : FileTree) :
    (((∃ inputs, Yields (ofEnvironment host environment) files inputs files) ∨
        ∃ fault, Fails (ofEnvironment host environment) files (.input fault) files) ↔
      ∀ failure, ¬Escapes host environment files failure) ∧
    (∀ failure, Escapes host environment files failure ↔
      Fails (ofEnvironment host environment) files failure files ∧
        ∀ fault, failure ≠ .input fault) ∧
    ∀ given, Directory.fetchedOf (files.readFile (fileIn (directory host given))) = .absent →
      (∀ fault, Fails (ofEnvironment host environment) files (.input fault) files →
        ((create host given environment).run files).result = .ok 2 ∧
          ((preview host given environment).run files).result = .ok 2) ∧
      ∀ failure, Escapes host environment files failure →
        ((create host given environment).run files).result = .error failure ∧
          ((preview host given environment).run files).result = .error failure := by
  have unchanged := files_of_asking (asking_ofEnvironment host environment) files
  have escaping (failure : Failure) : Escapes host environment files failure ↔
      Fails (ofEnvironment host environment) files failure files ∧
        ∀ fault, failure ≠ .input fault := by
    constructor
    · exact fun escapes => ⟨escapes.fails, escapes.not_input⟩
    · rintro ⟨failed, other⟩
      exact (escapes_or_input failed).resolve_right (fun ⟨fault, same⟩ => other fault same)
  refine ⟨⟨?_, ?_⟩, escaping, fun given absent => ⟨?_, ?_⟩⟩
  · rintro (⟨inputs, resolved⟩ | ⟨fault, failed⟩) failure escapes
    · exact not_fails_of_yields resolved escapes.fails
    · exact escapes.not_input fault (Except.error.inj (escapes.fails.1.symm.trans failed.1))
  · intro none
    cases ended : ((ofEnvironment host environment).run files).result with
    | ok inputs => exact .inl ⟨inputs, ended, unchanged⟩
    | error failure =>
      obtain ⟨fault, rfl⟩ := (escapes_or_input ⟨ended, unchanged⟩).resolve_left (none failure)
      exact .inr ⟨fault, ended, unchanged⟩
  · intro fault failed
    obtain ⟨created, previewed⟩ := commands_refused absent failed
    have sort : (Failure.input fault).category? = some .invalidInput := rfl
    have told := giveUp_sorted files sort
    exact ⟨created.trans told.1, previewed.trans told.1⟩
  · intro failure escapes
    obtain ⟨created, previewed⟩ := commands_refused absent escapes.fails
    have told := giveUp_unsorted files escapes.unsorted
    exact ⟨created.trans told.1, previewed.trans told.1⟩

end Refusal

open Console.HandlerNames

/-- An environment whose public key is in a file. -/
def keyedEnvironment : Environment := ⟨[(Setting.pathOf Setting.sshPublicKey, "key")]⟩

/-- A key file that holds the one byte 255, which no text starts with. -/
def garbledTree : FileTree := ⟨[], [(["key"], .file [255])], []⟩

theorem garbled_escapes :
    Escapes bareHost keyedEnvironment garbledTree (.notText ⟨0, [255], .invalidStart⟩) := by
  have named : Names keyedEnvironment Setting.sshPublicKey "key" :=
    ⟨by decide +kernel, by decide +kernel⟩
  have expanded : bareHost.expand (Path.ofText "key") = .ok (Path.ofText "key") :=
    ok_of_toOption (by decide +kernel)
  have read : garbledTree.readFile (Path.ofText "key") = .ok [255] :=
    ok_of_toOption (by decide +kernel)
  exact .key (.notText named expanded read (error_of_check (by decide +kernel)))

/-- A key file that is no text is no fault of an input to the program, which ends with neither
inputs nor such a fault. -/
theorem garbled_uncaught :
    Fails (ofEnvironment bareHost keyedEnvironment) garbledTree
      (.notText ⟨0, [255], .invalidStart⟩) garbledTree ∧
    ¬((∃ inputs, Yields (ofEnvironment bareHost keyedEnvironment) garbledTree inputs garbledTree) ∨
      ∃ fault,
        Fails (ofEnvironment bareHost keyedEnvironment) garbledTree (.input fault)
          garbledTree) := by
  have failed := garbled_escapes.fails
  refine ⟨failed, ?_⟩
  rintro (⟨inputs, resolved⟩ | ⟨fault, other⟩)
  · exact not_fails_of_yields resolved failed
  · cases other.1.symm.trans failed.1

/-- An environment in which the name of the cluster is no label. -/
def misnamedEnvironment : Environment := ⟨[(Setting.clusterName, "Demo")]⟩

theorem misnamed_refused :
    Fails (ofEnvironment bareHost misnamedEnvironment) ⟨[], [], []⟩ (.input (.clusterName "Demo"))
        ⟨[], [], []⟩ ∧
      ((create bareHost none misnamedEnvironment).run ⟨[], [], []⟩).result = .ok 2 ∧
      ((preview bareHost none misnamedEnvironment).run ⟨[], [], []⟩).result = .ok 2 ∧
      ((create bareHost none keyedEnvironment).run garbledTree).result =
        .error (.notText ⟨0, [255], .invalidStart⟩) := by
  have failed : Fails (ofEnvironment bareHost misnamedEnvironment) ⟨[], [], []⟩
      (.input (.clusterName "Demo")) ⟨[], [], []⟩ := by
    have stop : checked misnamedEnvironment none none = .error (.input (.clusterName "Demo")) := by
      refine bind_error.mpr (.inr ⟨"", ok_of_toOption (by decide +kernel), ?_⟩)
      refine bind_error.mpr (.inr ⟨none, ok_of_toOption (by decide +kernel), ?_⟩)
      refine bind_error.mpr (.inl (option_mapM_error.mpr ⟨"Demo", by decide +kernel, ?_⟩))
      exact mapError_error.mpr ⟨.clusterName "Demo", if_neg (by decide +kernel), rfl⟩
    have key : Yields (valueOrContent bareHost misnamedEnvironment Setting.sshPublicKey)
        ⟨[], [], []⟩ none ⟨[], [], []⟩ := yields_unset (by decide +kernel) (by decide +kernel)
    have secret : Yields (valueOrContent bareHost misnamedEnvironment Setting.pullSecret)
        ⟨[], [], []⟩ none ⟨[], [], []⟩ := yields_unset (by decide +kernel) (by decide +kernel)
    rw [course_ofEnvironment]
    refine fails_bind.mpr (.inr ⟨none, _, key, fails_bind.mpr (.inr ⟨none, _, secret, ?_⟩)⟩)
    exact fails_ofExcept.mpr ⟨⟨_, stop, rfl⟩, rfl⟩
  have named := (resolving_closed bareHost misnamedEnvironment ⟨[], [], []⟩).2.2 none
    (by decide +kernel)
  have keyed := (resolving_closed bareHost keyedEnvironment garbledTree).2.2 none
    (by decide +kernel)
  obtain ⟨created, previewed⟩ := named.1 _ failed
  exact ⟨failed, created, previewed, (keyed.2 _ garbled_escapes).1⟩

end Command

end ClusterManifest
