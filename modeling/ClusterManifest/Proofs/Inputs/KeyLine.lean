import ClusterManifest.Proofs.Command.Refusal
import ClusterManifest.Proofs.Inputs.PublicKey

/-! How many lines a public key has. Its words may stand on any lines, so that an accepted text is
one line just where it holds no line break; and what is accepted goes into a manifest as it is, but
that the content of a file is trimmed before. -/

namespace ClusterManifest

open ClusterManifest.Action

namespace InputCheck

open Text (Blanks IsWord Parted)

/-- One line of authorised keys: a known type and a padded body, perhaps with a comment after them,
blanks between and around, and no line break anywhere. -/
structure KeyLine (s : List Char) : Prop where
  unbroken : ∀ c ∈ s, Text.isLineBreak c = false
  parts : ∃ indent type gap body tail, s = indent ++ (type ++ (gap ++ (body ++ tail))) ∧
    Blanks indent ∧ String.ofList type ∈ keyTypes ∧ Blanks gap ∧ gap ≠ [] ∧ body ≠ [] ∧
    Base64.Padded body ∧ Parted tail

variable {value : String}

/-- The type and the body of a key are parts of it, with a gap between them. -/
theorem Keyed.parts {good : List Char → Prop} (keyed : Keyed good value) :
    ∃ indent type gap body tail, value.toList = indent ++ (type ++ (gap ++ (body ++ tail))) ∧
      Blanks indent ∧ String.ofList type ∈ keyTypes ∧ Blanks gap ∧ gap ≠ [] ∧ IsWord body ∧
      good body ∧ Parted tail := by
  obtain ⟨type, body, others, cut, known, fits⟩ := keyed
  obtain ⟨indent, rest, whole, leading, -, ended, more⟩ := Text.words_cons cut
  obtain ⟨gap, tail, rfl, between, word, parted, -⟩ := Text.words_cons more
  refine ⟨indent, type, gap, body, tail, whole, leading, known, between, ?_, word, fits, parted⟩
  rintro rfl
  obtain ⟨c, rest, rfl⟩ := List.exists_cons_of_ne_nil word.nonempty
  have blank := ended c rfl
  rw [word.solid c (List.mem_cons_self ..)] at blank
  cases blank

theorem keyed_of_parts {good : List Char → Prop} {indent type gap body tail : List Char}
    (whole : value.toList = indent ++ (type ++ (gap ++ (body ++ tail)))) (leading : Blanks indent)
    (known : String.ofList type ∈ keyTypes) (between : Blanks gap) (apart : gap ≠ [])
    (word : IsWord body) (fits : good body) (parted : Parted tail) : Keyed good value := by
  have typeWord : IsWord type := by simpa using keyTypes_words _ known
  have ended : Parted (gap ++ (body ++ tail)) := by
    obtain ⟨c, gap, rfl⟩ := List.exists_cons_of_ne_nil apart
    rintro d starts
    cases starts
    exact between c (List.mem_cons_self ..)
  refine ⟨type, body, Text.words tail, ?_, known, fits⟩
  rw [whole, Text.words_append_blanks leading, Text.words_append typeWord ended,
    Text.words_append_blanks between, Text.words_append word parted]

theorem keyLine_iff : KeyLine value.toList ↔
    (∀ c ∈ value.toList, Text.isLineBreak c = false) ∧ Keyed Base64.Padded value := by
  constructor
  · rintro ⟨unbroken, indent, type, gap, body, tail, whole, leading, known, between, apart, some,
      padded, parted⟩
    exact ⟨unbroken, keyed_of_parts whole leading known between apart ⟨some, padded.solid⟩ padded
      parted⟩
  · rintro ⟨unbroken, keyed⟩
    obtain ⟨indent, type, gap, body, tail, whole, leading, known, between, apart, word, padded,
      parted⟩ := keyed.parts
    exact ⟨unbroken, indent, type, gap, body, tail, whole, leading, known, between, apart,
      word.nonempty, padded, parted⟩

theorem not_keyed_empty {good : List Char → Prop} : ¬Keyed good "" := by
  rintro ⟨type, body, others, cut, -⟩
  have none : Text.words "".toList = [] := rfl
  cases none.symm.trans cut

/-- What is accepted is one line where it has no line break and no surplus of padding. -/
theorem single_iff (accepted : publicKey value = .ok value) :
    (value = "" ∨ KeyLine value.toList) ↔
      (∀ c ∈ value.toList, Text.isLineBreak c = false) ∧ ¬Keyed Base64.Overpadded value := by
  by_cases empty : value = ""
  · subst empty
    simp [not_keyed_empty]
  · rw [or_iff_right empty, keyLine_iff]
    refine and_congr_right (fun _ => ⟨fun keyed extra => ?_, fun fits => ?_⟩)
    · obtain ⟨body, padded, surplus⟩ := keyed.both extra
      exact surplus.not_padded padded
    · exact ((publicKey_ok empty).mp accepted).resolve_right fits

theorem publicKey_same {key : String} (passed : publicKey value = .ok key) : key = value := by
  by_cases empty : value = ""
  · subst empty
    exact (Except.ok.inj (publicKey_empty.symm.trans passed)).symm
  · by_cases accepted : publicKey value = .ok value
    · exact Except.ok.inj (passed.symm.trans accepted)
    · rcases publicKey_error empty accepted with ⟨-, told⟩ | ⟨-, told⟩
      · cases told.symm.trans passed
      · cases told.symm.trans passed

end InputCheck

namespace Inputs

variable {host : Host} {environment : Environment} {files after : FileTree} {setting : String}

theorem trimmed_contentOf {data : Text.Bytes} {content : String}
    (read : contentOf data = .ok content) : Text.Trimmed content.toList := by
  obtain ⟨text, -, rfl⟩ := map_ok.mp read
  rw [String.toList_ofList]
  exact Text.trimmed_trim _

/-- What is read for a setting is its variable as it is, or the trimmed content of a file. -/
theorem read_valueOrContent {value? : Option String}
    (yields : Yields (valueOrContent host environment setting) files value? after) :
    (∃ value, environment.value? setting = some value ∧ value? = some value) ∨
      environment.value? setting = none ∧
        ∀ value, value? = some value → Text.Trimmed value.toList := by
  cases set : environment.value? setting with
  | some value =>
    rw [valueOrContent, set] at yields
    exact .inl ⟨value, rfl, (yields_done.mp yields).1.symm⟩
  | none =>
    refine .inr ⟨rfl, ?_⟩
    cases named : environment.value? (Setting.pathOf setting) with
    | none =>
      rw [valueOrContent, set, named] at yields
      intro value same
      cases (yields_done.mp yields).1.trans same
    | some path =>
      rw [Yields, run_named ⟨set, named⟩] at yields
      obtain ⟨content, mid, reading, done⟩ := yields_bind.mp yields
      rintro value rfl
      cases (yields_done.mp done).1
      rw [Yields, run_contentAt] at reading
      split at reading
      · cases reading.1
      · split at reading
        · cases reading.1
        · exact trimmed_contentOf (mapError_ok.mp reading.1)

/-- The key of the inputs is accepted as it is, and comes from its variable, or trimmed from a file
or from nowhere. -/
theorem key_ofEnvironment {inputs : Inputs}
    (yields : Yields (ofEnvironment host environment) files inputs after) :
    ∃ key : String, inputs.sshPublicKey = .given key ∧ InputCheck.publicKey key = .ok key ∧
      (environment.value? Setting.sshPublicKey = some key ∨
        environment.value? Setting.sshPublicKey = none ∧ Text.Trimmed key.toList) := by
  rw [course_ofEnvironment] at yields
  obtain ⟨key?, _, keyRead, rest⟩ := yields_bind.mp yields
  obtain ⟨secret?, _, -, checking⟩ := yields_bind.mp rest
  obtain ⟨key, passed, step1⟩ := bind_ok.mp (yields_ofExcept.mp checking).1
  obtain ⟨_, -, step2⟩ := bind_ok.mp step1
  obtain ⟨_, -, step3⟩ := bind_ok.mp step2
  obtain ⟨_, -, step4⟩ := bind_ok.mp step3
  obtain ⟨_, -, last⟩ := bind_ok.mp step4
  cases last
  have accepted := mapError_ok.mp passed
  have same := InputCheck.publicKey_same accepted
  rw [← same] at accepted
  refine ⟨key, rfl, accepted, ?_⟩
  rcases read_valueOrContent keyRead with ⟨value, set, rfl⟩ | ⟨unset, trimmed⟩
  · exact .inl (by rw [set, same]; rfl)
  · refine .inr ⟨unset, ?_⟩
    rw [same]
    cases key? with
    | none => exact ⟨fun _ starts => (nomatch starts), fun _ ends => (nomatch ends)⟩
    | some value => exact trimmed value rfl

end Inputs

theorem Manifest.compose_key {inputs : Inputs} {defaults : Defaults} {m : Manifest}
    (composed : compose inputs defaults = .ok m) : inputs.sshPublicKey = .given m.sshKey := by
  obtain ⟨sshKey, given, step1⟩ := bind_ok.mp composed
  obtain ⟨_, -, step2⟩ := bind_ok.mp step1
  obtain ⟨_, -, step3⟩ := bind_ok.mp step2
  obtain ⟨_, -, step4⟩ := bind_ok.mp step3
  obtain ⟨_, -, step5⟩ := bind_ok.mp step4
  obtain ⟨_, -, step6⟩ := bind_ok.mp step5
  obtain ⟨_, -, rest⟩ := bind_ok.mp step6
  dsimp only at rest
  split at rest
  · cases rest
  · cases rest
    exact Input.require_eq_ok.mp given

namespace InputCheck

open Inputs (ofEnvironment)
open Command (bareHost demoEnvironment)

/-- An accepted text is empty or one line of authorised keys just where it has no line break and no
surplus of padding. The key of a composed manifest is such a text, as the variable has it or as it
was trimmed from a file; and it has something on two lines just where trimming it leaves a line
break in it. -/
theorem keys_single (host : Host) (environment : Environment) (files : FileTree) :
    (∀ value, publicKey value = .ok value →
      ((value = "" ∨ KeyLine value.toList) ↔
        (∀ c ∈ value.toList, Text.isLineBreak c = false) ∧ ¬Keyed Base64.Overpadded value)) ∧
    ∀ (inputs : Inputs) (defaults : Defaults) (m : Manifest),
      Yields (ofEnvironment host environment) files inputs files →
      Manifest.compose inputs defaults = .ok m → ∃ value : String, m.sshKey = value ∧
        publicKey value = .ok value ∧
        (environment.value? Setting.sshPublicKey = some value ∨
          environment.value? Setting.sshPublicKey = none ∧
            Text.trim value.toList = value.toList) ∧
        (Text.TwoLines value.toList ↔
          ∃ c ∈ Text.trim value.toList, Text.isLineBreak c = true) := by
  refine ⟨fun _ => single_iff, fun inputs defaults m yields made => ?_⟩
  obtain ⟨key, given, accepted, source⟩ := Inputs.key_ofEnvironment yields
  have same := Input.given.inj (given.symm.trans (Manifest.compose_key made))
  exact ⟨key, same.symm, accepted, source.imp_right (fun filed => ⟨filed.1, Text.trim_of_trimmed filed.2⟩),
    Text.twoLines_iff⟩

/-- A key in a file, with line ends and blanks around it. -/
def filedTree : FileTree :=
  ⟨[], [(["key"], .file (Text.Utf8.encode "\r\n  ssh-rsa AAAA me \r\n".toList))], []⟩

def filedEnvironment : Environment :=
  ⟨(Setting.pathOf Setting.sshPublicKey, "key") :: demoEnvironment.settings⟩

theorem filed_single :
    ∃ inputs m, Yields (ofEnvironment bareHost filedEnvironment) filedTree inputs filedTree ∧
      Manifest.compose inputs .standard = .ok m ∧ m.sshKey = .text "ssh-rsa AAAA me" ∧
      publicKey "ssh-rsa AAAA me" = .ok "ssh-rsa AAAA me" ∧ KeyLine "ssh-rsa AAAA me".toList ∧
      ¬Text.TwoLines "ssh-rsa AAAA me".toList := by
  have resolved : Yields (ofEnvironment bareHost filedEnvironment) filedTree
      ⟨.given "ssh-rsa AAAA me", .given "example.com", .given "demo",
        .given "\x7b\"auths\": \x7b\x7d\x7d", .given (.chosen .none)⟩ filedTree :=
    ⟨ok_of_toOption (by decide +kernel),
      files_of_asking (Inputs.asking_ofEnvironment bareHost filedEnvironment) filedTree⟩
  have made : Manifest.compose ⟨.given "ssh-rsa AAAA me", .given "example.com", .given "demo",
      .given "\x7b\"auths\": \x7b\x7d\x7d", .given (.chosen .none)⟩ .standard =
        .ok (Manifest.composed "ssh-rsa AAAA me" "example.com" "demo"
          "\x7b\"auths\": \x7b\x7d\x7d" (.chosen .none)) :=
    Manifest.compose_given (by decide +kernel)
  obtain ⟨key, same, accepted, -, lines⟩ := (keys_single _ _ _).2 _ _ _ resolved made
  cases same
  have unbroken : ∀ c ∈ "ssh-rsa AAAA me".toList, Text.isLineBreak c = false :=
    forall_of_all (by decide +kernel)
  refine ⟨_, _, resolved, made, rfl, accepted, ?_, fun two => ?_⟩
  · have single := (keys_single bareHost filedEnvironment filedTree).1 _ accepted
    refine (single.mpr ⟨unbroken, ?_⟩).resolve_left (by decide)
    rintro ⟨type, body, others, cut, -, data, pads, same, -, -, -, surplus⟩
    have words : Text.words "ssh-rsa AAAA me".toList =
        ["ssh-rsa".toList, "AAAA".toList, "me".toList] := by decide +kernel
    cases words.symm.trans cut
    have sign : '=' ∈ "AAAA".toList := by
      rw [same]
      exact List.mem_append_right _ (List.mem_replicate.mpr ⟨Nat.ne_of_gt surplus, rfl⟩)
    exact absurd sign (by decide)
  · obtain ⟨c, among, ends⟩ := lines.mp two
    have kept : Text.trim "ssh-rsa AAAA me".toList = "ssh-rsa AAAA me".toList := by decide +kernel
    cases (unbroken c (kept ▸ among)).symm.trans ends

/-- Two keys on two lines are accepted, and a manifest is composed with both. -/
theorem twoKeys_accepted :
    publicKey "ssh-rsa AAAA\nssh-rsa BBBB" = .ok "ssh-rsa AAAA\nssh-rsa BBBB" ∧
      ¬("ssh-rsa AAAA\nssh-rsa BBBB" = "" ∨ KeyLine "ssh-rsa AAAA\nssh-rsa BBBB".toList) ∧
      ∃ inputs m,
        Yields (ofEnvironment bareHost
          ⟨(Setting.sshPublicKey, "ssh-rsa AAAA\nssh-rsa BBBB") :: demoEnvironment.settings⟩)
          ⟨[], [], []⟩ inputs ⟨[], [], []⟩ ∧
        Manifest.compose inputs .standard = .ok m ∧ m.sshKey = .text "ssh-rsa AAAA\nssh-rsa BBBB" ∧
        Text.TwoLines "ssh-rsa AAAA\nssh-rsa BBBB".toList := by
  have accepted : publicKey "ssh-rsa AAAA\nssh-rsa BBBB" = .ok "ssh-rsa AAAA\nssh-rsa BBBB" :=
    ok_of_toOption (by decide +kernel)
  have resolved : Yields (ofEnvironment bareHost
      ⟨(Setting.sshPublicKey, "ssh-rsa AAAA\nssh-rsa BBBB") :: demoEnvironment.settings⟩)
      ⟨[], [], []⟩ ⟨.given "ssh-rsa AAAA\nssh-rsa BBBB", .given "example.com", .given "demo",
        .given "\x7b\"auths\": \x7b\x7d\x7d", .given (.chosen .none)⟩ ⟨[], [], []⟩ :=
    ⟨ok_of_toOption (by decide +kernel),
      files_of_asking (Inputs.asking_ofEnvironment bareHost _) ⟨[], [], []⟩⟩
  have made : Manifest.compose ⟨.given "ssh-rsa AAAA\nssh-rsa BBBB", .given "example.com",
      .given "demo", .given "\x7b\"auths\": \x7b\x7d\x7d", .given (.chosen .none)⟩ .standard =
        .ok (Manifest.composed "ssh-rsa AAAA\nssh-rsa BBBB" "example.com" "demo"
          "\x7b\"auths\": \x7b\x7d\x7d" (.chosen .none)) :=
    Manifest.compose_given (by decide +kernel)
  refine ⟨accepted, fun single => ?_, _, _, resolved, made, rfl, "ssh-rsa AAAA".toList, '\n',
    "ssh-rsa BBBB".toList, ?_, by decide, ⟨'s', by decide, by decide⟩, ⟨'s', by decide, by decide⟩⟩
  · have unbroken := ((single_iff accepted).mp single).1 '\n' (by decide +kernel)
    exact absurd unbroken (by decide)
  · show "ssh-rsa AAAA\nssh-rsa BBBB".toList = _
    decide +kernel

end InputCheck

end ClusterManifest
