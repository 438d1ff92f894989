import ClusterManifest.Inputs.Check
import ClusterManifest.Proofs.Base64
import ClusterManifest.Proofs.Lists
import ClusterManifest.Proofs.Result
import ClusterManifest.Proofs.Text.Words

/-! Which texts are public keys: their first word is a known type and their second a body that a
strict reader of base 64 takes. That is one in which the padding fills up the last quad, but also
one with padding after whole quads. -/

namespace ClusterManifest

namespace Base64

variable {s : List Char}

theorem solid_of_inAlphabet {c : Char} (plain : InAlphabet c) : Text.isBlank c = false := by
  have visible : 43 ≤ c.toNat ∧ c.toNat ≤ 122 := by
    have upTo (first last : Char) : first ≤ last ↔ first.toNat ≤ last.toNat := Iff.rfl
    rw [InAlphabet] at plain
    simp only [upTo] at plain
    rcases plain with upper | lower | digit | rfl | rfl
    · exact ⟨Nat.le_trans (by decide) upper.1, Nat.le_trans upper.2 (by decide)⟩
    · exact ⟨Nat.le_trans (by decide) lower.1, Nat.le_trans lower.2 (by decide)⟩
    · exact ⟨Nat.le_trans (by decide) digit.1, Nat.le_trans digit.2 (by decide)⟩
    · decide
    · decide
  simp [Text.isBlank]
  omega

theorem solid_of_data {data : List Char} {pads : Nat} (plain : ∀ c ∈ data, InAlphabet c) :
    ∀ c ∈ data ++ List.replicate pads '=', Text.isBlank c = false :=
  List.forall_mem_append.mpr
    ⟨fun c inside => solid_of_inAlphabet (plain c inside), List.forall_mem_replicate.mpr (.inr rfl)⟩

theorem Padded.solid (padded : Padded s) : ∀ c ∈ s, Text.isBlank c = false := by
  obtain ⟨data, pads, rfl, plain, -⟩ := padded
  exact solid_of_data plain

end Base64

namespace InputCheck

open Base64 (Padded Overpadded)

variable {value : String}

/-- The first word of a text is a known type of key, and its second word a body of a kind. -/
def Keyed (good : List Char → Prop) (value : String) : Prop :=
  ∃ type body others, Text.words value.toList = type :: body :: others ∧
    String.ofList type ∈ keyTypes ∧ good body

theorem Keyed.imp {good other : List Char → Prop} (weaker : ∀ body, good body → other body)
    (keyed : Keyed good value) : Keyed other value := by
  obtain ⟨type, body, others, cut, known, fits⟩ := keyed
  exact ⟨type, body, others, cut, known, weaker body fits⟩

theorem keyed_or {good other : List Char → Prop} :
    Keyed (fun body => good body ∨ other body) value ↔ Keyed good value ∨ Keyed other value := by
  constructor
  · rintro ⟨type, body, others, cut, known, fits | fits⟩
    · exact .inl ⟨type, body, others, cut, known, fits⟩
    · exact .inr ⟨type, body, others, cut, known, fits⟩
  · exact fun keyed => keyed.elim (Keyed.imp (fun _ => .inl)) (Keyed.imp (fun _ => .inr))

/-- There is but one second word. -/
theorem Keyed.both {good other : List Char → Prop} (keyed : Keyed good value)
    (also : Keyed other value) : ∃ body, good body ∧ other body := by
  obtain ⟨type, body, others, cut, -, fits⟩ := keyed
  obtain ⟨_, _, _, cut', -, fits'⟩ := also
  cases cut.symm.trans cut'
  exact ⟨body, fits, fits'⟩

theorem publicKey_empty : publicKey "" = .ok "" := rfl

/-- A text with a known type before a second word is judged by that word alone. -/
theorem publicKey_keyed {type body : List Char} {others : List (List Char)} (nonempty : value ≠ "")
    (cut : Text.words value.toList = type :: body :: others)
    (known : String.ofList type ∈ keyTypes) :
    publicKey value = if Base64.isStrict body then .ok value else .error .keyBody := by
  have some : value.isEmpty = false := by simpa [String.isEmpty_iff] using nonempty
  simp [publicKey, some, cut, known]

theorem publicKey_unkeyed (nonempty : value ≠ "") (unkeyed : ¬Keyed (fun _ => True) value) :
    publicKey value = .error .keyFormat := by
  have some : value.isEmpty = false := by simpa [String.isEmpty_iff] using nonempty
  rw [publicKey, some]
  simp only [Bool.false_eq_true, if_false]
  split
  · next type body others cut =>
    have unknown : String.ofList type ∉ keyTypes :=
      fun known => unkeyed ⟨type, body, others, cut, known, trivial⟩
    simp [unknown]
  · rfl

theorem publicKey_ok (nonempty : value ≠ "") :
    publicKey value = .ok value ↔ Keyed Padded value ∨ Keyed Overpadded value := by
  rw [← keyed_or]
  constructor
  · intro accepted
    by_cases keyed : Keyed (fun _ => True) value
    · obtain ⟨type, body, others, cut, known, -⟩ := keyed
      rw [publicKey_keyed nonempty cut known] at accepted
      split at accepted
      · next strict => exact ⟨type, body, others, cut, known, Base64.isStrict_iff.mp strict⟩
      · cases accepted
    · rw [publicKey_unkeyed nonempty keyed] at accepted
      cases accepted
  · rintro ⟨type, body, others, cut, known, fits⟩
    rw [publicKey_keyed nonempty cut known, if_pos (Base64.isStrict_iff.mpr fits)]

/-- A text that is no key is refused for its body where it has one after a known type, and for its
format otherwise. -/
theorem publicKey_error (nonempty : value ≠ "") (refused : publicKey value ≠ .ok value) :
    (Keyed (fun _ => True) value ∧ publicKey value = .error .keyBody) ∨
      (¬Keyed (fun _ => True) value ∧ publicKey value = .error .keyFormat) := by
  by_cases keyed : Keyed (fun _ => True) value
  · refine .inl ⟨keyed, ?_⟩
    obtain ⟨type, body, others, cut, known, -⟩ := keyed
    rw [publicKey_keyed nonempty cut known] at refused ⊢
    split
    · next strict => exact absurd (if_pos strict) refused
    · rfl
  · exact .inr ⟨keyed, publicKey_unkeyed nonempty keyed⟩

theorem keyTypes_words : ∀ type ∈ keyTypes, Text.IsWord type.toList := by
  have all : ∀ type ∈ keyTypes, type.toList ≠ [] ∧
      type.toList.all (fun c => decide (Text.isBlank c = false)) = true :=
    forall_of_all (by decide +kernel)
  exact fun type known => ⟨(all type known).1, forall_of_all (all type known).2⟩

/-- A type, a body and what else may come after blanks make a key. -/
theorem keyed_line {good : List Char → Prop} {type : String} {body tail : List Char}
    (known : type ∈ keyTypes) (solid : Text.IsWord body) (parted : Text.Parted tail)
    (fits : good body) : Keyed good (type ++ " " ++ String.ofList body ++ String.ofList tail) := by
  have text : (type ++ " " ++ String.ofList body ++ String.ofList tail).toList =
      type.toList ++ ' ' :: (body ++ tail) := by
    simp
  have gap : Text.Parted (' ' :: (body ++ tail)) := by
    rintro c starts
    cases starts
    decide
  refine ⟨type.toList, body, Text.words tail, ?_, by simpa using known, fits⟩
  rw [text, Text.words_append (keyTypes_words type known) gap,
    Text.words_cons_blank (by decide), Text.words_append solid parted]

/-- A text is a key where a known type comes first and then a padded body, unless padding comes
after whole quads: that is let through besides. Any other text is refused. So just where the body
is no such one, the keys are what they should be. Bytes encoded after a known type always are a
key, with a comment or without. -/
theorem publicKey_exact (value : String) (nonempty : value ≠ "") :
    (((publicKey value = .ok value ↔ Keyed Padded value) ∧
        (¬Keyed Padded value → ∃ fault, publicKey value = .error fault)) ↔
      ¬Keyed Overpadded value) ∧
    (publicKey value = .ok value ↔ Keyed Padded value ∨ Keyed Overpadded value) ∧
    (publicKey value ≠ .ok value →
      publicKey value = .error .keyFormat ∨ publicKey value = .error .keyBody) ∧
    ∀ type ∈ keyTypes, ∀ (bytes : Text.Bytes) (tail : List Char), bytes ≠ [] → Text.Parted tail →
      value = type ++ " " ++ String.ofList (Base64.encode bytes) ++ String.ofList tail →
        publicKey value = .ok value := by
  refine ⟨⟨?_, ?_⟩, publicKey_ok nonempty, ?_, ?_⟩
  · rintro ⟨promised, -⟩ extra
    obtain ⟨body, padded, surplus⟩ :=
      (promised.mp ((publicKey_ok nonempty).mpr (.inr extra))).both extra
    exact surplus.not_padded padded
  · intro fits
    have accepted : publicKey value = .ok value ↔ Keyed Padded value := by
      rw [publicKey_ok nonempty, or_iff_left fits]
    refine ⟨accepted, fun unkeyed => ?_⟩
    rcases publicKey_error nonempty (mt accepted.mp unkeyed) with ⟨-, told⟩ | ⟨-, told⟩
    · exact ⟨_, told⟩
    · exact ⟨_, told⟩
  · exact fun refused => (publicKey_error nonempty refused).elim (.inr ·.2) (.inl ·.2)
  · intro type known bytes tail some parted line
    have padded := Base64.padded_encode bytes
    have word : Text.IsWord (Base64.encode bytes) := ⟨Base64.encode_ne_nil some, padded.solid⟩
    have keyed := keyed_line known word parted padded
    rw [← line] at keyed
    exact (publicKey_ok nonempty).mpr (.inl keyed)

theorem shortOfOne_words : Text.words "ssh-rsa AAECAw= user@host".toList =
    ["ssh-rsa".toList, "AAECAw=".toList, "user@host".toList] := by decide +kernel

/-- Four bytes take two signs of padding, and a comment may follow. One sign is too few, and is no
surplus after whole quads. -/
theorem fourBytes_accepted :
    publicKey "ssh-rsa AAECAw== user@host" = .ok "ssh-rsa AAECAw== user@host" ∧
      publicKey "ssh-rsa AAECAw= user@host" = .error .keyBody ∧
      (publicKey "ssh-rsa AAECAw= user@host" = .ok "ssh-rsa AAECAw= user@host" ↔
        Keyed Padded "ssh-rsa AAECAw= user@host") := by
  have encoded : "ssh-rsa" ++ " " ++ String.ofList (Base64.encode [0, 1, 2, 3]) ++
      String.ofList " user@host".toList = "ssh-rsa AAECAw== user@host" := by decide +kernel
  have parted : Text.Parted " user@host".toList := by
    rintro c starts
    cases starts
    decide
  have accepted := (publicKey_exact _ (by decide)).2.2.2 "ssh-rsa" (by decide) [0, 1, 2, 3]
    " user@host".toList (by decide) parted encoded.symm
  have fits : ¬Keyed Overpadded "ssh-rsa AAECAw= user@host" := by
    rintro ⟨type, body, others, cut, -, data, pads, same, plain, -, whole, -⟩
    cases shortOfOne_words.symm.trans cut
    have length := congrArg List.length same
    have signs : "AAECAw=".toList.count '=' = pads := by
      rw [same]
      exact Base64.count_pads plain
    rw [List.length_append, List.length_replicate, ← signs] at length
    have six : data.length = 6 := Nat.add_right_cancel length.symm
    rw [six] at whole
    exact absurd whole (by decide)
  refine ⟨accepted, ?_, ((publicKey_exact _ (by decide)).1.mpr fits).1⟩
  rw [publicKey_keyed (by decide) shortOfOne_words (by decide), if_neg (by decide +kernel)]

/-- A sign of padding after a whole quad fills up nothing, and is let through. -/
theorem surplus_accepted :
    publicKey "ssh-rsa AAAA=" = .ok "ssh-rsa AAAA=" ∧ ¬Keyed Padded "ssh-rsa AAAA=" := by
  refine ⟨ok_of_toOption (by decide +kernel), ?_⟩
  rintro ⟨type, body, others, cut, -, data, pads, same, -, -, whole⟩
  have words : Text.words "ssh-rsa AAAA=".toList = ["ssh-rsa".toList, "AAAA=".toList] := by
    decide +kernel
  cases words.symm.trans cut
  revert whole
  decide +kernel

end InputCheck

end ClusterManifest
