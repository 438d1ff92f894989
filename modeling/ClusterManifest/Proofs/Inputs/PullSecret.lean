import ClusterManifest.Proofs.Inputs
import ClusterManifest.Proofs.Json.Reading

/-! Which texts are pull secrets: the JSON objects with credentials at their top, but for a whole
number that is too long to be read. -/

namespace ClusterManifest

namespace Json

theorem hasMember_iff {name : String} {v : Json} :
    v.hasMember name = true ↔ ∃ members, v = .object members ∧ ∃ item, (name, item) ∈ members := by
  constructor
  · intro has
    unfold hasMember get? at has
    split at has
    · next members =>
      rw [member?, Option.isSome_map, List.find?_isSome] at has
      obtain ⟨⟨found, item⟩, among, same⟩ := has
      cases eq_of_beq same
      exact ⟨members, rfl, item, List.mem_reverse.mp among⟩
    · cases has
  · rintro ⟨members, rfl, item, among⟩
    change (member? name members).isSome = true
    rw [member?, Option.isSome_map, List.find?_isSome]
    exact ⟨_, List.mem_reverse.mpr among, beq_self_eq_true _⟩

end Json

namespace InputCheck

variable {value : String}

/-- A JSON text of an object, with the name of the credentials among its members. -/
def Credentialed (fits : List Char → Prop) (value : String) : Prop :=
  ∃ members, Json.Writes fits value.toList (.object members) ∧
    ∃ item, (credentials, item) ∈ members

theorem pullSecret_ok : pullSecret value = .ok value ↔ Credentialed Json.Short value := by
  constructor
  · intro passed
    unfold pullSecret at passed
    split at passed
    · split at passed <;> cases passed
    · next secret read =>
      split at passed
      · next has =>
        obtain ⟨members, rfl, named⟩ := Json.hasMember_iff.mp has
        exact ⟨members, Json.read_ok.mp read, named⟩
      · cases passed
  · rintro ⟨members, written, named⟩
    rw [pullSecret, Json.read_ok.mpr written]
    exact if_pos (Json.hasMember_iff.mpr ⟨members, rfl, named⟩)

theorem pullSecret_numeral :
    (∃ numeral, pullSecret value = .error (.numeral numeral)) ↔ Json.OverlongText value.toList := by
  rw [← Json.read_numeral]
  constructor
  · rintro ⟨numeral, failed⟩
    unfold pullSecret at failed
    split at failed
    · next fault read =>
      split at failed
      · next cause => exact ⟨fault, _, read, cause⟩
      · cases failed
    · split at failed <;> cases failed
  · rintro ⟨fault, numeral, read, cause⟩
    refine ⟨numeral, ?_⟩
    simp only [pullSecret, read, cause]

/-- A text is accepted with credentials or refused without them. -/
def Settled (value : String) : Prop :=
  (pullSecret value = .ok value ∧ Credentialed Any value) ∨
    ((∃ fault, pullSecret value = .error (.fault fault)) ∧ ¬Credentialed Any value)

theorem Credentialed.any (short : Credentialed Json.Short value) : Credentialed Any value := by
  obtain ⟨members, written, named⟩ := short
  exact ⟨members, written.imp (fun _ _ => trivial), named⟩

theorem Credentialed.short (named : Credentialed Any value)
    (fitting : ¬Json.OverlongText value.toList) : Credentialed Json.Short value := by
  obtain ⟨members, written, named⟩ := named
  exact ⟨members, (Json.short_or_overlong written).resolve_right fitting, named⟩

theorem settled_iff : Settled value ↔ ¬Json.OverlongText value.toList := by
  constructor
  · intro settled overlong
    obtain ⟨numeral, stopped⟩ := pullSecret_numeral.mpr overlong
    rcases settled with ⟨accepted, -⟩ | ⟨⟨fault, refused⟩, -⟩
    · cases stopped.symm.trans accepted
    · cases stopped.symm.trans refused
  · intro fitting
    cases checked : pullSecret value with
    | ok result =>
      cases Inputs.pullSecret_same _ _ checked
      exact .inl ⟨checked, (pullSecret_ok.mp checked).any⟩
    | error stop =>
      cases stop with
      | numeral numeral => exact absurd (pullSecret_numeral.mp ⟨numeral, checked⟩) fitting
      | fault fault =>
        refine .inr ⟨⟨fault, checked⟩, fun named => ?_⟩
        cases checked.symm.trans (pullSecret_ok.mpr (named.short fitting))

/-- A text is accepted, as it is, just where it is a JSON object with credentials at its top and
with short numbers. The grammar and the check part at a whole number that is too long to be read,
and nowhere else. -/
theorem pullSecret_exact (value : String) :
    (pullSecret value = .ok value ↔ Credentialed Json.Short value) ∧
    ((∃ numeral, pullSecret value = .error (.numeral numeral)) ↔
      Json.OverlongText value.toList) ∧
    (Settled value ↔ ¬Json.OverlongText value.toList) :=
  ⟨pullSecret_ok, pullSecret_numeral, settled_iff⟩

-- an escaped spelling of the name counts, and a member further down does not
example : (pullSecret "\x7b\"\\u0061uths\": null\x7d").toOption.isSome = true := by decide +kernel
example : (pullSecret "\x7b\"a\": \x7b\"auths\": null\x7d\x7d").toOption.isSome = false := by
  decide +kernel

/-- A secret with a whole number for credentials. -/
def numberedSecret (digits : List Char) : String :=
  String.ofList ('\x7b' :: '"' :: ("auths".toList ++ '"' :: ':' :: ' ' :: (digits ++ ['\x7d'])))

variable {digits : List Char} {fits : List Char → Prop}

theorem toList_numberedSecret : (numberedSecret digits).toList =
    '\x7b' :: '"' :: ("auths".toList ++ '"' :: ':' :: ' ' :: (digits ++ ['\x7d'])) :=
  String.toList_ofList

theorem auths_body : Json.Body "auths".toList "auths".toList :=
  Json.body_of_plain (forall_of_all (by decide +kernel))

theorem one_blank : Json.Spaces [' '] := by simp [Json.Spaces]

theorem credentialed_numberedSecret (whole : Json.Whole digits) (fit : fits digits) :
    Credentialed fits (numberedSecret digits) := by
  have number : Json.Value fits digits _ := .number (.whole whole fit : Json.Number fits
    (Json.minus false digits) _)
  have member := Json.Members.last auths_body Json.spaces_nil one_blank number Json.spaces_nil
  rw [String.ofList_toList] at member
  refine ⟨_, ⟨[], _, [], ?_, Json.spaces_nil, .object Json.spaces_nil member, Json.spaces_nil⟩, _,
    List.mem_cons_self ..⟩
  rw [toList_numberedSecret]
  simp only [List.nil_append, List.cons_append, List.append_assoc, List.append_nil]

theorem overlong_numberedSecret (whole : Json.Whole digits) (long : ¬Json.Short digits) :
    Json.OverlongText (numberedSecret digits).toList := by
  have ends : Json.NumberEnd ['\x7d'] := (Json.atEnd_cons (by decide)).numberEnd
  have number : Json.Overlong (Json.minus false digits ++ ['\x7d']) := .number whole long ends
  refine ⟨[], _, ?_, Json.spaces_nil, .object Json.spaces_nil
    (.here auths_body Json.spaces_nil one_blank number)⟩
  exact toList_numberedSecret

theorem longSecret_unsettled :
    Credentialed Any (numberedSecret ('1' :: List.replicate 4300 '0')) ∧
      (∃ numeral, pullSecret (numberedSecret ('1' :: List.replicate 4300 '0')) =
        .error (.numeral numeral)) ∧
      ¬Settled (numberedSecret ('1' :: List.replicate 4300 '0')) := by
  have whole : Json.Whole ('1' :: List.replicate 4300 '0') := by
    refine ⟨⟨List.cons_ne_nil _ _, fun c among => ?_⟩, fun t same => ?_⟩
    · rcases List.mem_cons.mp among with rfl | zero
      · decide
      · rw [List.eq_of_mem_replicate zero]
        decide
    · exact absurd (List.cons.inj same).1 (by decide)
  have long : ¬Json.Short ('1' :: List.replicate 4300 '0') := by
    rw [Json.Short, List.length_cons, List.length_replicate]
    decide
  have overlong := overlong_numberedSecret whole long
  exact ⟨credentialed_numberedSecret whole trivial, pullSecret_numeral.mpr overlong,
    fun settled => settled_iff.mp settled overlong⟩

end InputCheck

end ClusterManifest
