import ClusterManifest.Inputs.Check
import ClusterManifest.Proofs.Result
import ClusterManifest.Proofs.Text.Split

/-! Which texts are names of domains. The pass over a text, one character after the other, takes
just the labels, and with points just the texts whose pieces between points are labels. -/

namespace ClusterManifest

namespace DomainName

open Text (splitWhere splitAtChar)

def IsLabelChar (c : Char) : Prop := ('a' ≤ c ∧ c ≤ 'z') ∨ ('0' ≤ c ∧ c ≤ '9') ∨ c = '-'

/-- Letters, digits and hyphens, at least one of them, and no hyphen at either end. -/
structure Label (s : List Char) : Prop where
  nonempty : 1 ≤ s.length
  plain : ∀ c ∈ s, IsLabelChar c
  first : s.head? ≠ some '-'
  last : s.getLast? ≠ some '-'

/-- What may still come of a label from a place in it on. -/
def Remains : Place → List Char → Prop
  | .beforeLabel, s => Label s
  | .complete, s => (∀ c ∈ s, IsLabelChar c) ∧ s.getLast? ≠ some '-'
  | .hyphen, s => s ≠ [] ∧ (∀ c ∈ s, IsLabelChar c) ∧ s.getLast? ≠ some '-'

theorem isLabelEnd_iff {c : Char} :
    isLabelEnd c = true ↔ ('a' ≤ c ∧ c ≤ 'z') ∨ ('0' ≤ c ∧ c ≤ '9') := by
  simp [isLabelEnd]

theorem isLabelChar_iff {c : Char} : IsLabelChar c ↔ isLabelEnd c = true ∨ c = '-' := by
  rw [isLabelEnd_iff, IsLabelChar, or_assoc]

theorem last_after_end {c : Char} {s : List Char} (ends : isLabelEnd c = true) :
    (c :: s).getLast? ≠ some '-' ↔ s.getLast? ≠ some '-' := by
  have other : c ≠ '-' := by
    rintro rfl
    cases ends
  cases s with
  | nil => simp [other]
  | cons d s => simp

theorem last_after_hyphen {s : List Char} :
    ('-' :: s).getLast? ≠ some '-' ↔ s ≠ [] ∧ s.getLast? ≠ some '-' := by
  cases s with
  | nil => simp
  | cons d s => simp

theorem remains_nil {place : Place} : Remains place [] ↔ place = .complete := by
  cases place with
  | beforeLabel => exact ⟨fun label => absurd label.nonempty (by simp), fun same => nomatch same⟩
  | complete => simp [Remains]
  | hyphen => simp [Remains]

theorem remains_end {place : Place} {c : Char} {s : List Char} (ends : isLabelEnd c = true) :
    Remains place (c :: s) ↔ Remains .complete s := by
  have plain : IsLabelChar c := isLabelChar_iff.mpr (.inl ends)
  have other : c ≠ '-' := by
    rintro rfl
    cases ends
  cases place with
  | beforeLabel =>
    constructor
    · intro label
      exact ⟨fun d among => label.plain d (List.mem_cons_of_mem c among),
        (last_after_end ends).mp label.last⟩
    · rintro ⟨others, last⟩
      exact {
        nonempty := by simp
        plain := List.forall_mem_cons.mpr ⟨plain, others⟩
        first := by simp [other]
        last := (last_after_end ends).mpr last }
  | complete => simp only [Remains, List.forall_mem_cons, plain, true_and, last_after_end ends]
  | hyphen =>
    simp only [Remains, List.forall_mem_cons, plain, true_and, last_after_end ends, ne_eq,
      reduceCtorEq, not_false_eq_true]

theorem remains_hyphen {place : Place} {s : List Char} :
    Remains place ('-' :: s) ↔ place ≠ .beforeLabel ∧ Remains .hyphen s := by
  have plain : IsLabelChar '-' := .inr (.inr rfl)
  cases place with
  | beforeLabel =>
    exact ⟨fun label => absurd rfl label.first, fun both => absurd rfl both.1⟩
  | complete =>
    simp [Remains, plain, last_after_hyphen, and_left_comm]
  | hyphen =>
    simp [Remains, plain, last_after_hyphen, and_left_comm]

theorem not_remains {place : Place} {c : Char} {s : List Char} (foreign : ¬IsLabelChar c) :
    ¬Remains place (c :: s) := by
  intro remains
  cases place with
  | beforeLabel => exact foreign (remains.plain c (List.mem_cons_self ..))
  | complete => exact foreign (remains.1 c (List.mem_cons_self ..))
  | hyphen => exact foreign (remains.2.1 c (List.mem_cons_self ..))

/-- A character that is no separator is taken where the label goes on with it. -/
theorem remains_step {dotted : Bool} {place : Place} {c : Char} {s : List Char}
    (inside : (c == '.' && dotted) = false) :
    Remains place (c :: s) ↔ ∃ next, step dotted place c = some next ∧ Remains next s := by
  by_cases ends : isLabelEnd c = true
  · simp [step, ends, remains_end ends]
  by_cases hyphen : c = '-'
  · subst hyphen
    cases place <;> simp [remains_hyphen, step, isLabelEnd]
  · have stuck : step dotted place c = none := by
      cases place <;> simp_all [step]
    have foreign : ¬IsLabelChar c := by
      rw [isLabelChar_iff]
      exact not_or.mpr ⟨ends, hyphen⟩
    simp [stuck, not_remains foreign]

/-- A point is taken after a whole label, and a new label is due. -/
theorem step_point {place next : Place} :
    step true place '.' = some next ↔ place = .complete ∧ next = .beforeLabel := by
  cases place <;> cases next <;> decide

/-- A pass over a text from a place on takes it where its first piece completes the label at that
place and all others are labels. -/
theorem completes_iff {dotted : Bool} {place : Place} {s piece : List Char}
    {pieces : List (List Char)}
    (split : splitWhere (fun c => c == '.' && dotted) s = piece :: pieces) :
    completes dotted place s = true ↔ Remains place piece ∧ ∀ label ∈ pieces, Label label := by
  induction s generalizing place piece pieces with
  | nil =>
    cases split
    simp [completes, remains_nil]
  | cons c s ih =>
    obtain ⟨next, others, rest⟩ := List.exists_cons_of_ne_nil
      (Text.splitWhere_ne_nil (fun c => c == '.' && dotted) s)
    have course : completes dotted place (c :: s) = true ↔
        ∃ after, step dotted place c = some after ∧ Remains after next ∧
          ∀ label ∈ others, Label label := by
      rw [completes]
      cases step dotted place c <;> simp [ih rest]
    rw [splitWhere, rest] at split
    cases separates : (c == '.' && dotted) with
    | true =>
      obtain ⟨rfl, rfl⟩ : c = '.' ∧ dotted = true := by simpa using separates
      cases split
      have start : Remains .beforeLabel next ↔ Label next := Iff.rfl
      simp [course, step_point, remains_nil, start, and_assoc]
    | false =>
      rw [separates] at split
      cases split
      rw [course, remains_step separates]
      simp only [← and_assoc, exists_and_right]

theorem isLabel_iff {s : List Char} : isLabel s = true ↔ s.length ≤ labelLimit ∧ Label s := by
  have whole : splitWhere (fun c => c == '.' && false) s = [s] :=
    Text.splitWhere_of_none (by simp)
  simp [isLabel, completes_iff whole, Remains]

theorem isName_iff {s : List Char} :
    isName s = true ↔ s.length ≤ nameLimit ∧ ∀ piece ∈ splitAtChar '.' s, Label piece := by
  have points : (fun c : Char => c == '.' && true) = (· == '.') := by simp
  obtain ⟨piece, pieces, split⟩ := List.exists_cons_of_ne_nil
    (Text.splitWhere_ne_nil (fun c => c == '.' && true) s)
  have pass : completes true .beforeLabel s = true ↔ _ := completes_iff split
  rw [points] at split
  simp [isName, pass, splitAtChar, split, Remains]

theorem Label.pointless {s : List Char} (label : Label s) : '.' ∉ s := by
  intro within
  exact absurd (label.plain '.' within) (by rw [IsLabelChar]; decide)

end DomainName

namespace InputCheck

open DomainName

variable {value name domain : String}

theorem clusterName_ok :
    clusterName value = .ok value ↔ value.length ≤ labelLimit ∧ Label value.toList := by
  rw [← String.length_toList, ← isLabel_iff, clusterName]
  split <;> simp_all

theorem clusterName_error (foreign : clusterName value ≠ .ok value) :
    clusterName value = .error (.clusterName value) := by
  unfold clusterName at foreign ⊢
  split
  · next label => exact absurd (if_pos label) foreign
  · rfl

theorem baseDomain_ok : baseDomain value = .ok value ↔
    value.length ≤ nameLimit ∧ ∀ piece ∈ Text.splitAtChar '.' value.toList, Label piece := by
  rw [← String.length_toList, ← isName_iff, baseDomain]
  split <;> simp_all

theorem baseDomain_error (foreign : baseDomain value ≠ .ok value) :
    baseDomain value = .error (.baseDomain value) := by
  unfold baseDomain at foreign ⊢
  split
  · next named => exact absurd (if_pos named) foreign
  · rfl

/-- The one label of a cluster is the whole domain. -/
theorem baseDomain_of_clusterName (accepted : clusterName name = .ok name) :
    baseDomain name = .ok name := by
  obtain ⟨short, label⟩ := clusterName_ok.mp accepted
  refine baseDomain_ok.mpr ⟨Nat.le_trans short (by decide), ?_⟩
  rw [Text.splitAtChar_of_none label.pointless]
  simpa using label

theorem baseDomain_below (named : clusterName name = .ok name)
    (placed : baseDomain domain = .ok domain)
    (short : name.length + 1 + domain.length ≤ nameLimit) :
    baseDomain (name ++ "." ++ domain) = .ok (name ++ "." ++ domain) := by
  obtain ⟨-, label⟩ := clusterName_ok.mp named
  obtain ⟨-, labels⟩ := baseDomain_ok.mp placed
  have text : (name ++ "." ++ domain).toList = name.toList ++ '.' :: domain.toList := by
    simp
  refine baseDomain_ok.mpr ⟨?_, ?_⟩
  · rw [String.length_append, String.length_append]
    exact short
  · rw [text, Text.splitAtChar_append label.pointless]
    exact List.forall_mem_cons.mpr ⟨label, labels⟩

/-- The name of a cluster is one label of at most 63 characters, a domain is at most 253 characters
of labels with points between, and any other text is refused. So each name of a cluster is a domain
by itself, and before a domain it gives a domain again, as long as that is not too long. -/
theorem names_exact :
    (∀ value : String,
      (clusterName value = .ok value ↔ value.length ≤ 63 ∧ Label value.toList) ∧
      (¬(value.length ≤ 63 ∧ Label value.toList) →
        clusterName value = .error (.clusterName value))) ∧
    (∀ value : String,
      (baseDomain value = .ok value ↔
        value.length ≤ 253 ∧ ∀ piece ∈ Text.splitAtChar '.' value.toList, Label piece) ∧
      (¬(value.length ≤ 253 ∧ ∀ piece ∈ Text.splitAtChar '.' value.toList, Label piece) →
        baseDomain value = .error (.baseDomain value))) ∧
    (∀ name : String, clusterName name = .ok name → baseDomain name = .ok name) ∧
    ∀ name domain : String, clusterName name = .ok name → baseDomain domain = .ok domain →
      name.length + 1 + domain.length ≤ 253 →
        baseDomain (name ++ "." ++ domain) = .ok (name ++ "." ++ domain) := by
  refine ⟨fun value => ⟨clusterName_ok, fun foreign => ?_⟩,
    fun value => ⟨baseDomain_ok, fun foreign => ?_⟩,
    fun name => baseDomain_of_clusterName, fun name domain => baseDomain_below⟩
  · exact clusterName_error (mt clusterName_ok.mp foreign)
  · exact baseDomain_error (mt baseDomain_ok.mp foreign)

/-- The longest label. -/
def longestName : String := String.ofList (List.replicate 63 'a')

/-- Ninety-five labels of one letter each, with which the longest label makes the longest domain. -/
def letteredDomain : String := String.ofList ('b' :: (List.replicate 94 ['.', 'b']).flatten)

/-- At the limits: a longest label before a domain makes a longest domain, and one letter more is
too much. A line end is no part of a name, nor is a letter in upper case or a hyphen at an end. -/
theorem longest_accepted :
    baseDomain (longestName ++ "." ++ letteredDomain) =
        .ok (longestName ++ "." ++ letteredDomain) ∧
      (longestName ++ "." ++ letteredDomain).length = 253 ∧
      clusterName (longestName ++ "a") = .error (.clusterName (longestName ++ "a")) ∧
      clusterName "demo\n" = .error (.clusterName "demo\n") ∧
      baseDomain "Example.com" = .error (.baseDomain "Example.com") ∧
      baseDomain "a.-b" = .error (.baseDomain "a.-b") := by
  have longText : longestName.toList = List.replicate 63 'a' := String.toList_ofList
  have letteredText : letteredDomain.toList = 'b' :: (List.replicate 94 ['.', 'b']).flatten :=
    String.toList_ofList
  have label : isLabel (List.replicate 63 'a') = true := by decide +kernel
  have labels : isName ('b' :: (List.replicate 94 ['.', 'b']).flatten) = true := by decide +kernel
  have named : clusterName longestName = .ok longestName := if_pos (longText ▸ label)
  have placed : baseDomain letteredDomain = .ok letteredDomain := if_pos (letteredText ▸ labels)
  have long : longestName.length = 63 := by
    rw [← String.length_toList, longText, List.length_replicate]
  have lettered : letteredDomain.length = 189 := by
    rw [← String.length_toList, letteredText]
    decide +kernel
  have refused (value : String) (long : 63 < value.length) :
      clusterName value = .error (.clusterName value) :=
    (names_exact.1 value).2 (fun label => absurd label.1 (Nat.not_le.mpr long))
  have whole : (longestName ++ "." ++ letteredDomain).length = 63 + 1 + 189 := by
    rw [String.length_append, String.length_append, long, lettered]
    rfl
  have longer : (longestName ++ "a").length = 63 + 1 := by
    rw [String.length_append, long]
    rfl
  refine ⟨names_exact.2.2.2 _ _ named placed (by omega), whole, refused _ (by omega), ?_, ?_, ?_⟩
  · refine (names_exact.1 _).2 (fun good => ?_)
    exact absurd (good.2.plain '\n' (by decide)) (by rw [IsLabelChar]; decide)
  · refine (names_exact.2.1 _).2 (fun good => ?_)
    have label := good.2 "Example".toList (by decide +kernel)
    exact absurd (label.plain 'E' (by decide)) (by rw [IsLabelChar]; decide)
  · refine (names_exact.2.1 _).2 (fun good => ?_)
    exact (good.2 "-b".toList (by decide +kernel)).first rfl

end InputCheck

end ClusterManifest
