import ClusterManifest.Proofs.Manifest.Reading

/-! The file of a manifest. It can be written when the counts in it have few enough digits, and
what is written is read back unless the name of a tag is too long. -/

namespace ClusterManifest.Manifest

open Document

variable {m : Manifest}

theorem write_iff (complete : m.violation? = none) :
    (∃ text, m.write = .ok text) ↔ m.NumbersFit := by
  obtain ⟨variant, chosen⟩ := chosen_of_complete complete
  rw [write, fieldsWithoutNulls_all chosen, ← numbersFit_fields m variant]
  exact Yaml.write_iff _ _

/-- What is written for a manifest is read, with the names of its tags as they are spelled, if these
fit; if one does not, what is written is no YAML. -/
theorem read_written (formed : m.WellFormed) (complete : m.violation? = none) {text : String}
    (written : m.write = .ok text) :
    (m.TagsFit → read (Text.Utf8.encode text.toList) = .ok m.respelled) ∧
      (¬m.TagsFit → read (Text.Utf8.encode text.toList) = .error (.yaml .malformed)) := by
  obtain ⟨variant, chosen⟩ := chosen_of_complete complete
  have low := height_fields m variant
  have shallow : 2 * heightOfFields (m.fields variant) < Yaml.Style.width := by
    have width : Yaml.Style.width = 80 := rfl
    omega
  rw [write, fieldsWithoutNulls_all chosen] at written
  have both := Yaml.read_written written shallow
  rw [← keysFit_fields chosen]
  constructor
  · intro fit
    have value := ofDocumentValue_fields formed chosen
    rw [read, both.1 fit]
    exact value
  · intro long
    rw [read, both.2 long]

end ClusterManifest.Manifest
