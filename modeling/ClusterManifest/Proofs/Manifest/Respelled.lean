import Mathlib.Data.List.Nodup
import ClusterManifest.Proofs.Manifest.Fields

/-! Names of tags in writing. A lone surrogate is replaced there, so that a name that holds one is
read as another name, and names that differ may come out as one. -/

namespace ClusterManifest

open Document Schema

/-- The first half of a pair, and no second. -/
def half : IllFormed := ⟨[⟨0xD800, by decide⟩], rfl⟩

namespace Phrase

@[simp] theorem spelling_text (value : String) : (text value).spelling = value := rfl

@[simp] theorem whole_text (value : String) : (text value).Whole := ⟨value, rfl⟩

theorem Whole.text_spelling {phrase : Phrase} (whole : phrase.Whole) :
    .text phrase.spelling = phrase := by
  obtain ⟨value, rfl⟩ := whole
  rfl

end Phrase

namespace Platform

/-- Tags as they are read from what is written for them. -/
def respell (tags : List (Phrase × Phrase)) : List (Phrase × Phrase) := readTags (spelled tags)

variable {tags : List (Phrase × Phrase)}

theorem whole_respell : ∀ tag ∈ respell tags, tag.1.Whole := by
  intro tag among
  obtain ⟨written, -, rfl⟩ := List.mem_map.mp among
  exact Phrase.whole_text written.1

theorem respell_of_whole (distinct : (tags.map Prod.fst).Nodup)
    (whole : ∀ tag ∈ tags, tag.1.Whole) : respell tags = tags := by
  have back : readTags (tags.map (fun tag => (tag.1.spelling, tag.2))) = tags := by
    rw [readTags, List.map_map]
    refine (List.map_congr_left (fun tag among => ?_)).trans (List.map_id tags)
    exact Prod.ext (whole tag among).text_spelling rfl
  have apart : ((tags.map (fun tag => (tag.1.spelling, tag.2))).map Prod.fst).Nodup := by
    refine List.Nodup.of_map Phrase.text ?_
    have names : ((tags.map (fun tag => (tag.1.spelling, tag.2))).map Prod.fst).map Phrase.text =
        (readTags (tags.map (fun tag => (tag.1.spelling, tag.2)))).map Prod.fst := by
      simp [readTags]
    rw [names, back]
    exact distinct
  rw [respell, spelled, putNames_distinct apart, back]

/-- Tags are read back as they are just when no name of them holds a lone surrogate. -/
theorem respell_eq_iff (distinct : (tags.map Prod.fst).Nodup) :
    respell tags = tags ↔ ∀ tag ∈ tags, tag.1.Whole := by
  refine ⟨fun same => ?_, respell_of_whole distinct⟩
  rw [← same]
  exact whole_respell

theorem spelled_respell (tags : List (Phrase × Phrase)) :
    spelled (respell tags) = spelled tags := by
  have back : (respell tags).map (fun tag => (tag.1.spelling, tag.2)) = spelled tags := by
    simp [respell, readTags, Function.comp_def]
  rw [spelled, back]
  exact putNames_distinct (nodup_putNames _)

def Variant.respelled : Variant → Variant
  | .aws fields => .aws ⟨fields.region, respell fields.userTags⟩
  | variant => variant

@[simp] theorem Variant.kind_respelled (variant : Variant) :
    variant.respelled.kind = variant.kind := by
  cases variant <;> rfl

theorem Variant.toDocument_respelled (variant : Variant) :
    variant.respelled.toDocument = variant.toDocument := by
  cases variant with
  | aws fields => simp only [respelled, toDocument, spelled_respell]
  | libvirt | openstack | none => rfl

def respelled : Platform → Platform
  | .chosen variant => .chosen variant.respelled
  | platform => platform

theorem toDocument_respelled (platform : Platform) :
    platform.respelled.toDocument = platform.toDocument := by
  cases platform with
  | unresolved problem => rfl
  | chosen variant =>
    simp only [respelled, toDocument, Variant.kind_respelled, Variant.toDocument_respelled]

end Platform

namespace Manifest

/-- A manifest as it is read from what is written for it. -/
def respelled (m : Manifest) : Manifest := { m with platform := m.platform.map Platform.respelled }

variable {m : Manifest}

theorem toDocument_respelled (m : Manifest) : m.respelled.toDocument = m.toDocument := by
  have written : m.respelled.writtenFields = m.writtenFields := by
    cases chosen : m.platform <;>
      simp [writtenFields, respelled, chosen, Platform.toDocument_respelled]
  rw [toDocument_written, toDocument_written, written]

theorem violation?_respelled (m : Manifest) : m.respelled.violation? = m.violation? := by
  cases chosen : m.platform with
  | none => simp [violation?, respelled, chosen]
  | some platform => cases platform <;> simp [violation?, respelled, chosen, Platform.respelled]

/-- A platform is read back as it is just when no name of its tags holds a lone surrogate. -/
theorem respelled_eq_iff (formed : m.WellFormed) : m.respelled = m ↔ m.TagsWhole := by
  obtain ⟨apiVersion, metadata, baseDomain, sshKey, networking, machines, platform, pullSecret⟩ := m
  rcases platform with _ | ((fields | fields | fields | _) | problem)
  case some.chosen.aws =>
    have distinct : (fields.userTags.map Prod.fst).Nodup := formed.platform _ rfl
    have whole := Platform.respell_eq_iff distinct
    obtain ⟨region, tags⟩ := fields
    simpa [respelled, Platform.respelled, Platform.Variant.respelled, TagsWhole, Manifest.tags]
      using whole
  all_goals simp [respelled, Platform.respelled, Platform.Variant.respelled, TagsWhole, Manifest.tags]

theorem same_iff {n : Manifest} :
    m.same n = true ↔ samePlatform m.platform n.platform = true ∧ m.apiVersion = n.apiVersion ∧
      m.metadata = n.metadata ∧ m.baseDomain = n.baseDomain ∧ m.sshKey = n.sshKey ∧
      m.networking = n.networking ∧ m.machines = n.machines ∧ m.pullSecret = n.pullSecret := by
  cases m
  cases n
  simp [same]

theorem tagsWhole_of_same (same : m.same m.respelled = true) : m.TagsWhole := by
  have platforms := (same_iff.mp same).1
  intro tag among
  unfold Manifest.tags at among
  split at among
  · next fields chosen =>
    rw [respelled, chosen] at platforms
    have tags : Platform.sameTags fields.userTags (Platform.respell fields.userTags) = true := by
      simp only [Option.map_some, samePlatform, Platform.respelled, Platform.Variant.respelled,
        Platform.same, Bool.and_eq_true] at platforms
      exact platforms.2
    simp only [Platform.sameTags, Bool.and_eq_true, List.all_eq_true] at tags
    exact Platform.whole_respell tag (List.contains_iff_mem.mp (tags.2 tag among))
  · cases among

theorem same_self (m : Manifest) : m.same m = true := by
  refine same_iff.mpr ⟨?_, rfl, rfl, rfl, rfl, rfl, rfl, rfl⟩
  rcases m.platform with _ | ((fields | fields | fields | _) | problem) <;>
    simp [samePlatform, Platform.same, Platform.sameTags]

theorem same_respelled_iff (formed : m.WellFormed) :
    m.same m.respelled = true ↔ m.TagsWhole := by
  refine ⟨tagsWhole_of_same, fun whole => ?_⟩
  rw [(respelled_eq_iff formed).mpr whole]
  exact same_self m

end Manifest

end ClusterManifest
