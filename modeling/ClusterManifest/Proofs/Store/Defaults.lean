import ClusterManifest.Proofs.Store.Roundtrip

/-! Composing and loading fill in the same defaults: whichever fields with defaults are left out of
what is written for a composed manifest, what is read from the rest is written alike. -/

namespace ClusterManifest.Store

open Document

open Manifest (Standard standardFields)

/-- What is written for a manifest that was composed with the standard defaults is accepted, lacks
nothing and is written alike again, also where fields that hold their defaults are left out. It is
read as the manifest itself just when no name of a tag holds a lone surrogate. -/
theorem composed_from_shortened {inputs : Inputs} {m : Manifest} {d : Document}
    (composed : Manifest.compose inputs .standard = .ok m)
    (built : ∀ platform, inputs.platform = .given platform → platform.Built)
    (short : Shortens Standard [] m.toDocument d) :
    ∃ again, Manifest.ofValue d.toValue = .valid again ∧ again.violation? = none ∧
      again.toDocument = m.toDocument ∧ (again = m ↔ m.TagsWhole) ∧
      (m.same again = true ↔ m.TagsWhole) := by
  have gives : Gives (.generate inputs .standard) (.generated (.ok m)) m := .composed composed
  have complete := (Manifest.compose_ok composed).1
  obtain ⟨variant, chosen⟩ := Manifest.chosen_of_complete complete
  have resolved : m.Resolved := .inr ⟨variant, chosen⟩
  have formed := gives.wellFormed built
  exact ⟨m.respelled, Manifest.ofValue_shortened formed resolved short,
    m.violation?_respelled.trans complete, m.toDocument_respelled,
    Manifest.respelled_eq_iff formed, Manifest.same_respelled_iff formed⟩

def bridgedInputs : Inputs :=
  ⟨.given "", .given "example.com", .given "demo", .given "secret",
    .given (.chosen (.libvirt ⟨"qemu:///system", ⟨"tectonic", "br0", "192.168.126.0/24"⟩⟩))⟩

def bridgedManifest : Manifest :=
  ⟨"v1beta1", ⟨"demo"⟩, "example.com", "", Manifest.standardLayout, Manifest.standardPools,
    some (.chosen (.libvirt ⟨"qemu:///system", ⟨"tectonic", "br0", "192.168.126.0/24"⟩⟩)), "secret"⟩

/-- What is written for the manifest without its key, its pools, two names of its bridge and all of
its layout but the range of the machines. -/
def bridgedDocument : Document :=
  .block [("apiVersion", .text "v1beta1"),
    ("metadata", .block [("name", .text "demo")]),
    ("baseDomain", .text "example.com"),
    ("networking", .block [("machineCIDR", .text "10.0.0.0/16")]),
    ("platform", .block [("libvirt", .block [("URI", .text "qemu:///system"),
      ("network", .block [("if", .text "br0")])])]),
    ("pullSecret", .text "secret")]

theorem bridgedDocument_short :
    Shortens Standard [] bridgedManifest.toDocument bridgedDocument := by
  have layout : Shortens Standard ["networking"] Manifest.standardLayoutWritten
      (.block [("machineCIDR", .text "10.0.0.0/16")]) := by
    refine .block (.keep .same (.leaveOut ?_ (.leaveOut ?_ (.leaveOut ?_ .nil)))) <;>
      simp [Standard, standardFields]
  have network : Shortens Standard ["platform", "libvirt", "network"]
      (Platform.LibvirtNetwork.toDocument ⟨"tectonic", "br0", "192.168.126.0/24"⟩)
      (.block [("if", .text "br0")]) := by
    refine .block (.leaveOut ?_ (.keep .same (.leaveOut ?_ .nil))) <;>
      simp [Standard, standardFields]
  have written : bridgedManifest.toDocument = .block (bridgedManifest.fields _) :=
    Manifest.toDocument_fields rfl
  rw [written, bridgedDocument]
  refine .block (.keep .same (.keep .same (.keep .same (.leaveOut ?_ (.keep ?_ (.leaveOut ?_
    (.keep (.block (.keep (.block (.keep .same (.keep network .nil))) .nil))
      (.keep .same .nil))))))))
  · simp [Standard, standardFields, bridgedManifest]
  · rw [Manifest.standardLayout_toDocument] at layout
    exact layout
  · simp [Standard, standardFields, bridgedManifest, Manifest.standardPools_written]

theorem bridged_from_shortened :
    Manifest.ofValue bridgedDocument.toValue = .valid bridgedManifest ∧
      bridgedManifest.violation? = none := by
  have composed : Manifest.compose bridgedInputs .standard = .ok bridgedManifest :=
    Manifest.compose_given rfl
  have accepted : Platform.Variant.ofValue .libvirt
      (.map [(.text "uri", .scalar (.text "qemu:///system")),
        (.text "network", .map [(.text "if_name", .scalar (.text "br0"))])]) =
      .valid (.libvirt ⟨"qemu:///system", ⟨"tectonic", "br0", "192.168.126.0/24"⟩⟩) := rfl
  have built : ∀ platform, bridgedInputs.platform = .given platform → platform.Built := by
    intro platform given
    cases given
    exact .of accepted
  have whole : bridgedManifest.TagsWhole := fun _ among => nomatch among
  obtain ⟨again, read, complete, -, back, -⟩ :=
    composed_from_shortened composed built bridgedDocument_short
  cases back.mpr whole
  exact ⟨read, complete⟩

/-- With half of a pair in the name of a tag another manifest is read, though nothing is left out. -/
theorem half_composed_otherwise :
    (∀ platform, (taggedInputs (.illFormed half)).platform = .given platform → platform.Built) ∧
      Manifest.compose (taggedInputs (.illFormed half)) .standard =
        .ok (taggedManifest (.illFormed half)) ∧
      Manifest.ofValue (taggedManifest (.illFormed half)).toDocument.toValue =
        .valid (taggedManifest "\uFFFD\uFFFD\uFFFD") ∧
      (taggedManifest (.illFormed half)).same (taggedManifest "\uFFFD\uFFFD\uFFFD") = false := by
  have built := taggedSession_built (.illFormed half) _ (List.mem_cons_self ..)
  exact ⟨built, Manifest.compose_given rfl, Schema.Checked.valid_of_value (by decide +kernel),
    by decide +kernel⟩

end ClusterManifest.Store
