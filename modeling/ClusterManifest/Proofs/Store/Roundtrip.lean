import ClusterManifest.Proofs.Manifest.Roundtrip
import ClusterManifest.Proofs.Store.Session

/-! The file of a store, loaded into another store. Whatever a session put into the store, its file
is there unless a count has too many digits, and gives the same manifest unless the name of a tag is
too long or holds a lone surrogate. -/

namespace ClusterManifest

/-- A platform that was built from a variant, or read from a document. -/
inductive Platform.Built : Platform → Prop
  | of {kind : Platform.Kind} {v : Value} {variant : Platform.Variant} :
    Platform.Variant.ofValue kind v = .valid variant → Built (.chosen variant)
  | parsed {v : Value} {platform : Platform} : Platform.ofValue v = .valid platform → Built platform

theorem Platform.Built.wellFormed {platform : Platform} (built : platform.Built) :
    platform.WellFormed := by
  cases built with
  | of accepted => exact wellFormed_variantOfValue accepted
  | parsed accepted => exact wellFormed_ofValue accepted

namespace Store

/-- A request whose platform, if it gives one, was built. -/
def Request.Built : Request → Prop
  | .generate inputs _ => ∀ platform, inputs.platform = .given platform → platform.Built
  | _ => True

/-- The file of a store is there under its name, and loading it into an empty store gives the
manifest. -/
def LoadsBack (store : Store) (m : Manifest) : Prop :=
  ∃ data, store.files = .ok [⟨Manifest.fileName, data⟩] ∧
    empty.load (.data data) = (.ok true, ⟨some m⟩)

variable {store : Store} {request : Request} {m : Manifest}

theorem Gives.wellFormed {answer : Answer} (gives : Gives request answer m)
    (built : request.Built) : m.WellFormed := by
  cases gives with
  | composed composed =>
    obtain ⟨-, layout, -, platform, given, same⟩ := Manifest.compose_ok composed
    refine ⟨Networking.wellFormed_ofDefaults layout, ?_⟩
    intro other chosen
    rw [same] at chosen
    cases chosen
    exact (built platform given).wellFormed
  | read loaded complete => exact Manifest.wellFormed_read loaded

theorem after_wellFormed {requests : List Request} (built : ∀ request ∈ requests, request.Built) :
    ∀ m, (empty.after requests).manifest? = some m → m.WellFormed :=
  after_keeps (fun request among _ _ gives => gives.wellFormed (built request among))
    (fun _ stored => nomatch stored)

theorem accept_written (formed : m.WellFormed) (complete : m.violation? = none)
    (numbers : m.NumbersFit) (tags : m.TagsFit) :
    ∃ text, m.write = .ok text ∧ accept (Text.Utf8.encode text.toList) = .ok m.respelled := by
  obtain ⟨text, written⟩ := (Manifest.write_iff complete).mpr numbers
  have read := (Manifest.read_written formed complete written).1 tags
  exact ⟨text, written, accept_ok.mpr ⟨read, m.violation?_respelled.trans complete⟩⟩

/-- A sound manifest is written to its file and loaded from it just when its counts and the names
of its tags fit, and these hold no lone surrogate. -/
theorem loadsBack_iff (formed : m.WellFormed) (complete : m.violation? = none) :
    LoadsBack ⟨some m⟩ m ↔ m.NumbersFit ∧ m.TagsFit ∧ m.TagsWhole := by
  rw [← Manifest.respelled_eq_iff formed]
  constructor
  · rintro ⟨data, files, loaded⟩
    cases written : m.write with
    | error fault =>
      simp only [Store.files, written] at files
      cases files
    | ok text =>
      have numbers := (Manifest.write_iff complete).mp ⟨text, written⟩
      simp only [Store.files, written, Except.ok.injEq, List.cons.injEq, NamedFile.mk.injEq,
        true_and, and_true] at files
      subst files
      by_cases tags : m.TagsFit
      · obtain ⟨_, again, accepted⟩ := accept_written formed complete numbers tags
        cases again.symm.trans written
        simp only [load, accepted, Prod.mk.injEq, Store.mk.injEq, Option.some.injEq,
          true_and] at loaded
        exact ⟨numbers, tags, loaded⟩
      · have unread := (Manifest.read_written formed complete written).2 tags
        simp only [load, accept, unread] at loaded
        cases loaded
  · rintro ⟨numbers, tags, same⟩
    obtain ⟨text, written, accepted⟩ := accept_written formed complete numbers tags
    refine ⟨Text.Utf8.encode text.toList, ?_, ?_⟩
    · simp only [Store.files, written]
    · simp only [load, accepted, same]

/-- What a session with built platforms stored is written to one file, and loaded from it as the
same manifest, just when its counts and the names of its tags fit and these hold no lone
surrogate. -/
theorem files_load_back {requests : List Request} (built : ∀ request ∈ requests, request.Built)
    (stored : (empty.after requests).manifest? = some m) :
    (empty.after requests).LoadsBack m ↔ m.NumbersFit ∧ m.TagsFit ∧ m.TagsWhole := by
  have formed := after_wellFormed built m stored
  have sound := after_sound requests m stored
  have whole : empty.after requests = ⟨some m⟩ := congrArg Store.mk stored
  rw [whole]
  exact loadsBack_iff formed sound.complete

def taggedInputs (name : Phrase) : Inputs :=
  ⟨.given "", .given "example.com", .given "demo", .given "secret",
    .given (.chosen (.aws ⟨"us-east-1", [(name, "x")]⟩))⟩

/-- A session that composes a manifest whose platform has one tag. -/
def taggedSession (name : Phrase) : List Request := [.generate (taggedInputs name) .standard]

def taggedManifest (name : Phrase) : Manifest :=
  ⟨"v1beta1", ⟨"demo"⟩, "example.com", "", Manifest.standardLayout, Manifest.standardPools,
    some (.chosen (.aws ⟨"us-east-1", [(name, "x")]⟩)), "secret"⟩

theorem taggedSession_built (name : Phrase) : ∀ request ∈ taggedSession name, request.Built := by
  intro request among
  rw [taggedSession, List.mem_singleton] at among
  subst among
  intro platform given
  cases given
  have accepted : Platform.Variant.ofValue .aws
      (.map [(.text "region", .scalar (.text "us-east-1")),
        (.text "userTags", .map [(.ofPhrase name, .scalar (.text "x"))])]) =
      .valid (.aws ⟨"us-east-1", [(name, "x")]⟩) := by cases name <;> rfl
  exact .of accepted

theorem taggedSession_stored (name : Phrase) :
    (empty.after (taggedSession name)).manifest? = some (taggedManifest name) := by
  have composed : Manifest.compose (taggedInputs name) .standard = .ok (taggedManifest name) :=
    Manifest.compose_given rfl
  simp only [taggedSession, after, List.foldl_cons, List.foldl_nil, perform, generate, composed]

theorem tagged_loads_back :
    (empty.after (taggedSession "team")).LoadsBack (taggedManifest "team") := by
  have fits : Yaml.KeyFits "team".toList := by decide +kernel
  have tagsFit : (taggedManifest "team").TagsFit := List.forall_mem_singleton.mpr fits
  have whole : (taggedManifest "team").TagsWhole :=
    List.forall_mem_singleton.mpr (Phrase.whole_text "team")
  exact (files_load_back (taggedSession_built "team") (taggedSession_stored "team")).mpr
    ⟨Manifest.numbersFit_standard rfl rfl, tagsFit, whole⟩

/-- A name of 110 characters, each of which is written as an escape of ten. -/
def longName : String := String.ofList (List.replicate 110 '😀')

theorem longName_not_loaded_back :
    (∀ request ∈ taggedSession longName, request.Built) ∧
      (empty.after (taggedSession longName)).manifest? = some (taggedManifest longName) ∧
      ¬(empty.after (taggedSession longName)).LoadsBack (taggedManifest longName) := by
  have built := taggedSession_built longName
  have stored := taggedSession_stored longName
  refine ⟨built, stored, ?_⟩
  have whole : empty.after (taggedSession longName) = ⟨some (taggedManifest longName)⟩ :=
    congrArg Store.mk stored
  rw [whole, loadsBack_iff (after_wellFormed built _ stored) (after_sound _ _ stored).complete]
  rintro ⟨-, fit, -⟩
  have text : longName.toList = List.replicate 110 '😀' := String.toList_ofList
  have fits : Yaml.KeyFits longName.toList := fit (.text longName, .text "x") (List.mem_cons_self ..)
  rw [text] at fits
  exact absurd fits (by decide +kernel)

end Store

end ClusterManifest
