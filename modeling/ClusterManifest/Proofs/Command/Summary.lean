import ClusterManifest.Proofs.Command.Settled
import ClusterManifest.Proofs.Console.Detail

/-! What validating an acceptable manifest tells about it. A name of a pool is taken as markup and
all else is escaped, so the summary stands as the manifest has it just when its texts show as they
are. A text with a lone surrogate is not shown at all. -/

namespace ClusterManifest.Command

open ClusterManifest.Action Console Console.Markup

variable {host : Host} {given : Option String} {files after : FileTree} {m : Manifest}
  {data : Text.Bytes}

/-- A count that is small enough to be written. -/
def Countable (replicas : Option Nat) : Prop :=
  ∀ count ∈ replicas, (Text.decimal count).length ≤ Text.Numeral.digitLimit

def countShown : Option Nat → String
  | none => "unset"
  | some count => String.ofList (Text.decimal count)

theorem countText_ok {replicas : Option Nat} {text : String} :
    countText replicas = .ok text ↔ Countable replicas ∧ text = countShown replicas := by
  cases replicas with
  | none => simp [countText, Countable, countShown, eq_comm]
  | some count =>
    have positive : ¬((count : Int) < 0) := by omega
    rw [countText, map_ok, Text.Numeral.write]
    by_cases short : (Text.decimal count).length ≤ Text.Numeral.digitLimit
    · simp [Countable, countShown, Nat.not_lt.mpr short, short, positive, eq_comm]
    · simp [Countable, Nat.not_le.mp short, short]

def detailLine (name value : String) : String := "    " ++ name ++ ": " ++ value

def poolLine (pool : MachinePool) : String :=
  detailLine (pool.name.spelling ++ " replicas") (countShown pool.replicas)

/-- A value as it is told in the summary. -/
def told (value : Phrase) : String := String.ofList (Markup.told value.spelling.toList)

/-- A name as it is told in the summary, where it is taken as markup. -/
def spoken (name : Phrase) : String := String.ofList (Markup.spoken name.spelling.toList)

/-- The texts of a manifest that stand in its summary, other than the names of its pools. -/
def textsOf (m : Manifest) : List Phrase := [m.name, m.baseDomain, m.networking.type]

/-- The lines of a summary before those of the pools, given what is done to the texts in them. -/
def fieldLines (f : Phrase → String) (m : Manifest) : List String :=
  [detailLine "cluster" (f m.name), detailLine "base domain" (f m.baseDomain),
    detailLine "platform" (platformShown m), detailLine "network type" (f m.networking.type)]

/-- The summary as it should stand: every text as the manifest has it. -/
def summaryLines (m : Manifest) : List String :=
  fieldLines Phrase.spelling m ++ m.machines.map poolLine

def spokenLine (pool : MachinePool) : String :=
  detailLine (spoken pool.name ++ " replicas") (countShown pool.replicas)

/-- The summary as it is told. -/
def toldLines (m : Manifest) : List String := fieldLines told m ++ m.machines.map spokenLine

theorem told_of_ordinary {value : Phrase} (ordinary : Ordinary value.spelling.toList) :
    told value = value.spelling := by
  rw [told, told_ordinary ordinary, String.ofList_toList]

theorem ordinary_count (replicas : Option Nat) :
    Ordinary (countShown replicas).toList ∧ Visible (countShown replicas).toList := by
  cases replicas with
  | none => decide
  | some count =>
    have digits : ∀ c ∈ Text.decimal count, c ≠ ':' ∧ c ≠ '\\' ∧ c ≠ '\t' ∧ isDropped c = false :=
      fun c among => Text.digit_cases
        (p := fun c => c ≠ ':' ∧ c ≠ '\\' ∧ c ≠ '\t' ∧ isDropped c = false) (by decide)
        (Text.isAsciiDigit_of_decimal among)
    rw [countShown, String.toList_ofList]
    exact ⟨⟨fun colon => (digits _ colon).1 rfl, fun sign => (digits _ sign).2.1 rfl⟩,
      fun c among => (digits c among).2.2⟩

theorem single_count (replicas : Option Nat) :
    isDivided (countShown replicas).toList = false := by
  cases replicas with
  | none => decide
  | some count =>
    have digits : ∀ c ∈ Text.decimal count, c ≠ '\n' ∧ c ≠ '\t' := fun c among =>
      Text.digit_cases (p := fun c => c ≠ '\n' ∧ c ≠ '\t') (by decide)
        (Text.isAsciiDigit_of_decimal among)
    rw [countShown, String.toList_ofList, isDivided, Bool.or_eq_false_iff]
    simp only [List.contains_eq_mem, decide_eq_false_iff_not]
    exact ⟨fun among => (digits _ among).1 rfl, fun among => (digits _ among).2 rfl⟩

theorem ending_names : Ending "cluster".toList ∧ Ending "base domain".toList ∧
    Ending "platform".toList ∧ Ending "network type".toList :=
  ⟨⟨by decide, by decide⟩, ⟨by decide, by decide⟩, ⟨by decide, by decide⟩, ⟨by decide, by decide⟩⟩

theorem ordinary_platform (m : Manifest) :
    Ordinary (platformShown m).toList ∧ Visible (platformShown m).toList := by
  unfold platformShown
  cases m.platform with
  | none => decide
  | some platform =>
    cases platform with
    | unresolved problem =>
      change Ordinary "".toList ∧ Visible "".toList
      decide
    | chosen variant => cases kind : variant.kind <;> simp only [Platform.name, kind] <;> decide

/-- What is told before the summary. -/
def opening : List String :=
  ["", "── VALIDATE ──", "  ✓ install-config.yaml is valid"]

theorem detailLine_inj {name value other : String} :
    detailLine name value = detailLine name other ↔ value = other :=
  String.append_right_inj _

theorem spokenLine_eq {pool : MachinePool} :
    spokenLine pool = poolLine pool ↔ spoken pool.name = pool.name.spelling := by
  simp only [spokenLine, poolLine, detailLine, String.append_left_inj, String.append_right_inj]

theorem visible_detailLine {name value : String} : Visible (detailLine name value).toList ↔
    Visible name.toList ∧ Visible value.toList := by
  have margin : Visible "    ".toList ∧ Visible ": ".toList := by decide
  simp only [detailLine, String.toList_append, visible_append, margin.1, margin.2, true_and,
    and_true]

theorem visible_poolLine {pool : MachinePool} :
    Visible (poolLine pool).toList ↔ Visible pool.name.spelling.toList := by
  have ending : Visible " replicas".toList := by decide
  simp only [poolLine, visible_detailLine, String.toList_append, visible_append, ending,
    (ordinary_count pool.replicas).2, and_true]

theorem toldLines_eq : toldLines m = summaryLines m ↔
    (∀ value ∈ textsOf m, told value = value.spelling) ∧
      ∀ pool ∈ m.machines, spoken pool.name = pool.name.spelling := by
  simp only [toldLines, summaryLines, fieldLines, textsOf, List.cons_append,
    List.nil_append, List.cons.injEq, detailLine_inj, true_and, List.map_inj_left, spokenLine_eq,
    List.forall_mem_cons, List.not_mem_nil, false_implies, implies_true, and_true, and_assoc]

theorem printed_summary :
    (∀ line ∈ opening ++ summaryLines m, (Item.text line).printed = line) ↔
      (∀ value ∈ textsOf m, Visible value.spelling.toList) ∧
        ∀ pool ∈ m.machines, Visible pool.name.spelling.toList := by
  have frame : ∀ line ∈ opening, Visible line.toList := by decide
  have names : Visible "cluster".toList ∧ Visible "base domain".toList ∧
      Visible "platform".toList ∧ Visible "network type".toList := by decide
  obtain ⟨cluster, domain, platform, network⟩ := names
  simp only [printed_text, List.forall_mem_append, summaryLines, fieldLines, textsOf,
    List.forall_mem_cons, List.forall_mem_map, visible_detailLine, visible_poolLine, cluster,
    domain, platform, network,
    (ordinary_platform m).2, List.not_mem_nil, false_implies, implies_true, and_true, true_and,
    and_assoc]
  exact and_iff_right frame

/-- A value that stands in a summary as it is. -/
structure Literal (value : Phrase) : Prop where
  whole : value.Whole
  told : told value = value.spelling
  visible : Visible value.spelling.toList

/-- A text without lone surrogates, colons, backslashes, tabs and characters that are not printed. -/
structure Plain (phrase : Phrase) : Prop where
  whole : phrase.Whole
  ordinary : Ordinary phrase.spelling.toList
  visible : Visible phrase.spelling.toList

theorem plain_text {value : String} (ordinary : Ordinary value.toList)
    (visible : Visible value.toList) : Plain value :=
  ⟨Phrase.whole_text value, ordinary, visible⟩

theorem literal_of_plain {value : Phrase} (plain : Plain value) : Literal value :=
  ⟨plain.whole, told_of_ordinary plain.ordinary, plain.visible⟩

section Summary

variable [LiteralReader]

/-- A pool that can be told about. -/
structure Tellable (pool : MachinePool) : Prop where
  counted : Countable pool.replicas
  whole : pool.name.Whole
  keyed : Keyed (pool.name.spelling ++ " replicas").toList

/-- What holds a lone surrogate is not told. -/
theorem whole_of_detail {name value : Phrase} {item : Item} (made : detail name value = .ok item) :
    name.Whole ∧ value.Whole := by
  unfold detail at made
  split at made
  · exact ⟨⟨_, rfl⟩, _, rfl⟩
  · cases made

theorem detail_told {name : String} (ends : Ending name.toList) {value : Phrase}
    (whole : value.Whole) : detail name value = .ok (.text (detailLine name (told value))) := by
  obtain ⟨value, rfl⟩ := whole
  have alone : Markup.spoken "".toList = [] := by
    rw [Markup.spoken, String.toList_empty, pieces_nil]
    rfl
  have unopened : '[' ∉ ("" ++ name).toList := by
    rw [String.empty_append]
    exact ends.unopened
  have made := (detail_eq "" value ends (.inr (by simp))).mpr ⟨keyed_unopened unopened, rfl⟩
  rw [alone] at made
  exact made

theorem detail_pool {pool : MachinePool} {item : Item} :
    detail (pool.name.followedBy " replicas") (countShown pool.replicas) = .ok item ↔
      (pool.name.Whole ∧ Keyed (pool.name.spelling ++ " replicas").toList) ∧
        item = .text (spokenLine pool) := by
  obtain ⟨name | name, replicas⟩ := pool
  case illFormed =>
    refine iff_of_false (fun made => ?_) (fun told => nomatch told.1.1)
    exact nomatch (whole_of_detail made).1
  rw [and_iff_right (Phrase.whole_text name)]
  have ends : Ending " replicas".toList := ⟨by decide, by decide⟩
  have itself := told_ordinary (ordinary_count replicas).1
  have single := single_count replicas
  rw [← itself] at single
  have made : detail (name ++ " replicas" : String) (countShown replicas) = .ok item ↔ _ :=
    detail_eq name _ ends (.inl single)
  rw [itself, String.ofList_toList] at made
  exact made

theorem shows_summarizePools {pools : List MachinePool} (each : ∀ pool ∈ pools, Tellable pool) :
    Shows (summarizePools pools) ((pools.map spokenLine).map .text) := by
  intro files
  induction pools with
  | nil => rfl
  | cons pool pools ih =>
    rw [List.forall_mem_cons] at each
    have line := shows_tell (detail_pool.mpr ⟨⟨each.1.whole, each.1.keyed⟩, rfl⟩)
    have course := line.run_bind (fun _ => summarizePools pools) files
    rw [ih each.2] at course
    rw [summarizePools, countText_ok.mpr ⟨each.1.counted, rfl⟩]
    exact course

theorem tellable_of_yields {pools : List MachinePool}
    (ended : Yields (summarizePools pools) files () after) : ∀ pool ∈ pools, Tellable pool := by
  induction pools generalizing files with
  | nil => simp
  | cons pool pools ih =>
    obtain ⟨count, _, counting, step⟩ := yields_bind.mp ended
    obtain ⟨_, _, telling, rest⟩ := yields_bind.mp step
    obtain ⟨counted, same⟩ := countText_ok.mp (yields_ofExcept.mp counting).1
    obtain ⟨item, made⟩ := (yields_tell.mp telling).1
    rw [same] at made
    obtain ⟨⟨whole, keyed⟩, -⟩ := detail_pool.mp made
    exact List.forall_mem_cons.mpr ⟨⟨counted, whole, keyed⟩, ih rest⟩

/-- A pool that has a fault in its name ends the summary. -/
theorem summarizePools_fails {pool : MachinePool} {fault : Console.Fault}
    (counted : Countable pool.replicas)
    (line : detail (pool.name.followedBy " replicas") (countShown pool.replicas) = .error fault)
    (pools : List MachinePool) (files : FileTree) :
    ((summarizePools (pool :: pools)).run files).result = .error (.console fault) := by
  rw [summarizePools, countText_ok.mpr ⟨counted, rfl⟩]
  dsimp only [Action.ofExcept, bind_def, Action.bind]
  rw [line]
  rfl

/-- A summary comes to what comes of the pools, where all before them can be told. -/
theorem run_summarize (whole : ∀ value ∈ textsOf m, value.Whole) (files : FileTree) :
    (summarize m).run files = ⟨((summarizePools m.machines).run files).result,
      (fieldLines told m).map .text ++ ((summarizePools m.machines).run files).shown, files⟩ := by
  obtain ⟨cluster, domain, platform, network⟩ := ending_names
  simp only [textsOf, List.forall_mem_cons] at whole
  obtain ⟨name, base, type, -⟩ := whole
  have platformTold := detail_told platform (Phrase.whole_text (platformShown m))
  have platformSame : told (platformShown m) = platformShown m :=
    told_of_ordinary (ordinary_platform m).1
  rw [platformSame] at platformTold
  have kept := files_of_reading (reading_of_showing (showing_summarizePools m.machines)) files
  have course : summarize m =
      (tell (detail "cluster" m.name)).bind fun _ =>
      (tell (detail "base domain" m.baseDomain)).bind fun _ =>
      (tell (detail "platform" (platformShown m))).bind fun _ =>
      (tell (detail "network type" m.networking.type)).bind fun _ =>
      summarizePools m.machines := rfl
  rw [course, (shows_tell (detail_told cluster name)).run_bind,
    (shows_tell (detail_told domain base)).run_bind, (shows_tell platformTold).run_bind,
    (shows_tell (detail_told network type)).run_bind, kept]
  rfl

theorem shows_summarize (whole : ∀ value ∈ textsOf m, value.Whole)
    (each : ∀ pool ∈ m.machines, Tellable pool) :
    Shows (summarize m) ((toldLines m).map .text) := by
  intro files
  rw [run_summarize whole, shows_summarizePools each files, toldLines, List.map_append]

theorem whole_of_yields (ended : Yields (summarize m) files () after) :
    ∀ value ∈ textsOf m, value.Whole := by
  have whole {name value : Phrase} {files after : FileTree}
      (telling : Yields (tell (detail name value)) files () after) : value.Whole := by
    obtain ⟨item, made⟩ := (yields_tell.mp telling).1
    exact (whole_of_detail made).2
  obtain ⟨_, _, name, step1⟩ := yields_bind.mp ended
  obtain ⟨_, _, domain, step2⟩ := yields_bind.mp step1
  obtain ⟨_, _, -, step3⟩ := yields_bind.mp step2
  obtain ⟨_, _, network, -⟩ := yields_bind.mp step3
  simp only [textsOf, List.forall_mem_cons]
  exact ⟨whole name, whole domain, whole network, List.forall_mem_nil _⟩

theorem summarize_ok (m : Manifest) (files : FileTree) :
    ((summarize m).run files).result = .ok () ↔
      (∀ value ∈ textsOf m, value.Whole) ∧ ∀ pool ∈ m.machines, Tellable pool := by
  constructor
  · intro ended
    have whole := whole_of_yields ⟨ended, rfl⟩
    rw [run_summarize whole] at ended
    exact ⟨whole, tellable_of_yields ⟨ended, rfl⟩⟩
  · rintro ⟨whole, each⟩
    rw [shows_summarize whole each files]

theorem shows_heading : Shows (heading "VALIDATE") [.text "", .text "── VALIDATE ──"] := by
  rw [heading, heading_validate]
  exact fun _ => rfl

/-- Validating an acceptable manifest comes to what its summary comes to. -/
theorem run_validate (holds : Holds files (directory host given) data m) :
    (validate host given).run files =
      ⟨((summarize m).run files).result.map (fun _ => successCode),
        opening.map .text ++ ((summarize m).run files).shown, files⟩ := by
  have found := load_holds holds
  have valid := shows_tell success_validate files
  have kept := files_of_reading (reading_of_showing (showing_summarize m)) files
  simp only [validate, bind_def, run_bind, run_attempt, shows_heading files, found, if_true,
    Store.stored, Action.ofExcept, pure_def, run, valid, List.append_nil, List.nil_append]
  cases ((summarize m).run files).result <;> simp [kept, opening, Except.map]

/-- Validating ends with success, and what it tells and prints is a summary as it should stand. -/
structure Verbatim (outcome : Outcome Nat) (m : Manifest) : Prop where
  ended : outcome.result = .ok successCode
  whole : (∀ value ∈ textsOf m, value.Whole) ∧ ∀ pool ∈ m.machines, pool.name.Whole
  shown : outcome.shown = (opening ++ summaryLines m).map .text
  printed : ∀ line ∈ opening ++ summaryLines m, (Item.text line).printed = line

/-- A pool with a name that stands in a summary as it is. -/
structure LiteralPool (pool : MachinePool) : Prop extends Tellable pool where
  spoken : spoken pool.name = pool.name.spelling
  visible : Visible pool.name.spelling.toList

theorem validate_ok (holds : Holds files (directory host given) data m) :
    ((validate host given).run files).result = .ok successCode ↔
      (∀ value ∈ textsOf m, value.Whole) ∧ ∀ pool ∈ m.machines, Tellable pool := by
  rw [run_validate holds, ← summarize_ok m files]
  cases ((summarize m).run files).result <;> simp [Except.map]

theorem verbatim_iff (holds : Holds files (directory host given) data m) :
    Verbatim ((validate host given).run files) m ↔
      (∀ value ∈ textsOf m, Literal value) ∧ ∀ pool ∈ m.machines, LiteralPool pool := by
  have course := run_validate holds
  constructor
  · intro verbatim
    obtain ⟨whole, each⟩ := (validate_ok holds).mp verbatim.ended
    have lines := verbatim.shown
    rw [course, shows_summarize whole each files, List.map_append,
      List.append_cancel_left_eq] at lines
    obtain ⟨values, names⟩ := toldLines_eq.mp
      ((List.map_inj_right (fun _ _ same => Item.text.inj same)).mp lines)
    obtain ⟨visible, visibleNames⟩ := printed_summary.mp verbatim.printed
    exact ⟨fun value among => ⟨whole value among, values value among, visible value among⟩,
      fun pool among => ⟨each pool among, names pool among, visibleNames pool among⟩⟩
  · rintro ⟨values, pools⟩
    have whole := fun value among => (values value among).whole
    have each := fun pool among => (pools pool among).toTellable
    refine ⟨(validate_ok holds).mpr ⟨whole, each⟩, ⟨whole, fun pool among => (each pool among).whole⟩,
      ?_, printed_summary.mpr ⟨fun value among => (values value among).visible,
        fun pool among => (pools pool among).visible⟩⟩
    have lines := toldLines_eq.mpr ⟨fun value among => (values value among).told,
      fun pool among => (pools pool among).spoken⟩
    rw [course, shows_summarize whole each files, lines, List.map_append]

theorem literalPool_of_plain {pool : MachinePool} (plain : Plain pool.name)
    (unopened : '[' ∉ pool.name.spelling.toList) (counted : Countable pool.replicas) :
    LiteralPool pool where
  counted
  whole := plain.whole
  keyed := keyed_unopened (by simpa using unopened)
  spoken := by
    rw [spoken, spoken_unopened unopened, shown_ordinary plain.ordinary, String.ofList_toList]
  visible := plain.visible

/-- The summary of an acceptable manifest stands as it should, after a run that ends with success,
just when all texts in it show as they are, each pool has a name that leaves its style switched on,
and the counts can be written. The run ends with success just when no text in the summary holds a
lone surrogate and each pool can be told about. Texts without colons, backslashes, tabs and
characters that are not printed show as they are, and so do names of pools in which, besides, no
bracket opens. -/
theorem validate_verbatim {host : Host} {given : Option String} {files : FileTree}
    {data : Text.Bytes} {m : Manifest} (holds : Holds files (directory host given) data m) :
    (Verbatim ((Command.validate host given).run files) m ↔
      (∀ value ∈ textsOf m, Literal value) ∧ ∀ pool ∈ m.machines, LiteralPool pool) ∧
    (((Command.validate host given).run files).result = .ok successCode ↔
      (∀ value ∈ textsOf m, value.Whole) ∧ ∀ pool ∈ m.machines, Tellable pool) ∧
    ((∀ value ∈ textsOf m, Plain value) →
      (∀ pool ∈ m.machines,
        Plain pool.name ∧ '[' ∉ pool.name.spelling.toList ∧ Countable pool.replicas) →
        Verbatim ((Command.validate host given).run files) m) := by
  refine ⟨verbatim_iff holds, validate_ok holds, fun values pools => ?_⟩
  refine (verbatim_iff holds).mpr ⟨fun value among => literal_of_plain (values value among), ?_⟩
  intro pool among
  obtain ⟨plain, unopened, counted⟩ := pools pool among
  exact literalPool_of_plain plain unopened counted

end Summary

open Console.HandlerNames

/-- A manifest with one pool, of some name. -/
def pooledData (name : String) : Text.Bytes :=
  Text.Utf8.encode (
    "apiVersion: v1beta1\n" ++
    "metadata: \x7bname: demo\x7d\n" ++
    "baseDomain: example.com\n" ++
    "platform: \x7bnone: \x7b\x7d\x7d\n" ++
    "pullSecret: secret\n" ++
    "machines: [\x7bname: '" ++ name ++ "'\x7d]\n").toList

/-- A tree with a manifest at the top. -/
def topTree (data : Text.Bytes) : FileTree := ⟨[], [([Manifest.fileName], .file data)], []⟩

theorem readFile_topTree (data : Text.Bytes) :
    (topTree data).readFile (fileIn (directory bareHost (some "."))) = .ok data := by
  have place : fileIn (directory bareHost (some ".")) = ⟨.here, [Manifest.fileName]⟩ := by
    decide +kernel
  have text : Path.text ⟨.here, [Manifest.fileName]⟩ = Manifest.fileName := by decide +kernel
  have name : Manifest.fileName ≠ Path.above ∧ '\x00' ∉ Manifest.fileName.toList ∧
      Manifest.fileName.utf8ByteSize = 19 := by decide +kernel
  rw [place, FileTree.readFile_ok]
  refine ⟨[Manifest.fileName], ?_⟩
  simp [FileTree.find, FileTree.follow, FileTree.get?, topTree, text, name, FileTree.startOf,
    FileTree.pathLimit, FileTree.nameLimit, Except.mapError]

/-- A directory with a manifest that has these texts and these pools. -/
structure Pooled (name : String) (m : Manifest) : Prop extends
    Holds (topTree (pooledData name)) (directory bareHost (some ".")) (pooledData name) m where
  texts : textsOf m = [.text "demo", .text "example.com", .text "OpenshiftSDN"]
  machines : m.machines = [⟨.text name, none⟩]

theorem pooled_of_accept {name : String}
    (accepted : (Store.accept (pooledData name)).toOption.map (fun m => (textsOf m, m.machines)) =
      some ([.text "demo", .text "example.com", .text "OpenshiftSDN"], [⟨.text name, none⟩])) :
    ∃ m, Pooled name m := by
  obtain ⟨m, made, same⟩ := Option.map_eq_some_iff.mp accepted
  obtain ⟨texts, machines⟩ := Prod.mk.inj same
  exact ⟨m, ⟨readFile_topTree _, ok_of_toOption made⟩, texts, machines⟩

theorem countable_none : Countable none := fun _ => nofun

/-- A name that is a tag closes its style before the line does. -/
theorem slash_unshown :
    ∃ m, Pooled "[/]" m ∧
      ((Command.validate bareHost (some ".")).run (topTree (pooledData "[/]"))).result =
        .error (.console (.markup (.nothingOpen 22))) := by
  obtain ⟨m, pooled⟩ : ∃ m, Pooled "[/]" m := pooled_of_accept (by decide +kernel)
  have line : detail (Phrase.followedBy "[/]" " replicas") (countShown none) =
      .error (.markup (.nothingOpen 22)) := error_of_check (by decide +kernel)
  have stopped := @summarizePools_fails _ ⟨"[/]", none⟩ _ countable_none line []
    (topTree (pooledData "[/]"))
  have whole : ∀ value ∈ textsOf m, value.Whole := by
    rw [pooled.texts]
    simp
  refine ⟨m, pooled, ?_⟩
  rw [run_validate pooled.toHolds, run_summarize whole, pooled.machines, stopped]
  rfl

theorem worker_verbatim :
    ∃ m, Pooled "worker" m ∧
      ((Command.validate bareHost (some ".")).run (topTree (pooledData "worker"))).result =
        .ok successCode ∧
      Verbatim ((Command.validate bareHost (some ".")).run (topTree (pooledData "worker"))) m := by
  obtain ⟨m, pooled⟩ : ∃ m, Pooled "worker" m := pooled_of_accept (by decide +kernel)
  have verbatim := (validate_verbatim pooled.toHolds).2.2
  rw [pooled.texts, pooled.machines] at verbatim
  have values : ∀ value ∈ [.text "demo", .text "example.com", .text "OpenshiftSDN"],
      Plain value := by
    simp only [List.forall_mem_cons]
    exact ⟨plain_text (by decide +kernel) (by decide +kernel),
      plain_text (by decide +kernel) (by decide +kernel),
      plain_text (by decide +kernel) (by decide +kernel), List.forall_mem_nil _⟩
  have stands := verbatim values (List.forall_mem_singleton.mpr
    ⟨plain_text (by decide +kernel) (by decide +kernel), by decide, countable_none⟩)
  exact ⟨m, pooled, stands.ended, stands⟩

end ClusterManifest.Command
