import FailureReplay.Proofs.Command.Path
import FailureReplay.Proofs.Command.Report

/-!
# Generating on a directory

A run of `generate` reads everything before it writes anything. If an input is
missing or does not decode, the directory is left as it was. Otherwise the run
does what synthesis says: on success the harness is written, and on a malformed
signature the normalized source is saved beside it instead. What `generate`
reports is what synthesis found.
-/

namespace FailureReplay

def Directory.text? (d : Directory) (path : Text) : Option Text :=
  (d.read path).toOption.bind fun content => (String.fromUTF8? content).map String.toList

/-- A text that was written is read back. -/
theorem Directory.text?_of_place? {d : Directory} {path t : Text} {place : List Text}
    (h : d.place? path = some place) (hfile : d.entry? place = some (.ofText t)) :
    d.text? path = some t := by
  have hutf8 : String.fromUTF8? (String.ofList t).toUTF8 = some (String.ofList t) :=
    dif_pos (String.ofList t).isValidUTF8
  rw [Directory.text?, Directory.read_of_place? h hfile]
  simp only [Except.toOption, Option.bind_some, hutf8, Option.map_some, String.toList_ofList]

/-! ## Steps of a script -/

namespace Script

theorem run_logAll (events : List Log.Event) (next : Script) (d : Directory) :
    (logAll events next).run d =
      { next.run d with events := events ++ (next.run d).events } := by
  induction events with
  | nil => rfl
  | cons event events ih =>
    have hcons : logAll (event :: events) next = .log event (logAll events next) := rfl
    rw [hcons, run, ih]
    rfl

theorem run_readText_of_text? {d : Directory} {path t : Text} (h : d.text? path = some t)
    (onFault : FileFault → Failure) (next : Text → Script) :
    (readText path onFault next).run d = (next t).run d := by
  obtain ⟨content, hread, htext⟩ := Option.bind_eq_some_iff.mp h
  obtain ⟨s, hs, rfl⟩ := Option.map_eq_some_iff.mp htext
  simp only [readText, run, Directory.eq_ok_of_toOption hread, hs]

/-- A command that failed and left the directory as it was. -/
def Trace.FailedClean (t : Trace) (d : Directory) : Prop :=
  t.failure?.isSome = true ∧ t.directory = d

theorem failedClean_fail (failure : Failure) (d : Directory) :
    ((fail failure).run d).FailedClean d := ⟨rfl, rfl⟩

/-- A file that cannot be read, or that holds no text, ends the run before anything is written. -/
theorem failedClean_readText {d : Directory} {path : Text} (h : d.text? path = none)
    (onFault : FileFault → Failure) (next : Text → Script) :
    ((readText path onFault next).run d).FailedClean d := by
  rw [readText, run]
  cases hread : d.read path with
  | error fault => exact failedClean_fail _ d
  | ok content =>
    have hnone : String.fromUTF8? content = none := by
      simpa [Directory.text?, hread, Except.toOption] using h
    simp only [hnone]
    exact failedClean_fail _ d

theorem run_writeText {d : Directory} {path : Text} {place : List Text}
    (h : d.place? path = some place) (content : Text) (onFault : FileFault → Failure)
    (next : Script) :
    (writeText path content onFault next).run d = next.run (d.set place (.ofText content)) := by
  rw [writeText, run, Directory.write_of_place? h]
  rfl

end Script

namespace Command

/-! ## Inputs -/

/-- The configuration that a command line names. -/
def namedConfig? (d : Directory) : Option Text → Option Config
  | none => some {}
  | some path =>
    (d.read path).toOption.bind fun content => (ConfigFile.parse content).toOption

/-- What `generate` reads: a configuration that can be used, a source text and a report table. -/
structure Inputs (d : Directory) (config? : Option Text) (source report : Text)
    (config : Config) (text : Text) (table : Report.Table) : Prop where
  named : namedConfig? d config? = some config
  valid : config.Valid
  source_text : d.text? source = some text
  report_table : (d.text? report).bind Report.Table.read? = some table

theorem run_checked_of_valid {config : Config} (h : config.Valid) (next : Config → Script) :
    checked config next = next config := by
  have hcheck : config.check = .ok config := by
    rw [Config.Valid] at h
    rw [Config.check, h]
  rw [checked, hcheck]

/-- A configuration that cannot be used ends the run before anything is written. -/
theorem failedClean_checked {config : Config} (h : ¬ config.Valid) (next : Config → Script)
    (d : Directory) : ((checked config next).run d).FailedClean d := by
  cases hproblem : config.problem? with
  | none => exact absurd hproblem h
  | some cause =>
    have hcheck : config.check = .error (.invalidConfig cause) := by rw [Config.check, hproblem]
    rw [checked, hcheck]
    exact Script.failedClean_fail _ d

def configEvents (config? : Option Text) : List Log.Event := config?.toList.map .loadedConfig

theorem run_withConfig {d : Directory} {config? : Option Text} {config : Config}
    (hnamed : namedConfig? d config? = some config) (hvalid : config.Valid)
    (next : Config → Script) :
    (withConfig config? next).run d =
      { (next config).run d with
        events := configEvents config? ++ ((next config).run d).events } := by
  cases config? with
  | none =>
    obtain rfl : {} = config := Option.some.inj hnamed
    rw [withConfig, run_checked_of_valid hvalid]
    rfl
  | some path =>
    obtain ⟨content, hread, hparse⟩ := Option.bind_eq_some_iff.mp hnamed
    simp only [withConfig, Script.run, Directory.eq_ok_of_toOption hread,
      Directory.eq_ok_of_toOption hparse, run_checked_of_valid hvalid]
    rfl

theorem failedClean_withConfig {d : Directory} {config? : Option Text}
    (h : ∀ config, namedConfig? d config? = some config → ¬ config.Valid)
    (next : Config → Script) : ((withConfig config? next).run d).FailedClean d := by
  cases config? with
  | none => exact failedClean_checked (h {} rfl) next d
  | some path =>
    rw [withConfig, Script.run]
    cases hread : d.read path with
    | error fault => exact Script.failedClean_fail _ d
    | ok content =>
      cases hparse : ConfigFile.parse content with
      | error fault =>
        simp only [hparse]
        exact Script.failedClean_fail _ d
      | ok config =>
        have hnamed : namedConfig? d (some path) = some config := by
          simp [namedConfig?, hread, hparse, Except.toOption]
        simp only [hparse]
        exact failedClean_checked (h config hnamed) next d

/-! ## Targets -/

/-- The places that the paths of a run lead to: all can be written, and no two are the same. -/
structure Targets (d : Directory) (source output : Text) (normalizedOutput? : Option Text) where
  harness : List Text
  salvage : List Text
  normalized? : Option (List Text)
  harness_place : d.place? output = some harness
  salvage_place : d.place? (formattedPath source output) = some salvage
  normalized_place : normalizedOutput?.map d.place? = normalized?.map some
  distinct : (harness :: salvage :: normalized?.toList).Nodup

/-- `after` differs from `before` in the text at one place, and in the normalized text if it has a
place of its own. -/
structure Saved (before after : Directory) (place : List Text) (text : Text)
    (normalized? : Option (List Text)) (normalized : Text) : Prop where
  text_saved : after.entry? place = some (.ofText text)
  normalized_saved : ∀ q ∈ normalized?, after.entry? q = some (.ofText normalized)
  others_kept : ∀ q, q ≠ place → q ∉ normalized? → after.entry? q = before.entry? q

/-- The directory once the normalized text stands at its place, if it has one. -/
def withNormalized (d : Directory) (normalized? : Option (List Text)) (normalized : Text) :
    Directory :=
  normalized?.elim d fun place => d.set place (.ofText normalized)

variable {d : Directory} {source output : Text} {normalizedOutput? : Option Text}

theorem Targets.normalized_not_folder (targets : Targets d source output normalizedOutput?) :
    ∀ q ∈ targets.normalized?, d.entry? q ≠ some .folder := by
  intro q hq
  have hplace := targets.normalized_place
  rw [Option.mem_def.mp hq] at hplace
  obtain ⟨path, -, hpath⟩ := Option.map_eq_some_iff.mp hplace
  exact Directory.not_folder_of_place? hpath

theorem Targets.not_mem_normalized (targets : Targets d source output normalizedOutput?) :
    targets.harness ∉ targets.normalized? ∧ targets.salvage ∉ targets.normalized? := by
  have hdistinct := targets.distinct
  refine ⟨?_, ?_⟩ <;>
  · intro hmem
    simp [Option.mem_def.mp hmem] at hdistinct

/-- Writing the normalized text leaves the places of all paths. -/
theorem Targets.place?_withNormalized (targets : Targets d source output normalizedOutput?)
    (normalized : Text) {path : Text} {place : List Text} (h : d.place? path = some place) :
    (withNormalized d targets.normalized? normalized).place? path = some place := by
  have hfree := targets.normalized_not_folder
  cases hq : targets.normalized? with
  | none => exact h
  | some q => exact Directory.place?_set (hfree q hq) _ h

/-- The two texts that a run writes do not get in each other's way. -/
theorem Targets.saved (targets : Targets d source output normalizedOutput?) {place : List Text}
    (hplace : place ≠ []) (hdistinct : place ∉ targets.normalized?) (text normalized : Text) :
    Saved d ((withNormalized d targets.normalized? normalized).set place (.ofText text)) place text
      targets.normalized? normalized := by
  have hfree := targets.normalized_not_folder
  cases hq : targets.normalized? with
  | none =>
    refine ⟨?_, by simp, ?_⟩
    · rw [Directory.entry?_set hplace, if_pos rfl]
    · intro q hne _
      rw [Directory.entry?_set hplace, if_neg hne]
      rfl
  | some q =>
    have hne : q ≠ [] := Directory.ne_nil_of_entry?_ne (hfree q hq)
    have hother : q ≠ place := by
      rintro rfl
      exact hdistinct hq
    refine ⟨?_, ?_, ?_⟩
    · rw [Directory.entry?_set hplace, if_pos rfl]
    -- The normalized text was written first, and the second write went elsewhere.
    · intro r hr
      obtain rfl : q = r := Option.some.inj hr
      rw [Directory.entry?_set hplace, if_neg hother]
      exact (Directory.entry?_set hne _ q).trans (if_pos rfl)
    · intro r hr hkept
      have hrq : r ≠ q := by
        rintro rfl
        exact hkept rfl
      rw [Directory.entry?_set hplace, if_neg hr]
      exact (Directory.entry?_set hne _ r).trans (if_neg hrq)

theorem run_saveNormalized (targets : Targets d source output normalizedOutput?)
    (normalized : Text) (next : Script) :
    (saveNormalized normalized normalizedOutput? next).run d =
      let t := next.run (withNormalized d targets.normalized? normalized)
      { t with events := normalizedOutput?.toList.map .wroteNormalized ++ t.events } := by
  have hplace := targets.normalized_place
  cases normalizedOutput? with
  | none =>
    have hnone : targets.normalized? = none := by simpa using hplace.symm
    rw [hnone]
    rfl
  | some path =>
    obtain ⟨q, hq, hpath⟩ := Option.map_eq_some_iff.mp hplace.symm
    rw [saveNormalized, Script.run_writeText hpath.symm, hq]
    rfl

/-! ## The script of `generate` -/

def openingEvents (config : Config) (text : Text) (normalizedOutput? : Option Text) :
    List Log.Event :=
  Synthesis.normalizeEvents config text ++ (normalizedOutput?.toList.map .wroteNormalized ++
    Synthesis.extractEvents (Source.normalize config.indentUnit text))

section
variable {report text : Text} {table : Report.Table} {config : Config}

/-- Without a usable method, the normalized text is saved at its own places. -/
theorem run_generateScript_error (targets : Targets d source output normalizedOutput?)
    (htext : d.text? source = some text)
    (htable : (d.text? report).bind Report.Table.read? = some table) {cause : Malformed}
    (hextract : Signature.extract (Source.normalize config.indentUnit text) = .error cause)
    (json : Bool) :
    (generateScript config source report output normalizedOutput? json).run d =
      let normalized := Source.normalize config.indentUnit text
      let saved := formattedPath source output
      { failure? := some (.noMethodSaved source saved cause)
        events := openingEvents config text normalizedOutput? ++ [.savedNormalized saved]
        output := []
        directory := (withNormalized d targets.normalized? normalized).set targets.salvage
          (.ofText normalized) } := by
  obtain ⟨reportText, hreport, hread⟩ := Option.bind_eq_some_iff.mp htable
  have hplace := targets.place?_withNormalized (Source.normalize config.indentUnit text)
    targets.salvage_place
  simp only [generateScript, Script.run_readText_of_text? htext,
    Script.run_readText_of_text? hreport, hread, Script.run_logAll, run_saveNormalized targets,
    hextract, salvageScript, Script.run_writeText hplace, Script.run, openingEvents,
    List.append_assoc]

/-- With a usable method, the harness is written and reported on. -/
theorem run_generateScript_ok (targets : Targets d source output normalizedOutput?)
    (htext : d.text? source = some text)
    (htable : (d.text? report).bind Report.Table.read? = some table) {signature : Signature}
    (hextract : Signature.extract (Source.normalize config.indentUnit text) = .ok signature)
    (json : Bool) :
    (generateScript config source report output normalizedOutput? json).run d =
      let normalized := Source.normalize config.indentUnit text
      let g := Synthesis.generate config signature table
      { failure? := none
        events := openingEvents config text normalizedOutput? ++ .methodUnderTest signature ::
          (g.events ++ [.wroteCases g.artifact.caseCount output])
        output :=
          (if json then (jsonSummary output g.cases.length g.warnings).pretty
            else summary signature output g.cases.length g.warnings) ++ ['\n']
        directory := (withNormalized d targets.normalized? normalized).set targets.harness
          (.ofText g.artifact.text) } := by
  obtain ⟨reportText, hreport, hread⟩ := Option.bind_eq_some_iff.mp htable
  have hplace := targets.place?_withNormalized (Source.normalize config.indentUnit text)
    targets.harness_place
  simp only [generateScript, Script.run_readText_of_text? htext,
    Script.run_readText_of_text? hreport, hread, Script.run_logAll, run_saveNormalized targets,
    hextract, harnessScript, Script.run_writeText hplace, Script.run, openingEvents,
    List.append_assoc]

end

/-- A run without its inputs fails and leaves the directory as it was. -/
theorem failedClean_script {config? : Option Text} {report : Text}
    (h : ¬ ∃ config text table, Inputs d config? source report config text table) (json : Bool) :
    ((withConfig config? fun config =>
      generateScript config source report output normalizedOutput? json).run d).FailedClean d := by
  -- Inputs are read in this order, and the first one missing ends the run before any write.
  by_cases hconfig : ∃ config, namedConfig? d config? = some config ∧ config.Valid
  · obtain ⟨config, hnamed, hvalid⟩ := hconfig
    suffices hclean : ((generateScript config source report output normalizedOutput? json).run
        d).FailedClean d by
      rw [run_withConfig hnamed hvalid]
      exact hclean
    cases htext : d.text? source with
    | none => exact Script.failedClean_readText htext _ _
    | some text =>
      rw [generateScript, Script.run_readText_of_text? htext]
      cases hreport : d.text? report with
      | none => exact Script.failedClean_readText hreport _ _
      | some reportText =>
        rw [Script.run_readText_of_text? hreport]
        cases htable : Report.Table.read? reportText with
        | none => exact Script.failedClean_fail _ d
        | some table =>
          refine absurd ⟨config, text, table, hnamed, hvalid, htext, ?_⟩ h
          rw [hreport]
          exact htable
  · apply failedClean_withConfig
    intro config hnamed hvalid
    exact hconfig ⟨config, hnamed, hvalid⟩

/-- The name of the file that keeps the normalized text of a source. -/
def formattedName (source : Text) : Text :=
  ((Path.fileName? source).map Path.stem).getD "source".toList ++ "_formatted.java".toList

theorem slash_not_mem_formattedName (source : Text) : '/' ∉ formattedName source := by
  have hstem : '/' ∉ ((Path.fileName? source).map Path.stem).getD "source".toList := by
    cases hname : Path.fileName? source with
    | none => decide
    | some name => exact Path.slash_not_mem_stem hname
  have hending : '/' ∉ "_formatted.java".toList := by decide
  rw [formattedName, List.mem_append]
  rintro (h | h)
  · exact hstem h
  · exact hending h

/-- The normalized text is salvaged in the folder of the harness. -/
theorem Targets.salvage_eq (targets : Targets d source output normalizedOutput?) :
    targets.salvage = targets.harness.dropLast ++ [formattedName source] :=
  Directory.place?_beside (slash_not_mem_formattedName source) targets.harness_place
    targets.salvage_place

/-! ## Reports -/

theorem warning?_normalizeEvents (config : Config) (text : Text) :
    ∀ e ∈ Synthesis.normalizeEvents config text, e.warning? = none := by
  intro e he
  obtain ⟨piece, -, hpiece⟩ := List.mem_filterMap.mp he
  cases piece with
  | source line => cases hpiece
  | defaultReturn returnType line =>
    obtain ⟨statement, -, rfl⟩ := Option.map_eq_some_iff.mp hpiece
    rfl

theorem warning?_extractEvents (source : Text) :
    ∀ e ∈ Synthesis.extractEvents source, e.warning? = none := by
  intro e he
  rw [Synthesis.extractEvents] at he
  split at he
  · cases he
  · rcases List.mem_cons.mp he with rfl | he
    · rfl
    · split at he
      · obtain rfl := List.mem_singleton.mp he
        rfl
      · cases he

/-- Nothing before the harness is generated raises a warning. -/
theorem warning?_of_mem_opening {config? : Option Text} {config : Config} {text : Text}
    {e : Log.Event}
    (h : e ∈ configEvents config? ++ openingEvents config text normalizedOutput?) :
    e.warning? = none := by
  simp only [configEvents, openingEvents, List.mem_append, List.mem_map] at h
  rcases h with ⟨path, -, rfl⟩ | h | ⟨path, -, rfl⟩ | h
  · rfl
  · exact warning?_normalizeEvents config text e h
  · rfl
  · exact warning?_extractEvents _ e h

/-! ## Agreement with synthesis -/

section
variable {arguments : List Text} {invocation : Invocation} {report text : Text}
  {table : Report.Table} {config : Config} {json : Bool}

/-- A `generate` command line comes down to its script under the configuration that it names. -/
theorem run_eq (hparse : Arguments.parse arguments = .ok invocation)
    (haction : invocation.action = .generate source report output normalizedOutput? json) :
    run arguments d =
      let t := (withConfig invocation.config? fun config =>
        generateScript config source report output normalizedOutput? json).run d
      { code := if t.failure?.isSome then 1 else 0
        output := t.output
        log := Log.entries (threshold invocation) t.events
        failure? := t.failure?
        directory := t.directory } := by
  have hscript : script invocation = withConfig invocation.config? fun config =>
      generateScript config source report output normalizedOutput? json := by
    rw [script, haction]
    rfl
  rw [run, hparse, ← hscript]

/-- With usable inputs the run succeeds if synthesis does, and writes the harness. -/
theorem run_of_ok (hparse : Arguments.parse arguments = .ok invocation)
    (haction : invocation.action = .generate source report output normalizedOutput? json)
    (targets : Targets d source output normalizedOutput?)
    (inputs : Inputs d invocation.config? source report config text table) {s : Synthesis}
    (h : Synthesis.run config text table = .ok s) :
    (run arguments d).code = 0 ∧
      Saved d (run arguments d).directory targets.harness s.generation.artifact.text
        targets.normalized? s.normalized ∧
      Reported (run arguments d) (threshold invocation) output json s := by
  rw [Synthesis.run] at h
  cases hextract : Signature.extract (Source.normalize config.indentUnit text) with
  | error cause => rw [hextract] at h; cases h
  | ok signature =>
    rw [hextract] at h
    obtain rfl := Except.ok.inj h
    rw [run_eq hparse haction, run_withConfig inputs.named inputs.valid,
      run_generateScript_ok targets inputs.source_text inputs.report_table hextract json]
    have hopening : ∀ e ∈ configEvents invocation.config? ++
        openingEvents config text normalizedOutput? ++ [.methodUnderTest signature],
        e.warning? = none := by
      intro e he
      rcases List.mem_append.mp he with he | he
      · exact warning?_of_mem_opening he
      · rw [List.mem_singleton.mp he]
        rfl
    refine ⟨rfl, targets.saved (Directory.ne_nil_of_place? targets.harness_place)
      targets.not_mem_normalized.1 _ _,
      reported_generate (rank_threshold_le invocation) hopening rfl ?_⟩
    simp only [List.append_assoc, List.cons_append, List.nil_append]

/-- With usable inputs and no usable method the run fails, and keeps the normalized text. -/
theorem run_of_error (hparse : Arguments.parse arguments = .ok invocation)
    (haction : invocation.action = .generate source report output normalizedOutput? json)
    (targets : Targets d source output normalizedOutput?)
    (inputs : Inputs d invocation.config? source report config text table) {cause : Malformed}
    (h : Synthesis.run config text table = .error cause) :
    (run arguments d).code = 1 ∧
      (run arguments d).failure? =
        some (.noMethodSaved source (formattedPath source output) cause) ∧
      Saved d (run arguments d).directory targets.salvage
        (Source.normalize config.indentUnit text) targets.normalized?
        (Source.normalize config.indentUnit text) := by
  rw [Synthesis.run] at h
  cases hextract : Signature.extract (Source.normalize config.indentUnit text) with
  | ok signature => rw [hextract] at h; cases h
  | error cause' =>
    rw [hextract] at h
    obtain rfl : cause' = cause := Except.error.inj h
    rw [run_eq hparse haction, run_withConfig inputs.named inputs.valid,
      run_generateScript_error targets inputs.source_text inputs.report_table hextract json]
    exact ⟨rfl, rfl, targets.saved (Directory.ne_nil_of_place? targets.salvage_place)
      targets.not_mem_normalized.2 _ _⟩

end

/-- A run of `generate` agrees with synthesis and fails cleanly, whatever the options. -/
theorem run_generate (d : Directory) {arguments : List Text} {invocation : Invocation}
    {source report output : Text} {normalizedOutput? : Option Text} {json : Bool}
    (hparse : Arguments.parse arguments = .ok invocation)
    (haction : invocation.action = .generate source report output normalizedOutput? json)
    (targets : Targets d source output normalizedOutput?) :
    ((¬ ∃ config text table, Inputs d invocation.config? source report config text table) →
      (run arguments d).code = 1 ∧ (run arguments d).failure?.isSome = true ∧
        (run arguments d).directory = d) ∧
    ∀ config text table, Inputs d invocation.config? source report config text table →
      ((run arguments d).code = 0 ↔ ∃ s, Synthesis.run config text table = .ok s) ∧
      (∀ s, Synthesis.run config text table = .ok s →
        Saved d (run arguments d).directory targets.harness s.generation.artifact.text
          targets.normalized? s.normalized ∧
        Reported (run arguments d) (threshold invocation) output json s) ∧
      ∀ cause, Synthesis.run config text table = .error cause →
        (run arguments d).code = 1 ∧
        (run arguments d).failure? =
          some (.noMethodSaved source (formattedPath source output) cause) ∧
        targets.salvage = targets.harness.dropLast ++ [formattedName source] ∧
        Saved d (run arguments d).directory targets.salvage
          (Source.normalize config.indentUnit text) targets.normalized?
          (Source.normalize config.indentUnit text) := by
  refine ⟨?_, ?_⟩
  · intro hmissing
    obtain ⟨hfailed, hdirectory⟩ : Script.Trace.FailedClean _ d := failedClean_script hmissing json
    rw [run_eq hparse haction]
    exact ⟨if_pos hfailed, hfailed, hdirectory⟩
  · intro config text table inputs
    refine ⟨⟨?_, ?_⟩, ?_, ?_⟩
    · intro hcode
      cases hrun : Synthesis.run config text table with
      | ok s => exact ⟨s, rfl⟩
      | error cause =>
        rw [(run_of_error hparse haction targets inputs hrun).1] at hcode
        cases hcode
    · rintro ⟨s, hs⟩
      exact (run_of_ok hparse haction targets inputs hs).1
    · intro s hs
      exact (run_of_ok hparse haction targets inputs hs).2
    · intro cause hcause
      obtain ⟨hcode, hfailure, hsaved⟩ := run_of_error hparse haction targets inputs hcause
      exact ⟨hcode, hfailure, targets.salvage_eq, hsaved⟩

def sampleSource : Text := "public int f(int a) \x7b\x7d".toList

/-- Two failing rows, the second of them without an actual value. -/
def sampleTable : Report.Table :=
  { rows := [{ cells := [{}, { text := "fail".toList }, { preBlocks := [['1'], ['2']] }] },
    { cells := [{}, { text := "fail".toList }, {}] }] }

def sample : Directory where
  entries := [(["A.java".toList], .ofText sampleSource),
    (["r.json".toList],
      .ofText "[[[[[],[\"fail\"],[\"\",[\"1\",\"2\"]]]],[[[],[\"fail\"],[]]]]]".toList)]

/-- A command line that leaves the harness at its default path. -/
def sampleArguments : List Text :=
  ["generate".toList, "--source".toList, "A.java".toList, "--report=r.json".toList,
    "--normalized-output".toList, "N.java".toList]

def sampleTargets :
    Targets sample "A.java".toList Arguments.defaultOutput (some "N.java".toList) where
  harness := [Arguments.defaultOutput]
  salvage := ["A_formatted.java".toList]
  normalized? := some ["N.java".toList]
  harness_place := by decide +kernel
  salvage_place := by decide +kernel
  normalized_place := by decide +kernel
  distinct := by decide +kernel

theorem inputs_sample :
    Inputs sample none "A.java".toList "r.json".toList {} sampleSource sampleTable := by
  have hsource : sample.place? "A.java".toList = some ["A.java".toList] := by decide +kernel
  have hreport : sample.place? "r.json".toList = some ["r.json".toList] := by decide +kernel
  have hvalid : ({} : Config).Valid := by
    rw [Config.Valid]
    decide +kernel
  refine ⟨rfl, hvalid, Directory.text?_of_place? hsource rfl, ?_⟩
  rw [Directory.text?_of_place? hreport rfl]
  decide +kernel

def sampleSynthesis : Synthesis :=
  let signature : Signature := ⟨"f".toList, .primitive .int, [.primitive .int]⟩
  { normalized := Source.normalize ({} : Config).indentUnit sampleSource
    signature
    generation := Synthesis.generate {} signature sampleTable }

theorem run_sampleSource : Synthesis.run {} sampleSource sampleTable = .ok sampleSynthesis := by
  have hextract : Signature.extract
      (Source.normalize ({} : Config).indentUnit sampleSource) =
      .ok ⟨"f".toList, .primitive .int, [.primitive .int]⟩ := by
    decide +kernel
  rw [Synthesis.run, hextract]
  rfl

/-- The harness of the sample is written, and its normalized source beside it. The one case and the
one warning are reported, in lines or in JSON. -/
theorem run_generate_sample :
    (∃ invocation, Arguments.parse sampleArguments = .ok invocation ∧
      invocation.action = .generate "A.java".toList "r.json".toList Arguments.defaultOutput
        (some "N.java".toList) false) ∧
      Inputs sample none "A.java".toList "r.json".toList {} sampleSource sampleTable ∧
      Synthesis.run {} sampleSource sampleTable = .ok sampleSynthesis ∧
      (run sampleArguments sample).code = 0 ∧
      Saved sample (run sampleArguments sample).directory [Arguments.defaultOutput]
        sampleSynthesis.generation.artifact.text (some ["N.java".toList])
        sampleSynthesis.normalized ∧
      (run sampleArguments sample).output =
        ("Method: int f(int)\nGenerated 1 test case(s) -> GeneratedTest.java\n".toList ++
          "1 warning(s):\n  - row 1: actual value not found, row skipped\n".toList) ∧
      Log.entriesAt .warn (run sampleArguments sample).log =
        ["WARN row 1: actual value not found, row skipped".toList] ∧
      readSummary? (run (sampleArguments ++ ["--json".toList]) sample).output =
        some ("GeneratedTest.java".toList, 1, [.missingActualValue 1]) := by
  have hparse : Arguments.parse sampleArguments =
      .ok { verbose := false, quiet := false, config? := none,
            action := .generate "A.java".toList "r.json".toList Arguments.defaultOutput
              (some "N.java".toList) false } := by
    decide +kernel
  have hparse' : Arguments.parse (sampleArguments ++ ["--json".toList]) =
      .ok { verbose := false, quiet := false, config? := none,
            action := .generate "A.java".toList "r.json".toList Arguments.defaultOutput
              (some "N.java".toList) true } := by
    decide +kernel
  have hcases : sampleSynthesis.generation.cases.length = 1 := by decide +kernel
  have hwarnings : sampleSynthesis.generation.warnings = [.missingActualValue 1] := by
    decide +kernel
  obtain ⟨hcode, hok, -⟩ :=
    (run_generate sample hparse rfl sampleTargets).2 {} _ _ inputs_sample
  obtain ⟨hsaved, hreported⟩ := hok _ run_sampleSource
  obtain ⟨-, hok', -⟩ := (run_generate sample hparse' rfl sampleTargets).2 {} _ _ inputs_sample
  refine ⟨⟨_, hparse, rfl⟩, inputs_sample, run_sampleSource, hcode.mpr ⟨_, run_sampleSource⟩,
    hsaved, ?_, ?_, ?_⟩
  · rw [hreported.printed, hcases, hwarnings]
    decide +kernel
  · rw [hreported.logged_warnings, hwarnings]
    decide +kernel
  · rw [(hok' _ run_sampleSource).2.in_json rfl, hcases, hwarnings]
    rfl

end Command
end FailureReplay
