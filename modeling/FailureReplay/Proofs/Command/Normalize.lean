import FailureReplay.Proofs.Command.Generate
import FailureReplay.Proofs.Source.Shape

/-!
# Normalizing on a directory

A run of `normalize` with an output path writes the normalized text there as it
is. Without one it prints the text without the line feeds at its end, and one
line feed behind it. Since a normalized text is empty or ends in exactly one line
feed, both say the same, unless the text is empty.
-/

namespace FailureReplay.Command

variable {d : Directory} {arguments : List Text} {source text : Text} {config : Config}

/-- A command line that normalizes a source: what it names can be read and used. -/
structure Normalizes (d : Directory) (arguments : List Text) (source : Text)
    (output? : Option Text) (config : Config) (text : Text) : Prop where
  command : ∃ invocation, Arguments.parse arguments = .ok invocation ∧
    invocation.action = .normalize source output? ∧
    namedConfig? d invocation.config? = some config
  valid : config.Valid
  source_text : d.text? source = some text

/-- A run that put a text at a path, or failed where the path cannot be written to. -/
structure Wrote (d : Directory) (path content : Text) (outcome : Outcome) : Prop where
  done : ∀ after, d.write path (String.ofList content).toUTF8 = .ok after →
    outcome.code = 0 ∧ outcome.output = [] ∧ outcome.directory = after
  failed : ∀ fault, d.write path (String.ofList content).toUTF8 = .error fault →
    outcome.code = 1 ∧ outcome.failure? = some (.write path fault) ∧ outcome.directory = d
  read_back : ∀ place, d.place? path = some place →
    outcome.directory.read path = .ok (String.ofList content).toUTF8 ∧
      ∀ q, q ≠ place → outcome.directory.entry? q = d.entry? q

/-! ## The script of `normalize` -/

/-- On the output, line feeds at the end are dropped before the printer adds one. -/
theorem run_normalizeScript_print (htext : d.text? source = some text) :
    (normalizeScript config source none).run d =
      let normalized := Source.normalize config.indentUnit text
      { failure? := none
        events := Synthesis.normalizeEvents config text
        output := (normalized.reverse.dropWhile (· = '\n')).reverse ++ ['\n']
        directory := d } := by
  simp only [normalizeScript, Script.run_readText_of_text? htext, Script.run_logAll, Script.run,
    List.append_nil]

theorem run_normalizeScript_write (htext : d.text? source = some text) (path : Text) :
    (normalizeScript config source (some path)).run d =
      match d.write path (String.ofList (Source.normalize config.indentUnit text)).toUTF8 with
      | .ok after =>
        { failure? := none
          events := Synthesis.normalizeEvents config text ++ [.wroteNormalized path]
          output := []
          directory := after }
      | .error fault =>
        { failure? := some (.write path fault)
          events := Synthesis.normalizeEvents config text
          output := []
          directory := d } := by
  simp only [normalizeScript, Script.run_readText_of_text? htext, Script.run_logAll,
    Script.writeText, Script.run]
  cases d.write path (String.ofList (Source.normalize config.indentUnit text)).toUTF8 with
  | ok after => rfl
  | error fault => simp only [List.append_nil]

/-! ## Whole runs -/

/-- A `normalize` command line comes down to its script, apart from the log of loading. -/
theorem Normalizes.run_eq {output? : Option Text}
    (h : Normalizes d arguments source output? config text) :
    ∃ log, run arguments d =
      let t := (normalizeScript config source output?).run d
      { code := if t.failure?.isSome then 1 else 0
        output := t.output
        log
        failure? := t.failure?
        directory := t.directory } := by
  obtain ⟨invocation, hparse, haction, hnamed⟩ := h.command
  have hscript : script invocation = withConfig invocation.config? fun config =>
      normalizeScript config source output? := by
    rw [script, haction]
    rfl
  rw [run, hparse]
  simp only [hscript, run_withConfig hnamed h.valid]
  exact ⟨_, rfl⟩

theorem Normalizes.wrote {path : Text}
    (h : Normalizes d arguments source (some path) config text) :
    Wrote d path (Source.normalize config.indentUnit text) (run arguments d) := by
  obtain ⟨log, hrun⟩ := h.run_eq
  rw [run_normalizeScript_write h.source_text] at hrun
  refine ⟨?_, ?_, ?_⟩
  · intro after hwrite
    rw [hrun, hwrite]
    exact ⟨rfl, rfl, rfl⟩
  · intro fault hwrite
    rw [hrun, hwrite]
    exact ⟨rfl, rfl, rfl⟩
  · intro place hplace
    have hne : place ≠ [] := Directory.ne_nil_of_place? hplace
    have hset := Directory.place?_set (Directory.not_folder_of_place? hplace)
      (String.ofList (Source.normalize config.indentUnit text)).toUTF8 hplace
    rw [hrun, Directory.write_of_place? hplace]
    refine ⟨Directory.read_of_place? hset ?_, ?_⟩
    · rw [Directory.entry?_set hne, if_pos rfl]
    · intro q hq
      exact (Directory.entry?_set hne _ q).trans (if_neg hq)

theorem Normalizes.printed (h : Normalizes d arguments source none config text) :
    (run arguments d).code = 0 ∧ (run arguments d).directory = d ∧
      (run arguments d).output =
        if Source.normalize config.indentUnit text = [] then ['\n']
        else Source.normalize config.indentUnit text := by
  obtain ⟨log, hrun⟩ := h.run_eq
  rw [run_normalizeScript_print h.source_text] at hrun
  rw [hrun]
  refine ⟨rfl, rfl, ?_⟩
  have htidy := Source.tidy_normalize h.valid.isIndent_indentUnit text
  split
  · next hnil => simp [hnil]
  · next hne => exact htidy.cut_feeds hne

/-- A normalized source is tidy, and so the text that `normalize` prints is the text that it writes
to a file, but for the line feed that it prints for an empty one. -/
theorem normalize_tidy_and_printed_as_written :
    (∀ indentUnit, Source.IsIndent indentUnit → ∀ source,
      Source.Tidy (Source.normalize indentUnit source)) ∧
    ∀ (d : Directory) (printing writing : List Text) (source path : Text) (config : Config)
      (text : Text), Normalizes d printing source none config text →
      Normalizes d writing source (some path) config text →
      (run printing d).code = 0 ∧ (run printing d).directory = d ∧
      (Source.normalize config.indentUnit text ≠ [] →
        (run printing d).output = Source.normalize config.indentUnit text ∧
        Wrote d path (run printing d).output (run writing d)) ∧
      (Source.normalize config.indentUnit text = [] →
        (run printing d).output = ['\n'] ∧ Wrote d path [] (run writing d)) := by
  refine ⟨fun indentUnit hu source => Source.tidy_normalize hu source, ?_⟩
  intro d printing writing source path config text hprinting hwriting
  obtain ⟨hcode, hdirectory, houtput⟩ := hprinting.printed
  have hwrote := hwriting.wrote
  refine ⟨hcode, hdirectory, ?_, ?_⟩
  · intro hne
    rw [if_neg hne] at houtput
    rw [houtput]
    exact ⟨rfl, hwrote⟩
  · intro hnil
    rw [if_pos hnil] at houtput
    rw [hnil] at hwrote
    exact ⟨houtput, hwrote⟩

/-- A source whose method lacks its return, printed and written to a new file. -/
theorem normalize_tidy_and_printed_as_written_sample :
    Source.Tidy (Source.normalize "\t ".toList "\x7b\x7b\n\n".toList) ∧
    Normalizes sample ["normalize".toList, "A.java".toList] "A.java".toList none {}
      "public int f(int a) \x7b\x7d".toList ∧
    Normalizes sample ["normalize".toList, "A.java".toList, "-o".toList, "N.java".toList]
      "A.java".toList (some "N.java".toList) {} "public int f(int a) \x7b\x7d".toList ∧
    (run ["normalize".toList, "A.java".toList] sample).output =
      "public int f(int a) \x7b\n    return 0;\n\x7d\n".toList ∧
    (run ["normalize".toList, "A.java".toList, "-o".toList, "N.java".toList]
        sample).directory.read "N.java".toList =
      .ok (String.ofList (run ["normalize".toList, "A.java".toList] sample).output).toUTF8 := by
  have hsource : sample.place? "A.java".toList = some ["A.java".toList] := by decide +kernel
  have htext : sample.text? "A.java".toList = some "public int f(int a) \x7b\x7d".toList :=
    Directory.text?_of_place? hsource rfl
  have hvalid : ({} : Config).Valid := by
    rw [Config.Valid]
    decide +kernel
  have hprinting : Normalizes sample ["normalize".toList, "A.java".toList] "A.java".toList none {}
      "public int f(int a) \x7b\x7d".toList :=
    ⟨⟨⟨false, false, none, .normalize "A.java".toList none⟩, by decide +kernel, rfl, rfl⟩,
      hvalid, htext⟩
  have hwriting : Normalizes sample
      ["normalize".toList, "A.java".toList, "-o".toList, "N.java".toList] "A.java".toList
      (some "N.java".toList) {} "public int f(int a) \x7b\x7d".toList :=
    ⟨⟨⟨false, false, none, .normalize "A.java".toList (some "N.java".toList)⟩,
      by decide +kernel, rfl, rfl⟩, hvalid, htext⟩
  have hnormalized : Source.normalize ({} : Config).indentUnit
      "public int f(int a) \x7b\x7d".toList =
      "public int f(int a) \x7b\n    return 0;\n\x7d\n".toList := by
    decide +kernel
  obtain ⟨htidy, hagree⟩ := normalize_tidy_and_printed_as_written
  obtain ⟨-, -, hsame, -⟩ := hagree _ _ _ _ _ _ _ hprinting hwriting
  obtain ⟨houtput, hwrote⟩ := hsame (by rw [hnormalized]; decide)
  have hplace : sample.place? "N.java".toList = some ["N.java".toList] := by decide +kernel
  exact ⟨htidy _ (by decide) _, hprinting, hwriting, houtput.trans hnormalized,
    (hwrote.read_back _ hplace).1⟩

end FailureReplay.Command
