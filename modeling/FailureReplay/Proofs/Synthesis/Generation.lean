import FailureReplay.Proofs.Argument
import FailureReplay.Proofs.Report.Findings
import FailureReplay.Synthesis

/-!
# Generation row by row

A generated case depends on its own row alone. `Replays` states what the cases,
the harness and the warnings of a generation are, position by position and without
the findings they are computed from; `generate_replays` shows it of every
generation, together with two consequences: a row asks for the same case in every
table that holds it, and joining tables joins their cases.
-/

namespace FailureReplay

/-! ## The harness text -/

def TestCase.block (method : Text) (case : TestCase) : Text :=
  "        // report row ".toList ++ Text.decimal case.sourceRow ++ '\n' ::
    "        pass = ".toList ++ case.expression method ++ ';' :: '\n' ::
    "        System.out.println(\"Pass: \" + pass);".toList ++ ['\n', '\n']

theorem TestCase.unlines_lines (method : Text) (case : TestCase) :
    Text.unlines (case.lines method) = case.block method := by
  unfold TestCase.lines TestCase.block
  generalize "        // report row ".toList = note
  generalize "        pass = ".toList = assignment
  generalize "        System.out.println(\"Pass: \" + pass);".toList = report
  simp [Text.unlines]

namespace Harness

def front (config : Config) : Text := Text.unlines (openingLines config)

def back : Text := "    \x7d\n\n\x7d\n".toList

theorem emit_text (config : Config) (method : Text) (cases : List TestCase) :
    (emit config method cases).text =
      front config ++ cases.flatMap (TestCase.block method) ++ back := by
  have hblocks : Text.unlines (cases.flatMap (TestCase.lines method)) =
      cases.flatMap (TestCase.block method) := by
    rw [Text.unlines, List.flatMap_assoc]
    exact List.flatMap_congr fun case _ => TestCase.unlines_lines method case
  have hback : Text.unlines closingLines = back := rfl
  rw [emit, ← hback, ← hblocks]
  simp only [front, Text.unlines, List.flatMap_append]

end Harness

namespace Synthesis

/-! ## The stages of a generation -/

def arguments (config : Config) (signature : Signature) (row : Report.FailingRow) :
    List Argument.Encoded :=
  Argument.encode config.treePlaceholder signature.paramTypes row.actual

def caseOf (config : Config) (signature : Signature) (row : Report.FailingRow) : TestCase where
  sourceRow := row.index
  arguments := Argument.literals (arguments config signature row)
  expected := Expectation.encode signature.returnType row.expected
  comparison := Comparison.ofType signature.returnType

def caseEvents (config : Config) (signature : Signature) (row : Report.FailingRow) :
    List Log.Event :=
  let encoded := arguments config signature row
  (Argument.warnings encoded).map .warned ++
    if encoded.length = signature.arity then []
    else [.recoveredArguments row.index encoded.length signature.arity]

/-- Building a case depends on its row alone, and puts its own events behind the diagnostics. -/
theorem buildCase_eq (config : Config) (signature : Signature) (row : Report.FailingRow)
    (d : Diagnostics) :
    buildCase config signature row d =
      (caseOf config signature row, d.append (caseEvents config signature row)) := by
  have hwrite : Argument.write config.treePlaceholder signature.paramTypes row.actual d =
      (Argument.literals (arguments config signature row),
        d.append ((Argument.warnings (arguments config signature row)).map .warned)) :=
    Argument.writeFrom_eq config.treePlaceholder 0 signature.paramTypes _ d
  have hlength : (Argument.literals (arguments config signature row)).length =
      (arguments config signature row).length := List.length_map ..
  rw [buildCase, hwrite]
  simp only [hlength, caseEvents]
  split
  · rw [List.append_nil]
    rfl
  · rw [Diagnostics.log_eq_append rfl, Diagnostics.append_append]
    rfl

theorem buildCases_eq (config : Config) (signature : Signature) (rows : List Report.FailingRow)
    (d : Diagnostics) :
    buildCases config signature rows d =
      (rows.map (caseOf config signature),
        d.append (rows.flatMap (caseEvents config signature))) := by
  induction rows generalizing d with
  | nil => simp [buildCases]
  | cons row rows ih =>
    simp only [buildCases, buildCase_eq, ih, Diagnostics.append_append, List.map_cons,
      List.flatMap_cons]

/-- The failing rows that become cases. -/
def replayed (config : Config) (table : Report.Table) : List Report.FailingRow :=
  Report.failingRows (table.findings config.failStatus)

/-- The events of a generation, stage by stage. -/
def generationEvents (config : Config) (signature : Signature) (table : Report.Table) :
    List Log.Event :=
  (Expectation.warning? signature.returnType).toList.map .warned ++
    ((table.findings config.failStatus).map Report.Finding.event ++
      ([.selectedRows (replayed config table).length table.rows.length] ++
        (replayed config table).flatMap (caseEvents config signature)))

/-- A generation is settled by the failing rows with an actual value, each on its own. -/
theorem generate_eq (config : Config) (signature : Signature) (table : Report.Table) :
    generate config signature table =
      let cases := (replayed config table).map (caseOf config signature)
      let events := generationEvents config signature table
      { cases
        artifact := Harness.emit config signature.name cases
        warnings := events.filterMap Log.Event.warning?
        events } := by
  have hparse := Report.parseFrom_eq config.failStatus 0 table.rows
  simp only [generate, Report.Table.parse, hparse, Diagnostics.recordAny_eq_append,
    Diagnostics.log_eq_append (show Log.Event.warning? (.selectedRows _ _) = none from rfl),
    buildCases_eq, Diagnostics.append_append]
  simp only [Diagnostics.append, List.nil_append, List.append_assoc]
  rfl

/-- The warnings that a generation returns are those that it logged. -/
theorem warnings_generate (config : Config) (signature : Signature) (table : Report.Table) :
    (generate config signature table).warnings =
      (generate config signature table).events.filterMap Log.Event.warning? := by
  rw [generate_eq]

/-! ## What a generation is -/

/-- A failing row with a recoverable actual value stands at a position. -/
def Recovers (config : Config) (table : Report.Table) (index : Nat) (payload : Report.Cell) :
    Prop :=
  ∃ row, table.rows[index]? = some row ∧ row.FailsWith config.failStatus payload ∧
    payload.actual ≠ []

/-- A failing row without one stands at a position. -/
def Misses (config : Config) (table : Report.Table) (index : Nat) : Prop :=
  ∃ row payload, table.rows[index]? = some row ∧ row.FailsWith config.failStatus payload ∧
    payload.actual = []

/-- The arguments that a payload cell holds for a signature. -/
def cellArguments (config : Config) (signature : Signature) (payload : Report.Cell) :
    List Argument.Encoded :=
  Argument.encode config.treePlaceholder signature.paramTypes payload.actual

/-- The argument warnings of the row at a position. -/
def rowWarnings (config : Config) (signature : Signature) (table : Report.Table) (index : Nat) :
    List Warning :=
  match table.rows[index]?.bind fun row => row.cells[2]? with
  | some payload => Argument.warnings (cellArguments config signature payload)
  | none => []

/-- What the cases, the harness and the warnings of a generation are. -/
structure Replays (config : Config) (signature : Signature) (table : Report.Table)
    (g : Generation) : Prop where
  increasing : g.cases.Pairwise fun c d => c.sourceRow < d.sourceRow
  rows : ∀ index, (∃ case ∈ g.cases, case.sourceRow = index) ↔
    ∃ payload, Recovers config table index payload
  cases : ∀ case ∈ g.cases, ∃ payload, Recovers config table case.sourceRow payload ∧
    case.arguments = Argument.literals (cellArguments config signature payload) ∧
    case.arguments.length ≤ signature.arity ∧
    case.expected = Expectation.encode signature.returnType payload.expected ∧
    case.comparison = Comparison.ofType signature.returnType
  caseCount : g.artifact.caseCount = g.cases.length
  text : g.artifact.text =
    Harness.front config ++ g.cases.flatMap (TestCase.block signature.name) ++ Harness.back
  warnings : ∃ missing : List Nat, missing.Pairwise (· < ·) ∧
    (∀ index, index ∈ missing ↔ Misses config table index) ∧
    g.warnings = (Expectation.warning? signature.returnType).toList ++
      missing.map .missingActualValue ++
      g.cases.flatMap fun case => rowWarnings config signature table case.sourceRow
  positions : ∀ index, ∃ positions : List Nat,
    (rowWarnings config signature table index).map Warning.position? = positions.map some ∧
    positions.Pairwise (· < ·) ∧ ∀ i ∈ positions, i < signature.arity

theorem Recovers.unique {config : Config} {table : Report.Table} {index : Nat}
    {p q : Report.Cell} (hp : Recovers config table index p) (hq : Recovers config table index q) :
    p = q := by
  obtain ⟨row, hrow, hfails, -⟩ := hp
  obtain ⟨row', hrow', hfails', -⟩ := hq
  obtain rfl := Option.some.inj (hrow.symm.trans hrow')
  exact hfails.unique hfails'

theorem Recovers.rowWarnings_eq {config : Config} {table : Report.Table} {index : Nat}
    {payload : Report.Cell} (h : Recovers config table index payload) (signature : Signature) :
    rowWarnings config signature table index =
      Argument.warnings (cellArguments config signature payload) := by
  obtain ⟨row, hrow, hfails, -⟩ := h
  rw [rowWarnings, hrow, Option.bind_some, hfails.payload]

/-! ## Cases -/

theorem generate_cases (config : Config) (signature : Signature) (table : Report.Table) :
    (generate config signature table).cases =
      (replayed config table).map (caseOf config signature) := by
  rw [generate_eq]

theorem generate_artifact (config : Config) (signature : Signature) (table : Report.Table) :
    (generate config signature table).artifact =
      Harness.emit config signature.name (generate config signature table).cases := by
  rw [generate_eq]

theorem recovers_of_mem_replayed {config : Config} {table : Report.Table}
    {r : Report.FailingRow} (h : r ∈ replayed config table) :
    ∃ payload, Recovers config table r.index payload ∧ r.expected = payload.expected ∧
      r.actual = payload.actual := by
  obtain ⟨row, payload, hget, hfails, hne, hexpected, hactual⟩ := Report.mem_failingRows h
  exact ⟨payload, ⟨row, hget, hfails, hne⟩, hexpected, hactual⟩

theorem arguments_of_actual_eq {r : Report.FailingRow} {payload : Report.Cell}
    (h : r.actual = payload.actual) (config : Config) (signature : Signature) :
    arguments config signature r = cellArguments config signature payload := by
  rw [arguments, cellArguments, h]

theorem length_cellArguments_le (config : Config) (signature : Signature)
    (payload : Report.Cell) : (cellArguments config signature payload).length ≤ signature.arity := by
  rw [cellArguments, Argument.encode, Argument.length_encodeFrom]
  exact Nat.min_le_left _ _

/-! ## Warnings -/

theorem warnings_caseEvents (config : Config) (signature : Signature) (r : Report.FailingRow) :
    (caseEvents config signature r).filterMap Log.Event.warning? =
      Argument.warnings (arguments config signature r) := by
  rw [caseEvents, List.filterMap_append, Log.filterMap_warned]
  split
  · simp
  · simp [Log.Event.warning?]

/-- The three stages leave their warnings one after the other. -/
theorem generate_warnings (config : Config) (signature : Signature) (table : Report.Table) :
    (generate config signature table).warnings =
      (Expectation.warning? signature.returnType).toList ++
        (Report.missingRows (table.findings config.failStatus)).map .missingActualValue ++
        (replayed config table).flatMap fun r =>
          Argument.warnings (arguments config signature r) := by
  have hcases : ((replayed config table).flatMap (caseEvents config signature)).filterMap
      Log.Event.warning? =
        (replayed config table).flatMap fun r =>
          Argument.warnings (arguments config signature r) := by
    rw [List.filterMap_flatMap]
    simp only [warnings_caseEvents]
  have hselected : Log.Event.warning?
      (.selectedRows (replayed config table).length table.rows.length) = none := rfl
  rw [generate_eq]
  simp only [generationEvents, List.filterMap_append, Log.filterMap_warned, Report.warnings_events,
    Report.warnings_eq_missingRows, hcases, List.append_assoc]
  rw [List.filterMap_cons_none hselected]
  rfl

/-! ## Every generation -/

theorem replays_generate (config : Config) (signature : Signature) (table : Report.Table) :
    Replays config signature table (generate config signature table) where
  increasing := by
    rw [generate_cases, List.pairwise_map]
    exact Report.pairwise_failingRows config.failStatus table
  rows := by
    intro index
    rw [generate_cases]
    constructor
    · rintro ⟨case, hcase, rfl⟩
      obtain ⟨r, hr, rfl⟩ := List.mem_map.mp hcase
      obtain ⟨payload, hrecovers, -⟩ := recovers_of_mem_replayed hr
      exact ⟨payload, hrecovers⟩
    · rintro ⟨payload, row, hget, hfails, hne⟩
      obtain ⟨r, hr, rfl⟩ := Report.exists_mem_failingRows hget hfails hne
      exact ⟨caseOf config signature r, List.mem_map_of_mem hr, rfl⟩
  cases := by
    intro case hcase
    rw [generate_cases] at hcase
    obtain ⟨r, hr, rfl⟩ := List.mem_map.mp hcase
    obtain ⟨payload, hrecovers, hexpected, hactual⟩ := recovers_of_mem_replayed hr
    have harguments := arguments_of_actual_eq hactual config signature
    refine ⟨payload, hrecovers, ?_, ?_, ?_, rfl⟩
    · rw [caseOf, harguments]
    · rw [caseOf, harguments, Argument.literals, List.length_map]
      exact length_cellArguments_le config signature payload
    · rw [caseOf, hexpected]
  caseCount := by
    rw [generate_artifact]
    rfl
  text := by
    rw [generate_artifact]
    exact Harness.emit_text config signature.name _
  warnings := by
    refine ⟨_, Report.pairwise_missingRows config.failStatus table,
      fun index => Report.mem_missingRows, ?_⟩
    rw [generate_warnings, generate_cases, List.flatMap_map]
    congr 1
    apply List.flatMap_congr
    intro r hr
    obtain ⟨payload, hrecovers, -, hactual⟩ := recovers_of_mem_replayed hr
    change _ = rowWarnings config signature table r.index
    rw [hrecovers.rowWarnings_eq, arguments_of_actual_eq hactual]
  positions := by
    intro index
    unfold rowWarnings
    split
    · next payload _ =>
      obtain ⟨positions, hmap, hsorted, hrange⟩ := Argument.positions_encodeFrom
        config.treePlaceholder 0 signature.paramTypes (Payload.tokens payload.actual)
      refine ⟨positions, hmap, hsorted, ?_⟩
      intro i hi
      have hbounds := hrange i hi
      have harity : min signature.paramTypes.length (Payload.tokens payload.actual).length ≤
        signature.arity := Nat.min_le_left _ _
      omega
    · exact ⟨[], rfl, .nil, by simp⟩

/-- The case of a row in a table with `by_` more rows before it. -/
def shiftCase (by_ : Nat) (case : TestCase) : TestCase :=
  { case with sourceRow := case.sourceRow + by_ }

/-- Cases of rows further down are the same as on their own, at moved positions. -/
theorem generate_cases_append (config : Config) (signature : Signature)
    (rows others : List Report.Row) :
    (generate config signature ⟨rows ++ others⟩).cases =
      (generate config signature ⟨rows⟩).cases ++
        (generate config signature ⟨others⟩).cases.map (shiftCase rows.length) := by
  simp only [generate_cases, replayed, Report.Table.findings_append, Report.failingRows,
    List.filterMap_append]
  rw [← Report.failingRows, ← Report.failingRows, ← Report.failingRows, Report.failingRows_shift,
    List.map_append, List.map_map, List.map_map]
  rfl

/-- A generation has one case for each failing row with an actual value, in row order, and one
block of the harness for each case; the return type's warning comes first, then those for missing
actual values, then those of the arguments, each in row order. A row asks for the same case in
every table that holds it, and joining two tables joins their cases, the later ones counted on. -/
theorem generate_replays (config : Config) (signature : Signature) (table : Report.Table) :
    Replays config signature table (generate config signature table) ∧
      (∀ other, ∀ case ∈ (generate config signature table).cases,
        ∀ case' ∈ (generate config signature other).cases,
          table.rows[case.sourceRow]? = other.rows[case'.sourceRow]? →
            { case' with sourceRow := case.sourceRow } = case) ∧
      ∀ other : Report.Table, (generate config signature ⟨table.rows ++ other.rows⟩).cases =
        (generate config signature table).cases ++
          (generate config signature other).cases.map (shiftCase table.rows.length) := by
  refine ⟨replays_generate config signature table, ?_, ?_⟩
  · intro other case hcase case' hcase' hrow
    obtain ⟨payload, ⟨row, hget, hfails, -⟩, harguments, -, hexpected, hcomparison⟩ :=
      (replays_generate config signature table).cases case hcase
    obtain ⟨payload', ⟨row', hget', hfails', -⟩, harguments', -, hexpected', hcomparison'⟩ :=
      (replays_generate config signature other).cases case' hcase'
    rw [hget, hget'] at hrow
    obtain rfl := Option.some.inj hrow
    obtain rfl := hfails.unique hfails'
    rw [← harguments] at harguments'
    rw [← hexpected] at hexpected'
    rw [← hcomparison] at hcomparison'
    rw [harguments', hexpected', hcomparison']
  · intro other
    exact generate_cases_append config signature table.rows other.rows

end Synthesis
end FailureReplay
