import FailureReplay.Proofs.Report.Findings
import FailureReplay.Proofs.Text.Trim
import FailureReplay.Session
import Mathlib.Data.List.Forall2
import Mathlib.Data.List.Sort

/-!
# Failing rows and missing values

Which rows of a table fail can be told from their cells alone. Each failing row
leaves either a row with its payloads or a warning that names it, never both, and
every other row leaves nothing. Reading a table puts the warnings behind those
recorded before and changes nothing else, so neither the rows nor the warnings depend
on what was recorded.
-/

namespace FailureReplay.Report

/-! ## The fail status -/

/-- Equal but for the case of an ASCII letter. -/
def SameLetter (c d : Char) : Prop :=
  c = d ∨ (c.isUpper ∧ d.toNat = c.toNat + 32) ∨ (d.isUpper ∧ c.toNat = d.toNat + 32)

instance (c d : Char) : Decidable (SameLetter c d) :=
  inferInstanceAs (Decidable
    (c = d ∨ (c.isUpper ∧ d.toNat = c.toNat + 32) ∨ (d.isUpper ∧ c.toNat = d.toNat + 32)))

theorem isUpper_iff (c : Char) : c.isUpper = true ↔ 65 ≤ c.toNat ∧ c.toNat ≤ 90 := by
  show decide (65 ≤ c.val ∧ c.val ≤ 90) = true ↔ _
  rw [decide_eq_true_eq, UInt32.le_iff_toNat_le, UInt32.le_iff_toNat_le]
  rfl

theorem toNat_toLower (c : Char) :
    c.toLower.toNat = if c.isUpper then c.toNat + 32 else c.toNat := by
  unfold Char.toLower
  split
  · next h =>
    have hupper : c.isUpper = true := decide_eq_true h
    have hbound := ((isUpper_iff c).mp hupper).2
    rw [if_pos hupper]
    show (c.val.toNat + 32) % 2 ^ 32 = c.toNat + 32
    rw [Char.toNat_val]
    omega
  · next h => rw [if_neg fun hupper : c.isUpper = true => h (of_decide_eq_true hupper)]

theorem toLower_eq_iff (c d : Char) : c.toLower = d.toLower ↔ SameLetter c d := by
  have hc := isUpper_iff c
  have hd := isUpper_iff d
  rw [SameLetter, ← Char.toNat_inj, ← Char.toNat_inj, toNat_toLower, toNat_toLower]
  split <;> split <;> simp_all <;> omega

theorem sameIgnoringCase_iff (s t : Text) :
    sameIgnoringCase s t = true ↔ List.Forall₂ SameLetter s t := by
  rw [sameIgnoringCase, beq_iff_eq, ← List.forall₂_eq_eq_eq, List.forall₂_map_left_iff,
    List.forall₂_map_right_iff]
  simp only [toLower_eq_iff]

/-- The row has three cells or more, and the second holds the fail status. -/
def Row.Fails (failStatus : Text) (row : Row) : Prop :=
  3 ≤ row.cells.length ∧ ∃ status ∈ row.cells[1]?,
    List.Forall₂ SameLetter (Text.trim status.text) (Text.trim failStatus)

instance (failStatus : Text) (row : Row) : Decidable (row.Fails failStatus) :=
  inferInstanceAs (Decidable (3 ≤ row.cells.length ∧ ∃ status ∈ row.cells[1]?,
    List.Forall₂ SameLetter (Text.trim status.text) (Text.trim failStatus)))

/-- The status counts only in a row that has a third cell. -/
theorem Row.fails_iff {failStatus : Text} {row : Row} :
    row.Fails failStatus ↔ ∃ payload, row.FailsWith failStatus payload := by
  simp only [Row.Fails, ← sameIgnoringCase_iff]
  constructor
  · rintro ⟨hlength, status, hstatus, hsame⟩
    exact ⟨_, ⟨status, hstatus, hsame⟩, List.getElem?_eq_getElem hlength⟩
  · rintro ⟨payload, ⟨status, hstatus, hsame⟩, hpayload⟩
    exact ⟨(List.getElem?_eq_some_iff.mp hpayload).1, status, hstatus, hsame⟩

/-! ## Positions -/

/-- A failing row stands at this position. -/
def Table.FailsAt (failStatus : Text) (table : Table) (index : Nat) : Prop :=
  ∃ row ∈ table.rows[index]?, row.Fails failStatus

instance (failStatus : Text) (table : Table) (index : Nat) :
    Decidable (table.FailsAt failStatus index) :=
  inferInstanceAs (Decidable (∃ row ∈ table.rows[index]?, row.Fails failStatus))

/-- The actual payload in the third cell of the row at this position. -/
def Table.actualAt (table : Table) (index : Nat) : Text :=
  ((table.rows[index]?.bind fun row => row.cells[2]?).map Cell.actual).getD []

def Table.failing (failStatus : Text) (table : Table) : List Nat :=
  (List.range table.rows.length).filter fun index => table.FailsAt failStatus index

theorem Table.mem_failing {failStatus : Text} {table : Table} {index : Nat} :
    index ∈ table.failing failStatus ↔
      ∃ row payload, table.rows[index]? = some row ∧ row.FailsWith failStatus payload := by
  rw [Table.failing, List.mem_filter, List.mem_range, decide_eq_true_eq]
  constructor
  · rintro ⟨-, row, hrow, hfails⟩
    obtain ⟨payload, hfails⟩ := Row.fails_iff.mp hfails
    exact ⟨row, payload, hrow, hfails⟩
  · rintro ⟨row, payload, hrow, hfails⟩
    exact ⟨(List.getElem?_eq_some_iff.mp hrow).1, row, hrow, Row.fails_iff.mpr ⟨payload, hfails⟩⟩

theorem Table.actualAt_eq {failStatus : Text} {table : Table} {index : Nat} {row : Row}
    {payload : Cell} (hrow : table.rows[index]? = some row)
    (hfails : row.FailsWith failStatus payload) : table.actualAt index = payload.actual := by
  rw [Table.actualAt, hrow, Option.bind_some, hfails.payload]
  rfl

theorem Table.pairwise_failing (failStatus : Text) (table : Table) :
    (table.failing failStatus).Pairwise (· < ·) := List.pairwise_lt_range.filter _

/-! ## Payloads without quotes -/

theorem quote_not_mem_dropQuotes (t : Text) : '"' ∉ dropQuotes t := by
  simp [dropQuotes]

theorem Cell.quote_not_mem (cell : Cell) : '"' ∉ cell.expected ∧ '"' ∉ cell.actual := by
  constructor
  · unfold Cell.expected
    split
    · exact quote_not_mem_dropQuotes _
    · decide
  · unfold Cell.actual
    split
    · exact List.not_mem_nil
    · split
      · intro h
        exact quote_not_mem_dropQuotes _ ((Text.trim_isInfix _).subset h)
      · exact quote_not_mem_dropQuotes _

/-! ## The partition -/

/-- Rows and warnings that share the failing rows of a table between them: a row for each that has
an actual payload, a warning for each that has none, both in table order. -/
structure Partition (failStatus : Text) (table : Table) (rows : List FailingRow)
    (ws : List Warning) : Prop where
  indices : rows.map FailingRow.index =
    (table.failing failStatus).filter fun index => table.actualAt index ≠ []
  missing : ws = ((table.failing failStatus).filter fun index => table.actualAt index = []).map
    .missingActualValue
  actual : ∀ r ∈ rows, r.actual = table.actualAt r.index
  increasing : rows.Pairwise fun r s => r.index < s.index
  unquoted : ∀ r ∈ rows, '"' ∉ r.expected ∧ '"' ∉ r.actual
  count : rows.length + ws.length = (table.failing failStatus).length

theorem map_index_failingRows (failStatus : Text) (table : Table) :
    (failingRows (table.findings failStatus)).map FailingRow.index =
      (table.failing failStatus).filter fun index => table.actualAt index ≠ [] := by
  apply List.Pairwise.eq_of_mem_iff
    (List.pairwise_map.mpr (pairwise_failingRows failStatus table))
    ((table.pairwise_failing failStatus).filter _)
  intro index
  rw [List.mem_map, List.mem_filter, Table.mem_failing, decide_eq_true_eq]
  constructor
  · rintro ⟨r, hr, rfl⟩
    obtain ⟨row, payload, hrow, hfails, hne, -, -⟩ := mem_failingRows hr
    exact ⟨⟨row, payload, hrow, hfails⟩, by rwa [Table.actualAt_eq hrow hfails]⟩
  · rintro ⟨⟨row, payload, hrow, hfails⟩, hne⟩
    rw [Table.actualAt_eq hrow hfails] at hne
    exact exists_mem_failingRows hrow hfails hne

theorem missingRows_eq (failStatus : Text) (table : Table) :
    missingRows (table.findings failStatus) =
      (table.failing failStatus).filter fun index => table.actualAt index = [] := by
  apply List.Pairwise.eq_of_mem_iff (pairwise_missingRows failStatus table)
    ((table.pairwise_failing failStatus).filter _)
  intro index
  rw [mem_missingRows, List.mem_filter, Table.mem_failing, decide_eq_true_eq]
  constructor
  · rintro ⟨row, payload, hrow, hfails, hnil⟩
    exact ⟨⟨row, payload, hrow, hfails⟩, by rwa [Table.actualAt_eq hrow hfails]⟩
  · rintro ⟨⟨row, payload, hrow, hfails⟩, hnil⟩
    rw [Table.actualAt_eq hrow hfails] at hnil
    exact ⟨row, payload, hrow, hfails, hnil⟩

theorem partition_findings (failStatus : Text) (table : Table) :
    Partition failStatus table (failingRows (table.findings failStatus))
      (warnings (table.findings failStatus)) where
  indices := map_index_failingRows failStatus table
  missing := by rw [warnings_eq_missingRows, missingRows_eq]
  actual := by
    intro r hr
    obtain ⟨row, payload, hrow, hfails, -, -, hactual⟩ := mem_failingRows hr
    rw [hactual, Table.actualAt_eq hrow hfails]
  increasing := pairwise_failingRows failStatus table
  unquoted := by
    intro r hr
    obtain ⟨row, payload, -, -, -, hexpected, hactual⟩ := mem_failingRows hr
    rw [hexpected, hactual]
    exact payload.quote_not_mem
  count := by
    have hrows := congrArg List.length (map_index_failingRows failStatus table)
    have hsplit := List.length_eq_length_filter_add (l := table.failing failStatus)
      fun index => table.actualAt index = []
    rw [List.length_map] at hrows
    rw [warnings_eq_missingRows, List.length_map, missingRows_eq, hrows, hsplit, Nat.add_comm]
    simp only [ne_eq, decide_not]

/-- The failing rows of a table are shared out between rows and warnings. Reading the table yields
these rows and adds these warnings to the ones recorded before, each mirrored to the log in its
place, and a session that is given the table answers with these rows and holds these warnings
behind the ones it held. -/
theorem parseTable_partition (failStatus : Text) (table : Table) :
    Partition failStatus table (failingRows (table.findings failStatus))
        (warnings (table.findings failStatus)) ∧
      (∀ d : Diagnostics, ∃ events,
        table.parse failStatus d =
          (failingRows (table.findings failStatus),
            ⟨d.warnings ++ warnings (table.findings failStatus), d.events ++ events⟩) ∧
          events.filterMap Log.Event.warning? = warnings (table.findings failStatus)) ∧
      ∀ (s : Session) (text : Text), s.config.failStatus = failStatus →
        Table.read? text = some table →
        s.step (.parseTable text) =
          ({ s with warnings := s.warnings ++ warnings (table.findings failStatus) },
            .rows (failingRows (table.findings failStatus))) := by
  refine ⟨partition_findings failStatus table, ?_, ?_⟩
  · intro d
    exact ⟨_, table.parse_eq failStatus d, warnings_events _⟩
  · intro s text hstatus hread
    rw [← hstatus, Session.step, Session.withTable, hread]
    simp only [table.parse_eq]
    rfl

/-- A failing row with an actual payload, one without, a passing row and a row of two cells. -/
def fourRows : Table :=
  { rows := [{ cells := [{}, { text := " FAIL ".toList },
      { preBlocks := ["\"1\"".toList], trailingText := some ": 2".toList }] },
    { cells := [{}, { text := "fail".toList }, {}] },
    { cells := [{}, { text := "ok".toList }, {}] },
    { cells := [{}, { text := "fail".toList }] }] }

/-- The warning that was there stays in front of the one for the second row. -/
theorem parseTable_partition_four_rows :
    Session.step { config := { failStatus := "Fail ".toList },
                   warnings := [.unsupportedReturn "Node".toList] }
        (.parseTable ("[[[[[],[\" FAIL \"],[\"\",[\"\\\"1\\\"\"],\": 2\"]]],".toList ++
          "[[[],[\"fail\"],[]]],[[[],[\"ok\"],[]]],[[[],[\"fail\"]]]]]".toList)) =
      ({ config := { failStatus := "Fail ".toList },
         warnings := [.unsupportedReturn "Node".toList, .missingActualValue 1] },
        .rows [⟨0, "FAIL".toList, ['1'], ['2']⟩]) := by
  have hread : Table.read? ("[[[[[],[\" FAIL \"],[\"\",[\"\\\"1\\\"\"],\": 2\"]]],".toList ++
      "[[[],[\"fail\"],[]]],[[[],[\"ok\"],[]]],[[[],[\"fail\"]]]]]".toList) = some fourRows := by
    decide +kernel
  have hwarnings : warnings (fourRows.findings "Fail ".toList) = [.missingActualValue 1] := by
    decide +kernel
  have hrows : failingRows (fourRows.findings "Fail ".toList) =
      [⟨0, "FAIL".toList, ['1'], ['2']⟩] := by
    decide +kernel
  rw [(parseTable_partition "Fail ".toList fourRows).2.2 _ _ rfl hread, hwarnings, hrows]
  rfl

end FailureReplay.Report
