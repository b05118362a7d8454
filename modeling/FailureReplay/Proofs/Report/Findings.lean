import FailureReplay.Report.FailingRow
import Mathlib.Data.List.Basic

/-!
# Findings by position

What a table row contributes depends on that row and its position alone: nothing
unless it fails, and then either the failing row or the mark of a missing actual
value. The findings of a table are those of its rows in order, so joining two
tables joins their findings, the later ones counted on. Reading a table is reading its
findings: the rows come out, and the events are put behind the diagnostics.
-/

namespace FailureReplay.Report

/-! ## One row -/

/-- The row fails: its second cell holds the fail status, and `payload` is its third. -/
structure Row.FailsWith (failStatus : Text) (row : Row) (payload : Cell) : Prop where
  status : ∃ status, row.cells[1]? = some status ∧
    sameIgnoringCase (Text.trim status.text) (Text.trim failStatus) = true
  payload : row.cells[2]? = some payload

def Finding.index : Finding → Nat
  | .failing row => row.index
  | .missing index => index

theorem Row.FailsWith.unique {failStatus : Text} {row : Row} {p q : Cell}
    (hp : row.FailsWith failStatus p) (hq : row.FailsWith failStatus q) : p = q :=
  Option.some.inj (hp.payload.symm.trans hq.payload)

theorem Row.FailsWith.finding?_missing {failStatus : Text} {row : Row} {payload : Cell}
    (h : row.FailsWith failStatus payload) (hactual : payload.actual = []) (index : Nat) :
    row.finding? failStatus index = some (.missing index) := by
  obtain ⟨⟨status, hget, hsame⟩, hpayload⟩ := h
  match hcells : row.cells with
  | [] | [_] | [_, _] => simp [hcells] at hpayload
  | first :: second :: third :: rest =>
    obtain rfl : second = status := by simpa [hcells] using hget
    obtain rfl : third = payload := by simpa [hcells] using hpayload
    simp [Row.finding?, hcells, hsame, hactual]

theorem Row.FailsWith.finding?_failing {failStatus : Text} {row : Row} {payload : Cell}
    (h : row.FailsWith failStatus payload) (hactual : payload.actual ≠ []) (index : Nat) :
    ∃ status, row.finding? failStatus index =
      some (.failing ⟨index, status, payload.expected, payload.actual⟩) := by
  obtain ⟨⟨status, hget, hsame⟩, hpayload⟩ := h
  match hcells : row.cells with
  | [] | [_] | [_, _] => simp [hcells] at hpayload
  | first :: second :: third :: rest =>
    obtain rfl : second = status := by simpa [hcells] using hget
    obtain rfl : third = payload := by simpa [hcells] using hpayload
    exact ⟨Text.trim second.text, by simp [Row.finding?, hcells, hsame, hactual]⟩

theorem Row.failsWith_of_finding? {failStatus : Text} {row : Row} {index : Nat} {f : Finding}
    (h : row.finding? failStatus index = some f) : ∃ payload, row.FailsWith failStatus payload := by
  unfold Row.finding? at h
  split at h
  · next first status payload rest hcells =>
    split at h
    · next hsame => exact ⟨payload, ⟨status, by simp [hcells], hsame⟩, by simp [hcells]⟩
    · cases h
  · cases h

/-- A row without a recoverable actual value is reported as missing, any other failing row with
its own payloads. -/
theorem Row.finding?_cases {failStatus : Text} {row : Row} {index : Nat} {f : Finding}
    (h : row.finding? failStatus index = some f) :
    ∃ payload, row.FailsWith failStatus payload ∧
      (payload.actual = [] ∧ f = .missing index ∨
        payload.actual ≠ [] ∧
          ∃ status, f = .failing ⟨index, status, payload.expected, payload.actual⟩) := by
  obtain ⟨payload, hfails⟩ := Row.failsWith_of_finding? h
  refine ⟨payload, hfails, ?_⟩
  by_cases hactual : payload.actual = []
  · rw [hfails.finding?_missing hactual] at h
    exact .inl ⟨hactual, (Option.some.inj h).symm⟩
  · obtain ⟨status, hfinding⟩ := hfails.finding?_failing hactual index
    rw [hfinding] at h
    exact .inr ⟨hactual, status, (Option.some.inj h).symm⟩

theorem Row.index_of_finding? {failStatus : Text} {row : Row} {index : Nat} {f : Finding}
    (h : row.finding? failStatus index = some f) : f.index = index := by
  obtain ⟨payload, -, ⟨-, rfl⟩ | ⟨-, status, rfl⟩⟩ := Row.finding?_cases h
  · rfl
  · rfl

/-! ## All rows -/

theorem warnings_events (fs : List Finding) :
    (fs.map Finding.event).filterMap Log.Event.warning? = warnings fs := by
  rw [List.filterMap_map, warnings]
  congr 1
  funext f
  cases f <;> rfl

/-- Reading a row yields the failing row of its finding and puts the event of the finding behind
the diagnostics. -/
theorem Row.parse_eq (failStatus : Text) (index : Nat) (row : Row) (d : Diagnostics) :
    row.parse failStatus index d =
      ((row.finding? failStatus index).bind Finding.row?,
        d.append ((row.finding? failStatus index).toList.map Finding.event)) := by
  rw [Row.parse]
  cases row.finding? failStatus index with
  | none => simp
  | some f =>
    cases f with
    | missing i => rfl
    | failing found => exact congrArg (some found, ·) (Diagnostics.log_eq_append rfl d)

/-- Reading rows leaves in the diagnostics the events of all their findings, in order. -/
theorem parseFrom_eq (failStatus : Text) (index : Nat) (rows : List Row) (d : Diagnostics) :
    parseFrom failStatus index rows d =
      (failingRows (findingsFrom failStatus index rows),
        d.append ((findingsFrom failStatus index rows).map Finding.event)) := by
  induction rows generalizing index d with
  | nil => simp [parseFrom, findingsFrom, failingRows]
  | cons row rows ih =>
    rw [parseFrom, Row.parse_eq]
    simp only [ih, findingsFrom, failingRows, List.filterMap_append, List.map_append,
      Diagnostics.append_append]
    cases row.finding? failStatus index with
    | none => rfl
    | some f => cases f <;> rfl

/-- Reading a table yields its failing rows, and adds its warnings to those recorded before. -/
theorem Table.parse_eq (failStatus : Text) (table : Table) (d : Diagnostics) :
    table.parse failStatus d =
      (failingRows (table.findings failStatus),
        ⟨d.warnings ++ warnings (table.findings failStatus),
          d.events ++ (table.findings failStatus).map Finding.event⟩) := by
  rw [Table.parse, parseFrom_eq, Diagnostics.append, warnings_events]
  rfl

/-- What a run over the rows finds is what each row contributes at its own position. -/
theorem mem_findingsFrom {failStatus : Text} {index : Nat} {rows : List Row} {f : Finding} :
    f ∈ findingsFrom failStatus index rows ↔
      ∃ (k : Nat) (row : Row), rows[k]? = some row ∧
        row.finding? failStatus (index + k) = some f := by
  induction rows generalizing index with
  | nil => simp [findingsFrom]
  | cons first rows ih =>
    rw [findingsFrom, List.mem_append, Option.mem_toList, ih]
    constructor
    · rintro (hf | ⟨k, row, hget, hf⟩)
      · exact ⟨0, first, rfl, hf⟩
      · exact ⟨k + 1, row, hget, by rwa [Nat.add_assoc, Nat.add_comm 1] at hf⟩
    · rintro ⟨k, row, hget, hf⟩
      cases k with
      | zero =>
        obtain rfl : first = row := Option.some.inj hget
        exact .inl hf
      | succ k => exact .inr ⟨k, row, hget, by rwa [Nat.add_assoc, Nat.add_comm 1]⟩

theorem Table.mem_findings {failStatus : Text} {table : Table} {f : Finding} :
    f ∈ table.findings failStatus ↔ ∃ (index : Nat) (row : Row),
      table.rows[index]? = some row ∧ row.finding? failStatus index = some f := by
  rw [Table.findings, mem_findingsFrom]
  simp only [Nat.zero_add]

theorem pairwise_findingsFrom (failStatus : Text) (index : Nat) (rows : List Row) :
    (findingsFrom failStatus index rows).Pairwise fun f g => f.index < g.index := by
  induction rows generalizing index with
  | nil => exact .nil
  | cons first rows ih =>
    rw [findingsFrom, List.pairwise_append]
    refine ⟨?_, ih (index + 1), ?_⟩
    · cases first.finding? failStatus index <;> simp
    · intro f hf g hg
      obtain ⟨k, row, -, hfinding⟩ := mem_findingsFrom.mp hg
      rw [Row.index_of_finding? (Option.mem_toList.mp hf), Row.index_of_finding? hfinding]
      omega

/-- A finding about the row `by_` positions further down. -/
def Finding.shift (by_ : Nat) : Finding → Finding
  | .failing row => .failing { row with index := row.index + by_ }
  | .missing index => .missing (index + by_)

theorem Row.finding?_shift (failStatus : Text) (index by_ : Nat) (row : Row) :
    row.finding? failStatus (index + by_) =
      (row.finding? failStatus index).map (Finding.shift by_) := by
  unfold Row.finding?
  split
  · split
    · split
      · rfl
      · rfl
    · rfl
  · rfl

theorem findingsFrom_shift (failStatus : Text) (index by_ : Nat) (rows : List Row) :
    findingsFrom failStatus (index + by_) rows =
      (findingsFrom failStatus index rows).map (Finding.shift by_) := by
  induction rows generalizing index with
  | nil => rfl
  | cons first rows ih =>
    rw [findingsFrom, findingsFrom, Row.finding?_shift, Nat.add_right_comm, ih, List.map_append]
    cases first.finding? failStatus index <;> rfl

theorem findingsFrom_append (failStatus : Text) (index : Nat) (rows others : List Row) :
    findingsFrom failStatus index (rows ++ others) =
      findingsFrom failStatus index rows ++
        findingsFrom failStatus (index + rows.length) others := by
  induction rows generalizing index with
  | nil => rfl
  | cons first rows ih =>
    rw [List.cons_append, findingsFrom, ih, findingsFrom, List.append_assoc, List.length_cons,
      Nat.add_assoc index, Nat.add_comm 1]

/-- Rows further down contribute the same, at positions moved by the rows before them. -/
theorem Table.findings_append (failStatus : Text) (rows others : List Row) :
    Table.findings failStatus ⟨rows ++ others⟩ =
      Table.findings failStatus ⟨rows⟩ ++
        (Table.findings failStatus ⟨others⟩).map (Finding.shift rows.length) := by
  simp only [Table.findings, findingsFrom_append, findingsFrom_shift]

/-! ## Failing rows and missing values -/

theorem Finding.row?_eq_some {f : Finding} {row : FailingRow} :
    f.row? = some row ↔ f = .failing row := by
  cases f with
  | failing r => simp [Finding.row?]
  | missing index => simp [Finding.row?]

theorem mem_failingRows {failStatus : Text} {table : Table} {r : FailingRow}
    (h : r ∈ failingRows (table.findings failStatus)) :
    ∃ row payload, table.rows[r.index]? = some row ∧ row.FailsWith failStatus payload ∧
      payload.actual ≠ [] ∧ r.expected = payload.expected ∧ r.actual = payload.actual := by
  obtain ⟨f, hf, hrow⟩ := List.mem_filterMap.mp h
  obtain rfl := Finding.row?_eq_some.mp hrow
  obtain ⟨index, row, hget, hfinding⟩ := Table.mem_findings.mp hf
  obtain ⟨payload, hfails, ⟨-, heq⟩ | ⟨hactual, status, heq⟩⟩ := Row.finding?_cases hfinding
  · cases heq
  · obtain rfl := Finding.failing.inj heq
    exact ⟨row, payload, hget, hfails, hactual, rfl, rfl⟩

theorem exists_mem_failingRows {failStatus : Text} {table : Table} {index : Nat} {row : Row}
    {payload : Cell} (hget : table.rows[index]? = some row)
    (hfails : row.FailsWith failStatus payload) (hactual : payload.actual ≠ []) :
    ∃ r ∈ failingRows (table.findings failStatus), r.index = index := by
  obtain ⟨status, hfinding⟩ := hfails.finding?_failing hactual index
  exact ⟨_, List.mem_filterMap.mpr ⟨_, Table.mem_findings.mpr ⟨index, row, hget, hfinding⟩, rfl⟩, rfl⟩

theorem pairwise_failingRows (failStatus : Text) (table : Table) :
    (failingRows (table.findings failStatus)).Pairwise fun r s => r.index < s.index := by
  apply List.Pairwise.filterMap _ _ (pairwise_findingsFrom failStatus 0 table.rows)
  intro f g hlt r hr s hs
  obtain rfl := Finding.row?_eq_some.mp hr
  obtain rfl := Finding.row?_eq_some.mp hs
  exact hlt

theorem failingRows_shift (by_ : Nat) (fs : List Finding) :
    failingRows (fs.map (Finding.shift by_)) =
      (failingRows fs).map fun r => { r with index := r.index + by_ } := by
  rw [failingRows, failingRows, List.filterMap_map, List.map_filterMap]
  congr 1
  funext f
  cases f <;> rfl

/-- The position of a failing row without an actual value. -/
def Finding.missing? : Finding → Option Nat
  | .failing _ => none
  | .missing index => some index

def missingRows (fs : List Finding) : List Nat := fs.filterMap Finding.missing?

/-- One warning for each failing row without an actual value, and no other. -/
theorem warnings_eq_missingRows (fs : List Finding) :
    warnings fs = (missingRows fs).map .missingActualValue := by
  rw [warnings, missingRows, List.map_filterMap]
  congr 1
  funext f
  cases f <;> rfl

theorem Finding.missing?_eq_some {f : Finding} {index : Nat} :
    f.missing? = some index ↔ f = .missing index := by
  cases f with
  | failing r => simp [Finding.missing?]
  | missing i => simp [Finding.missing?]

theorem mem_missingRows {failStatus : Text} {table : Table} {index : Nat} :
    index ∈ missingRows (table.findings failStatus) ↔
      ∃ row payload, table.rows[index]? = some row ∧ row.FailsWith failStatus payload ∧
        payload.actual = [] := by
  constructor
  · intro h
    obtain ⟨f, hf, hmissing⟩ := List.mem_filterMap.mp h
    obtain rfl := Finding.missing?_eq_some.mp hmissing
    obtain ⟨i, row, hget, hfinding⟩ := Table.mem_findings.mp hf
    obtain rfl : index = i := Row.index_of_finding? hfinding
    obtain ⟨payload, hfails, ⟨hactual, -⟩ | ⟨-, status, heq⟩⟩ := Row.finding?_cases hfinding
    · exact ⟨row, payload, hget, hfails, hactual⟩
    · cases heq
  · rintro ⟨row, payload, hget, hfails, hactual⟩
    have hfinding := hfails.finding?_missing hactual index
    exact List.mem_filterMap.mpr ⟨_, Table.mem_findings.mpr ⟨index, row, hget, hfinding⟩, rfl⟩

theorem pairwise_missingRows (failStatus : Text) (table : Table) :
    (missingRows (table.findings failStatus)).Pairwise (· < ·) := by
  apply List.Pairwise.filterMap _ _ (pairwise_findingsFrom failStatus 0 table.rows)
  intro f g hlt i hi j hj
  obtain rfl := Finding.missing?_eq_some.mp hi
  obtain rfl := Finding.missing?_eq_some.mp hj
  exact hlt

end FailureReplay.Report
