import FailureReplay.Diagnostics
import FailureReplay.Report.Table
import FailureReplay.Text.Blank

/-!
# Failing rows

A row fails when it has at least three cells and its second cell holds the fail
status. Its third cell carries the expected and the actual payload; a failing
row without an actual payload is dropped with a warning.
-/

namespace FailureReplay.Report

def dropQuotes (t : Text) : Text := t.filter (· != '"')

/-- The expected payload: the first block. -/
def Cell.expected (cell : Cell) : Text :=
  match cell.preBlocks.head? with
  | some block => dropQuotes (Text.trim block)
  | none => "null".toList

/-- The actual payload: the text after the last block, else the last block. -/
def Cell.actual (cell : Cell) : Text :=
  match cell.preBlocks.getLast? with
  | none => []
  | some block =>
    match cell.trailingText with
    | some trailing => Text.trim (dropQuotes (Text.replacePair ':' ' ' [] (Text.trim trailing)))
    | none => dropQuotes (Text.trim block)

/-- Equality of texts up to the case of ASCII letters. -/
def sameIgnoringCase (a b : Text) : Bool := a.map Char.toLower == b.map Char.toLower

/-- What one row contributes. -/
inductive Finding where
  | failing (row : FailingRow)
  | missing (index : Nat)
  deriving DecidableEq, Repr

/-- What one row contributes, given its position. -/
def Row.finding? (failStatus : Text) (index : Nat) (row : Row) : Option Finding :=
  match row.cells with
  | _ :: status :: payload :: _ =>
    if sameIgnoringCase (Text.trim status.text) (Text.trim failStatus) then
      if payload.actual.isEmpty then some (.missing index)
      else some (.failing { index, status := Text.trim status.text,
                            expected := payload.expected, actual := payload.actual })
    else none
  | _ => none

/-- Read one row: the failing row it holds, if any. A missing value is recorded, and a failing row
is logged. -/
def Row.parse (failStatus : Text) (index : Nat) (row : Row) (d : Diagnostics) :
    Option FailingRow × Diagnostics :=
  match row.finding? failStatus index with
  | none => (none, d)
  | some (.missing index) => (none, d.record (.missingActualValue index))
  | some (.failing found) => (some found, d.log (.failingRow found))

def parseFrom (failStatus : Text) (index : Nat) :
    List Row → Diagnostics → List FailingRow × Diagnostics
  | [], d => ([], d)
  | row :: rows, d =>
    let (found?, d) := row.parse failStatus index d
    let (found, d) := parseFrom failStatus (index + 1) rows d
    (found?.toList ++ found, d)

/-- The failing rows of a table that have an actual value, in table order. -/
def Table.parse (failStatus : Text) (table : Table) (d : Diagnostics) :
    List FailingRow × Diagnostics :=
  parseFrom failStatus 0 table.rows d

/-! ## All findings of a table -/

/-- What rows contribute, counted from `index`. -/
def findingsFrom (failStatus : Text) (index : Nat) : List Row → List Finding
  | [] => []
  | row :: rows =>
    (row.finding? failStatus index).toList ++ findingsFrom failStatus (index + 1) rows

/-- What the rows of a table contribute, in table order. -/
def Table.findings (failStatus : Text) (table : Table) : List Finding :=
  findingsFrom failStatus 0 table.rows

def Finding.row? : Finding → Option FailingRow
  | .failing row => some row
  | .missing _ => none

def Finding.warning? : Finding → Option Warning
  | .failing _ => none
  | .missing index => some (.missingActualValue index)

def Finding.event : Finding → Log.Event
  | .failing row => .failingRow row
  | .missing index => .warned (.missingActualValue index)

def failingRows (fs : List Finding) : List FailingRow := fs.filterMap Finding.row?

def warnings (fs : List Finding) : List Warning := fs.filterMap Finding.warning?

end FailureReplay.Report
