import FailureReplay.Argument
import FailureReplay.Expectation
import FailureReplay.Harness.Emit
import FailureReplay.Report.FailingRow
import FailureReplay.Source.Scan

/-!
# Synthesis

From a source text and a report table to a harness: normalize the source, read
the signature of its first method, and turn each failing row into a test case.
Only a missing or malformed signature stops a run; all else is a warning.
-/

namespace FailureReplay

/-- The cases and the harness for one signature and one table, with the warnings and the log of the
run. -/
structure Generation where
  cases : List TestCase
  artifact : Artifact
  warnings : List Warning
  events : List Log.Event
  deriving DecidableEq, Repr

/-- All that a full run yields. -/
structure Synthesis where
  normalized : Text
  signature : Signature
  generation : Generation
  deriving DecidableEq, Repr

namespace Synthesis

def buildCase (config : Config) (signature : Signature) (row : Report.FailingRow)
    (d : Diagnostics) : TestCase × Diagnostics :=
  let (literals, d) := Argument.write config.treePlaceholder signature.paramTypes row.actual d
  ({ sourceRow := row.index
     arguments := literals
     expected := Expectation.encode signature.returnType row.expected
     comparison := Comparison.ofType signature.returnType },
   if literals.length = signature.arity then d
   else d.log (.recoveredArguments row.index literals.length signature.arity))

def buildCases (config : Config) (signature : Signature) :
    List Report.FailingRow → Diagnostics → List TestCase × Diagnostics
  | [], d => ([], d)
  | row :: rows, d =>
    let (case, d) := buildCase config signature row d
    let (cases, d) := buildCases config signature rows d
    (case :: cases, d)

/-- Turn the failing rows of a table into cases and emit the harness. -/
def generate (config : Config) (signature : Signature) (table : Report.Table) : Generation :=
  let d := Diagnostics.recordAny {} (Expectation.warning? signature.returnType)
  let (rows, d) := table.parse config.failStatus d
  let d := d.log (.selectedRows rows.length table.rows.length)
  let (cases, d) := buildCases config signature rows d
  { cases
    artifact := Harness.emit config signature.name cases
    warnings := d.warnings
    events := d.events }

/-- The event of an output line that was added. -/
def pieceEvent? : Source.Piece → Option Log.Event
  | .source _ => none
  | .defaultReturn returnType _ =>
    returnType.defaultReturn?.map fun statement => .insertedReturn statement returnType

def normalizeEvents (config : Config) (source : Text) : List Log.Event :=
  (Source.pieces config.indentUnit source).filterMap pieceEvent?

def extractEvents (source : Text) : List Log.Event :=
  match Header.find? source with
  | none => []
  | some header =>
    .detectedHeader header.render ::
      match Signature.ofHeader header with
      | .ok signature => [.parsedSignature signature]
      | .error _ => []

/-- Normalize, extract, then generate. -/
def run (config : Config) (source : Text) (table : Report.Table) :
    Except Malformed Synthesis :=
  let normalized := Source.normalize config.indentUnit source
  (Signature.extract normalized).map fun signature =>
    { normalized, signature, generation := generate config signature table }

end Synthesis
end FailureReplay
