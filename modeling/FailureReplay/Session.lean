import FailureReplay.Error
import FailureReplay.Report.Table
import FailureReplay.Synthesis

/-!
# Sessions

A session keeps a current source, a current signature and a growing list of
warnings between steps. A step that fails leaves the session usable.
-/

namespace FailureReplay

/-- What a session remembers between steps. -/
structure Session where
  config : Config
  source : Text := []
  signature? : Option Signature := none
  warnings : List Warning := []
  deriving DecidableEq, Repr

namespace Session

/-- One request to a session; tables are given as JSON text. -/
inductive Step where
  | setSource (source : Text)
  | normalize
  | extract
  | generate (table : Text)
  | parseTable (table : Text)
  | encode (payload : Text)
  | checkReturn
  | record (warning : Warning)
  | drain
  deriving DecidableEq, Repr

/-- What a step answers. -/
inductive Answer where
  | done
  | text (t : Text)
  | generated (generation : Generation)
  | rows (rows : List Report.FailingRow)
  | literals (literals : List Text)
  | flag (value : Bool)
  | drained (warnings : List Warning)
  | failed (error : Error)
  | noSignature
  deriving DecidableEq, Repr

/-- The diagnostics that a step starts from: the warnings held, and a log of its own. -/
def diagnostics (s : Session) : Diagnostics := { warnings := s.warnings }

/-- Record a warning, if there is one. -/
def warn (s : Session) (warning? : Option Warning) : Session :=
  { s with warnings := (s.diagnostics.recordAny warning?).warnings }

def withSignature (s : Session) (f : Signature → Session × Answer) : Session × Answer :=
  match s.signature? with
  | none => (s, .noSignature)
  | some signature => f signature

/-- Answer with a table, if its text can be decoded. -/
def withTable (s : Session) (table : Text) (f : Report.Table → Session × Answer) :
    Session × Answer :=
  match Report.Table.read? table with
  | none => (s, .failed .unreadableReport)
  | some table => f table

def step (s : Session) : Step → Session × Answer
  | .setSource source => ({ s with source }, .done)
  | .normalize =>
    let normalized := Source.normalize s.config.indentUnit s.source
    ({ s with source := normalized }, .text normalized)
  | .extract =>
    match Signature.extract s.source with
    | .ok signature => ({ s with signature? := some signature }, .text signature.render)
    | .error cause => ({ s with signature? := none }, .failed (.malformedSignature cause))
  | .generate table =>
    s.withSignature fun signature =>
      s.withTable table fun table => (s, .generated (Synthesis.generate s.config signature table))
  | .parseTable table =>
    s.withTable table fun table =>
      let (rows, d) := table.parse s.config.failStatus s.diagnostics
      ({ s with warnings := d.warnings }, .rows rows)
  | .encode payload =>
    s.withSignature fun signature =>
      let (literals, d) := Argument.write s.config.treePlaceholder signature.paramTypes payload
        s.diagnostics
      ({ s with warnings := d.warnings }, .literals literals)
  | .checkReturn =>
    s.withSignature fun signature =>
      let warning? := Expectation.warning? signature.returnType
      (s.warn warning?, .flag warning?.isSome)
  | .record warning => (s.warn (some warning), .done)
  | .drain => ({ s with warnings := [] }, .drained s.warnings)

/-- The answer of a step, the warnings held after it and the ones it added. -/
structure Entry where
  answer : Answer
  warningCount : Nat
  newWarnings : List Warning
  deriving DecidableEq, Repr

def run (s : Session) : List Step → List Entry
  | [] => []
  | request :: rest =>
    let (next, answer) := s.step request
    { answer, warningCount := next.warnings.length,
      newWarnings := next.warnings.drop s.warnings.length } :: run next rest

end Session
end FailureReplay
