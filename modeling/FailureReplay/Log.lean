import FailureReplay.DeclaredType
import FailureReplay.Report.Table
import FailureReplay.Signature
import FailureReplay.Text.Terminal
import FailureReplay.Warning

/-!
# Log events

What a run reports while it works, with the level and the wording of each event.
-/

namespace FailureReplay.Log

inductive Level where
  | debug
  | info
  | warn
  | error
  deriving DecidableEq, Repr

/-- Levels in order of importance. -/
def Level.rank : Level → Nat
  | .debug => 0
  | .info => 1
  | .warn => 2
  | .error => 3

def Level.name : Level → Text
  | .debug => "DEBUG".toList
  | .info => "INFO".toList
  | .warn => "WARN".toList
  | .error => "ERROR".toList

inductive Event where
  | loadedConfig (path : Text)
  | insertedReturn (statement : Text) (returnType : DeclaredType)
  | detectedHeader (header : Text)
  | parsedSignature (signature : Signature)
  | failingRow (row : Report.FailingRow)
  | selectedRows (selected total : Nat)
  | recoveredArguments (row recovered declared : Nat)
  | warned (warning : Warning)
  | wroteNormalized (path : Text)
  | methodUnderTest (signature : Signature)
  | wroteCases (count : Nat) (path : Text)
  | savedNormalized (path : Text)
  deriving DecidableEq, Repr

def Event.level : Event → Level
  | .loadedConfig _ | .insertedReturn .. | .detectedHeader _ | .parsedSignature _
  | .failingRow _ | .recoveredArguments .. => .debug
  | .selectedRows .. | .wroteNormalized _ | .methodUnderTest _ | .wroteCases .. => .info
  | .warned _ => .warn
  | .savedNormalized _ => .error

def Event.message : Event → Text
  | .loadedConfig path => "Loaded config from ".toList ++ path
  | .insertedReturn statement returnType =>
    "Inserting `".toList ++ statement ++ "` for method returning ".toList ++ returnType.render
  | .detectedHeader header => "Detected method signature: ".toList ++ header
  | .parsedSignature signature => "Parsed signature: ".toList ++ signature.render
  | .failingRow row =>
    "Row ".toList ++ Text.decimal row.index ++ ": expected `".toList ++ row.expected ++
      "`, actual `".toList ++ row.actual ++ ['`']
  | .selectedRows selected total =>
    "Selected ".toList ++ Text.decimal selected ++ " failing row(s) out of ".toList ++
      Text.decimal total
  | .recoveredArguments row recovered declared =>
    "Row ".toList ++ Text.decimal row ++ ": ".toList ++ Text.decimal recovered ++
      " argument(s) recovered for ".toList ++ Text.decimal declared ++ " parameter(s)".toList
  | .warned warning => warning.message
  | .wroteNormalized path => "Normalized source written to ".toList ++ path
  | .methodUnderTest signature => "Method under test: ".toList ++ signature.render
  | .wroteCases count path =>
    "Wrote ".toList ++ Text.decimal count ++ " case(s) to ".toList ++ path
  | .savedNormalized path =>
    "Signature extraction failed; normalized source saved to ".toList ++ path

/-- The warning that an event carries. -/
def Event.warning? : Event → Option Warning
  | .warned warning => some warning
  | _ => none

/-- A message with its later lines indented by four spaces. -/
def hangingIndent (message : Text) : Text :=
  message.flatMap fun c => if c = '\n' then "\n    ".toList else [c]

/-- An event as one log entry, which never steers the terminal that shows it. -/
def Event.entry (e : Event) : Text :=
  e.level.name ++ ' ' :: Text.withoutControls (hangingIndent e.message)

/-- The entries of the events at or above a level. -/
def entries (threshold : Level) (events : List Event) : List Text :=
  (events.filter fun e => threshold.rank ≤ e.level.rank).map Event.entry

end FailureReplay.Log
