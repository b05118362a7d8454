import FailureReplay.Config.Basic
import FailureReplay.Literal.Error
import FailureReplay.Signature

/-!
# Errors

The causes that stop an operation of the library, and their wording.
-/

namespace FailureReplay

/-- Why an operation stopped. -/
inductive Error where
  | malformedSignature (cause : Malformed)
  | invalidLiteral (cause : Literal.Error)
  | invalidConfig (cause : Config.Problem)
  | unreadableReport
  deriving DecidableEq, Repr

def Error.message : Error → Text
  | .malformedSignature cause => "Malformed signature: ".toList ++ cause.message
  | .invalidLiteral cause => cause.message
  | .invalidConfig cause => "Invalid configuration: ".toList ++ cause.message
  | .unreadableReport => "Report error: invalid report table".toList

/-- A configuration that passed the check. -/
def Config.check (config : Config) : Except Error Config :=
  match config.problem? with
  | none => .ok config
  | some cause => .error (.invalidConfig cause)

end FailureReplay
