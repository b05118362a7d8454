import FailureReplay.Text.Basic

/-!
# Warnings

Conditions that are recovered from on the spot; the run goes on and the caller
receives them.
-/

namespace FailureReplay

/-- A recovered condition. -/
inductive Warning where
  /-- A failing row had no usable actual value and was dropped. -/
  | missingActualValue (row : Nat)
  /-- A parameter type outside the supported ones; its token is passed through. -/
  | unsupportedParameter (position : Nat) (typeName token : Text)
  /-- A return type outside the supported ones; the expected value is passed through. -/
  | unsupportedReturn (typeName : Text)
  /-- A token that does not have the shape its declared type expects. -/
  | malformedArgument (position : Nat) (typeName token reason : Text)
  deriving DecidableEq, Repr

def Warning.kind : Warning → Text
  | .missingActualValue .. => "missing_actual_value".toList
  | .unsupportedParameter .. => "unsupported_parameter_type".toList
  | .unsupportedReturn .. => "unsupported_return_type".toList
  | .malformedArgument .. => "malformed_argument".toList

def Warning.message : Warning → Text
  | .missingActualValue row =>
    "row ".toList ++ Text.decimal row ++ ": actual value not found, row skipped".toList
  | .unsupportedParameter position typeName token =>
    "unhandled parameter type `".toList ++ typeName ++ "` at position ".toList ++
      Text.decimal position ++ ", passing `".toList ++ token ++ "` through".toList
  | .unsupportedReturn typeName =>
    "unhandled return type `".toList ++ typeName ++ "`, passing expected value through".toList
  | .malformedArgument position typeName token reason =>
    "unexpected format for ".toList ++ typeName ++ " parameter at position ".toList ++
      Text.decimal position ++ ": `".toList ++ token ++ "` (".toList ++ reason ++ [')']

end FailureReplay
