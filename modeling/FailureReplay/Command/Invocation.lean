import FailureReplay.Text.Basic

/-!
# Invocations

What a command line asks for.
-/

namespace FailureReplay

/-- Options without a value. -/
inductive Flag where
  | verbose
  | quiet
  | json
  | version
  | help
  deriving DecidableEq, Repr

/-- Options with a path as value. -/
inductive Setting where
  | config
  | source
  | report
  | output
  | normalizedOutput
  deriving DecidableEq, Repr

inductive Action where
  | normalize (source : Text) (output? : Option Text)
  | signature (source : Text) (json : Bool)
  | generate (source report output : Text) (normalizedOutput? : Option Text) (json : Bool)
  deriving DecidableEq, Repr

/-- A complete command line. -/
structure Invocation where
  verbose : Bool
  quiet : Bool
  config? : Option Text
  action : Action
  deriving DecidableEq, Repr

/-- Whether the command answers in JSON. -/
def Action.json : Action → Bool
  | .normalize .. => false
  | .signature _ json => json
  | .generate _ _ _ _ json => json

end FailureReplay
