import FailureReplay.Numeral

/-!
# Literal errors

Why a list or tree literal cannot be decoded.
-/

namespace FailureReplay.Literal

inductive Kind where
  | list
  | tree
  deriving DecidableEq, Repr

def Kind.name : Kind → Text
  | .list => "list".toList
  | .tree => "tree".toList

inductive Fault where
  | noBrackets
  | noBraces
  | badNumeral (token : Text) (fault : Numeral.Fault)
  | rootPlaceholder
  | surplusTokens
  deriving DecidableEq, Repr

def Fault.message : Fault → Text
  | .noBrackets => "expected `[...]`".toList
  | .noBraces => "expected `\x7b...\x7d`".toList
  | .badNumeral token fault => '`' :: token ++ "`: ".toList ++ fault.message
  | .rootPlaceholder => "root cannot be a placeholder".toList
  | .surplusTokens => "more tokens than open child slots".toList

/-- A literal that cannot be decoded, as it was given. -/
structure Error where
  kind : Kind
  literal : Text
  fault : Fault
  deriving DecidableEq, Repr

def Error.message (e : Error) : Text :=
  "Invalid ".toList ++ e.kind.name ++ " literal `".toList ++ e.literal ++ "`: ".toList ++
    e.fault.message

def numeral (token : Text) : Except Fault Int32 :=
  (Numeral.read token).mapError (Fault.badNumeral token)

end FailureReplay.Literal
