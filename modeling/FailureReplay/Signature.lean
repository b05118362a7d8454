import FailureReplay.DeclaredType
import FailureReplay.Header

/-!
# Method signatures

The name, return type and parameter types of the method under test, recovered
from the first header of a source text.
-/

namespace FailureReplay

/-- A method's name, return type and parameter types in declaration order. -/
structure Signature where
  name : Text
  returnType : DeclaredType
  paramTypes : List DeclaredType
  deriving DecidableEq, Repr

/-- Why a source text yields no signature. -/
inductive Malformed where
  | noHeader
  | badParameter (piece : Text)
  deriving DecidableEq, Repr

def Malformed.message : Malformed → Text
  | .noHeader => "no method header found in source".toList
  | .badParameter piece => "invalid parameter format: `".toList ++ piece ++ ['`']

namespace Signature

def arity (s : Signature) : Nat := s.paramTypes.length

/-- A signature in source spelling, without parameter names. -/
def render (s : Signature) : Text :=
  s.returnType.render ++ ' ' :: s.name ++
    '(' :: Text.join ", " (s.paramTypes.map DeclaredType.render) ++ [')']

/-- The type of one parameter declaration: every word but the last. -/
def paramType (piece : Text) : Except Malformed DeclaredType :=
  match (Text.words piece).dropLast with
  | [] => .error (.badParameter (Text.trim piece))
  | typeWords => .ok (DeclaredType.classify (Text.join " " typeWords))

/-- The types of a comma-separated parameter list; commas split wherever they stand. -/
def paramTypes? (params : Text) : Except Malformed (List DeclaredType) :=
  if Text.allBlank params then .ok []
  else ((Text.trim params).splitOn ',').mapM paramType

/-- The signature a header declares. -/
def ofHeader (h : Header) : Except Malformed Signature :=
  (paramTypes? h.params).map fun paramTypes =>
    { name := h.name, returnType := DeclaredType.classify h.returnType, paramTypes }

/-- The signature of the first method declared in a source text. -/
def extract (source : Text) : Except Malformed Signature :=
  match Header.find? source with
  | none => .error .noHeader
  | some h => ofHeader h

end Signature
end FailureReplay
