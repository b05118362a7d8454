import FailureReplay.DeclaredType
import FailureReplay.Literal.Quote
import FailureReplay.Warning

/-!
# Expected results

The literal of an expected result and how a generated assertion compares the
method's result with it, as the return type directs.
-/

namespace FailureReplay

namespace Expectation

def dropBrackets (t : Text) : Text := t.filter fun c => c != '[' && c != ']'

/-- The literal of an expected value; most types pass it through. -/
def encode (returnType : DeclaredType) (expected : Text) : Text :=
  match returnType with
  | .array .text => Literal.textArray (dropBrackets expected)
  | .text => Literal.quote expected
  | _ => expected

/-- The warning for a return type whose expected values are passed through unread. -/
def warning? (returnType : DeclaredType) : Option Warning :=
  match returnType with
  | .primitive _ | .text | .array _ => none
  | _ => some (.unsupportedReturn returnType.render)

end Expectation

/-- The three ways to compare a result. -/
inductive Comparison where
  | elementwise
  | text
  | value
  deriving DecidableEq, Repr

namespace Comparison

def name : Comparison → Text
  | elementwise => "elementwise_array_equals".toList
  | text => "text_equals".toList
  | value => "value_equals".toList

def ofName? (t : Text) : Option Comparison :=
  [elementwise, text, value].find? fun c => c.name == t

/-- The expression that compares `actual` with `expected`. -/
def render (c : Comparison) (actual expected : Text) : Text :=
  match c with
  | elementwise => "Arrays.equals(".toList ++ actual ++ ", ".toList ++ expected ++ [')']
  | text => actual ++ ".equals(".toList ++ expected ++ [')']
  | value => actual ++ " == ".toList ++ expected

/-- Arrays are compared by element, strings by content, all else by value. -/
def ofType : DeclaredType → Comparison
  | .array _ => elementwise
  | .text => text
  | _ => value

end Comparison
end FailureReplay
