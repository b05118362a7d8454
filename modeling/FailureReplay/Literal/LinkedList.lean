import FailureReplay.Literal.Error
import FailureReplay.Text.Blank

/-!
# List literals

A linked list is written as comma-separated numerals between brackets.
-/

namespace FailureReplay

/-- The values of a linked list, front first. -/
structure LinkedList where
  values : List Int32
  deriving DecidableEq, Repr

namespace LinkedList

def values? (trimmed : Text) : Except Literal.Fault (List Int32) :=
  match Text.enclosed? '[' ']' trimmed with
  | none => .error .noBrackets
  | some inner =>
    if Text.allBlank inner then .ok []
    else (inner.splitOn ',').mapM fun value => Literal.numeral (Text.trim value)

def parse (literal : Text) : Except Literal.Error LinkedList :=
  match values? (Text.trim literal) with
  | .ok values => .ok ⟨values⟩
  | .error fault => .error { kind := .list, literal, fault }

def render (l : LinkedList) : Text :=
  '[' :: Text.join ", " (l.values.map Numeral.write) ++ [']']

end LinkedList
end FailureReplay
