import FailureReplay.Text.Blank

/-!
# Payload tokens

A payload holds the argument values of one report row. Commas and spaces divide
it into tokens, except between quotes and inside brackets or braces; the two
kinds of nesting are counted independently and never drop below zero.
-/

namespace FailureReplay.Payload

/-- What surrounds the next character of a payload. -/
structure Context where
  brackets : Nat
  braces : Nat
  quoted : Bool
  escaped : Bool
  deriving DecidableEq, Repr

/-- The start of a payload: no nesting, no quotes. -/
def Context.empty : Context := ⟨0, 0, false, false⟩

/-- A comma or space outside quotes and nesting. -/
def Context.separates (x : Context) (c : Char) : Bool :=
  (c = ',' || c = ' ') && !x.quoted && x.brackets = 0 && x.braces = 0

/-- The context after one character; brackets count inside quotes too. -/
def Context.step (x : Context) (c : Char) : Context where
  brackets := if c = '[' then x.brackets + 1 else if c = ']' then x.brackets - 1 else x.brackets
  braces := if c = '{' then x.braces + 1 else if c = '}' then x.braces - 1 else x.braces
  quoted := if c = '"' && !x.escaped then !x.quoted else x.quoted
  escaped := c = '\\' && !x.escaped

/-- The token collected so far, in reverse; none if nothing was collected. -/
def flush (collected : Text) : List Text :=
  if collected.isEmpty then [] else [Text.trim collected.reverse]

def tokensFrom (x : Context) (collected : Text) : Text → List Text
  | [] => flush collected
  | c :: rest =>
    if x.separates c then flush collected ++ tokensFrom (x.step c) [] rest
    else tokensFrom (x.step c) (c :: collected) rest

/-- The tokens of a payload, one for each argument. -/
def tokens (payload : Text) : List Text := tokensFrom .empty [] (Text.trim payload)

end FailureReplay.Payload
