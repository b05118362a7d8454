import FailureReplay.Text.Blank

/-!
# String and character literals

The literals that are written into the harness for texts, characters and text
arrays.
-/

namespace FailureReplay.Literal

def quoteChar (c : Char) : Text :=
  if c = '\\' then ['\\', '\\'] else if c = '"' then ['\\', '"'] else [c]

/-- The string literal of a text: only backslashes and quotes are escaped. -/
def quote (t : Text) : Text := '"' :: t.flatMap quoteChar ++ ['"']

/-- A token without the quotes around it, if it has them. -/
def unquote (token : Text) : Text := (Text.enclosed? '"' '"' token).getD token

/-- The character literal of a one-character token; other tokens stay as they are. -/
def character (token : Text) : Text :=
  match token with
  | [c] => if c = '\\' || c = '\'' then ['\'', '\\', c, '\''] else ['\'', c, '\'']
  | _ => token

/-- An array literal with the given element type and body. -/
def arrayOf (element body : Text) : Text :=
  "new ".toList ++ element ++ "[]\x7b".toList ++ body ++ ['}']

/-- The array literal of a comma-separated list of texts. -/
def textArray (inner : Text) : Text :=
  arrayOf "String".toList <|
    if Text.allBlank inner then []
    else Text.join ", " ((inner.splitOn ',').map fun element => quote (unquote (Text.trim element)))

end FailureReplay.Literal
