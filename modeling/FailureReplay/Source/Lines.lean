import FailureReplay.Text.Blank

/-!
# Source lines

A source text is cut into lines after carriage returns before line feeds are
folded away and every brace has been made to end its line.
-/

namespace FailureReplay.Source

/-- Fold each carriage return and line feed pair into a line feed. -/
def foldLineEnds (t : Text) : Text := Text.replacePair '\r' '\n' ['\n'] t

def isBrace (c : Char) : Bool := c = '{' || c = '}'

/-- Break the line after every brace that does not end one already. -/
def breakAfterBraces : Text → Text
  | [] => []
  | c :: rest =>
    if isBrace c && rest.head? != some '\n' then c :: '\n' :: breakAfterBraces rest
    else c :: breakAfterBraces rest

/-- The lines of a text without the empty ones at its end. -/
def splitLines (t : Text) : List Text :=
  ((t.splitOn '\n').reverse.dropWhile List.isEmpty).reverse

/-- The lines of a source with every brace at the end of its line. -/
def lines (source : Text) : List Text :=
  splitLines (breakAfterBraces (foldLineEnds source))

/-- The spaces and tabs a line starts with. -/
def indentOf (line : Text) : Text := line.takeWhile fun c => c = ' ' || c = '\t'

/-- A line cut before its last closing brace. -/
def cutAtLastClose? : Text → Option (Text × Text)
  | [] => none
  | c :: rest =>
    match cutAtLastClose? rest with
    | some (before, after) => some (c :: before, after)
    | none => if c = '}' then some ([], c :: rest) else none

end FailureReplay.Source
