import FailureReplay.DeclaredType
import FailureReplay.Header
import FailureReplay.Source.Lines

/-!
# Method scan

A line-by-line scan that finds methods whose body has no line starting with
`return ` and gives each non-void one a default return before its closing brace.
Only the presence of such a line is checked, not that every branch returns. The
lines of a normalized source are those of the scan.
-/

namespace FailureReplay.Source

structure Body where
  returnType : DeclaredType
  depth : Nat
  sawReturn : Bool
  deriving DecidableEq, Repr

/-- Where the scan stands between two lines. -/
inductive State where
  /-- Outside any method. -/
  | outside
  /-- After a header whose opening brace may be the next line. -/
  | awaiting (returnType : DeclaredType)
  /-- Inside a method body. -/
  | inside (body : Body)
  deriving DecidableEq, Repr

/-- A line of output: one that the source had, or a return statement that was added. -/
inductive Piece where
  | source (line : Text)
  | defaultReturn (returnType : DeclaredType) (line : Text)
  deriving DecidableEq, Repr

def Piece.line : Piece → Text
  | .source line => line
  | .defaultReturn _ line => line

/-- The declared return type of a header line: its second word. -/
def headerType (header : Text) : DeclaredType :=
  match Text.words header with
  | _ :: returnType :: _ :: _ => DeclaredType.classify returnType
  | _ => .void

def Body.start (returnType : DeclaredType) : Body :=
  { returnType, depth := 1, sawReturn := false }

def Body.advance (b : Body) (line : Text) : Body where
  returnType := b.returnType
  depth := b.depth + (Text.trim line).count '{' - (Text.trim line).count '}'
  sawReturn := b.sawReturn || (Text.afterStart? "return ".toList (Text.trim line)).isSome

/-- The closing line of a body that needs a default return, with the return before the brace. -/
def closeWithReturn (indentUnit : Text) (returnType : DeclaredType) (statement line : Text) :
    List Piece :=
  let added := .defaultReturn returnType (indentOf line ++ indentUnit ++ statement)
  match cutAtLastClose? line with
  | some (before, after) =>
    if Text.allBlank before then [added, .source line]
    else [.source (Text.trimEnd before), added, .source (indentOf line ++ Text.trim after)]
  | none => [added, .source line]

/-- The output for the line that closes a body. -/
def Body.close (indentUnit : Text) (b : Body) (line : Text) : List Piece :=
  match b.returnType.defaultReturn? with
  | some statement =>
    if b.sawReturn then [.source line]
    else closeWithReturn indentUnit b.returnType statement line
  | none => [.source line]

/-- Read one line outside any method. -/
def stepOutside (line : Text) : State :=
  let header := Text.trim line
  if Header.isLine header then
    if header.getLast? = some '{' then .inside (Body.start (headerType header))
    else .awaiting (headerType header)
  else .outside

/-- Read one line: the next state and the lines written. -/
def State.step (indentUnit : Text) : State → Text → State × List Piece
  | .outside, line => (stepOutside line, [.source line])
  | .awaiting returnType, line =>
    (if Text.trim line = ['{'] then .inside (Body.start returnType) else .outside, [.source line])
  | .inside body, line =>
    if 0 < (body.advance line).depth then (.inside (body.advance line), [.source line])
    else (.outside, (body.advance line).close indentUnit line)

/-- The lines written while reading `lines` from a state. -/
def scan (indentUnit : Text) : State → List Text → List Piece
  | _, [] => []
  | s, line :: rest => (s.step indentUnit line).2 ++ scan indentUnit (s.step indentUnit line).1 rest

def State.after (indentUnit : Text) (s : State) (lines : List Text) : State :=
  lines.foldl (fun s line => (s.step indentUnit line).1) s

/-- The output lines for a source text. -/
def pieces (indentUnit source : Text) : List Piece := scan indentUnit .outside (lines source)

def normalize (indentUnit source : Text) : Text :=
  Text.unlines ((pieces indentUnit source).map Piece.line)

end FailureReplay.Source
