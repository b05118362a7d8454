import FailureReplay.Text.Blank
import FailureReplay.Text.Printable

/-!
# Configuration

The settings of normalization and harness synthesis, and the check that they
can be used.
-/

namespace FailureReplay

/-- The settings of a run. -/
structure Config where
  /-- One indentation level, added to the closing line's indent before a default return. -/
  indentUnit : Text := "    ".toList
  /-- The status that selects the rows which become test cases. -/
  failStatus : Text := "fail".toList
  /-- The mark of an absent child in tree literals. -/
  treePlaceholder : Text := "x".toList
  /-- The name of the harness class. -/
  className : Text := "GeneratedTest".toList
  /-- The name of the method that runs every case. -/
  runnerName : Text := "runAllTests".toList
  deriving DecidableEq, Repr

namespace Config

inductive Problem where
  | emptyIndent
  | badIndent (unit : Text)
  | emptyStatus
  | badPlaceholder (placeholder : Text)
  | badClassName (name : Text)
  | badRunnerName (name : Text)
  deriving DecidableEq, Repr

def Problem.message : Problem → Text
  | .emptyIndent => "indent_unit must not be empty".toList
  | .badIndent unit =>
    "indent_unit must contain only spaces or tabs, got ".toList ++ Text.display unit
  | .emptyStatus => "fail_status must not be empty".toList
  | .badPlaceholder placeholder =>
    ("tree_placeholder must be a single token without braces, quotes or backslashes, " ++
      "got ").toList ++ Text.display placeholder
  | .badClassName name => "class_name is not an identifier: ".toList ++ Text.display name
  | .badRunnerName name => "runner_name is not an identifier: ".toList ++ Text.display name

/-- A character that may open an identifier. -/
def isNameStart (c : Char) : Bool := c.isAlpha || c = '_' || c = '$'

/-- A character that may continue an identifier. -/
def isNamePart (c : Char) : Bool := c.isAlphanum || c = '_' || c = '$'

def isIdentifier : Text → Bool
  | [] => false
  | c :: rest => isNameStart c && rest.all isNamePart

def isIndentChar (c : Char) : Bool := c = ' ' || c = '\t'

/-- A character that a placeholder cannot hold. -/
def breaksPlaceholder (c : Char) : Bool :=
  Text.isBlank c || c = '{' || c = '}' || c = '"' || c = '\\'

/-- The first problem of a configuration, field by field. -/
def problem? (config : Config) : Option Problem :=
  if config.indentUnit.isEmpty then some .emptyIndent
  else if !config.indentUnit.all isIndentChar then some (.badIndent config.indentUnit)
  else if Text.allBlank config.failStatus then some .emptyStatus
  else if config.treePlaceholder.isEmpty || config.treePlaceholder.any breaksPlaceholder then
    some (.badPlaceholder config.treePlaceholder)
  else if !isIdentifier config.className then some (.badClassName config.className)
  else if !isIdentifier config.runnerName then some (.badRunnerName config.runnerName)
  else none

/-- A configuration that can be used. -/
def Valid (config : Config) : Prop := config.problem? = none

end Config
end FailureReplay
