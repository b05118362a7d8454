import FailureReplay.Expectation
import FailureReplay.Config.Basic
import FailureReplay.Harness.Template

/-!
# Harness emission

A harness is the fixed template with one block of four lines for each test case.
-/

namespace FailureReplay

/-- One generated assertion. -/
structure TestCase where
  /-- The report row the case came from. -/
  sourceRow : Nat
  arguments : List Text
  expected : Text
  comparison : Comparison
  deriving DecidableEq, Repr

/-- The comparison of a call of `method` with the expected value. -/
def TestCase.expression (method : Text) (case : TestCase) : Text :=
  case.comparison.render (method ++ '(' :: Text.join ", " case.arguments ++ [')']) case.expected

def TestCase.lines (method : Text) (case : TestCase) : List Text :=
  ["        // report row ".toList ++ Text.decimal case.sourceRow,
   "        pass = ".toList ++ case.expression method ++ [';'],
   "        System.out.println(\"Pass: \" + pass);".toList,
   []]

structure Artifact where
  className : Text
  caseCount : Nat
  text : Text
  deriving DecidableEq, Repr

/-- The file name that fits the harness class. -/
def Artifact.fileName (a : Artifact) : Text := a.className ++ ".java".toList

namespace Harness

def openingLines (config : Config) : List Text :=
  importLines ++
  ["public class ".toList ++ config.className ++ " \x7b".toList, []] ++
  treeLines config.treePlaceholder ++
  listLines ++
  ["    public static void main(String[] args) \x7b".toList,
   "        ".toList ++ config.runnerName ++ "();".toList,
   "    \x7d".toList,
   [],
   "    private static void ".toList ++ config.runnerName ++ "() \x7b".toList,
   "        boolean pass;".toList,
   []]

def closingLines : List Text := ["    \x7d".toList, [], "\x7d".toList]

/-- Emit the harness for a method and its cases. -/
def emit (config : Config) (method : Text) (cases : List TestCase) : Artifact where
  className := config.className
  caseCount := cases.length
  text := Text.unlines
    (openingLines config ++ cases.flatMap (TestCase.lines method) ++ closingLines)

end Harness
end FailureReplay
