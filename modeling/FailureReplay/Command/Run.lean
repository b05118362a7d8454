import FailureReplay.Command.Arguments
import FailureReplay.Command.Script
import FailureReplay.Interchange
import FailureReplay.Json.Writer
import FailureReplay.Report.Table
import FailureReplay.Synthesis

/-!
# Commands

The three commands as scripts, and a whole command line carried out on a
directory in memory. The configuration is loaded and checked before the command
starts; `generate` writes its files only after every input was read.
-/

namespace FailureReplay.Command

/-- Normalize a source file, into a file or onto the output. -/
def normalizeScript (config : Config) (source : Text) (output? : Option Text) : Script :=
  .readText source (.readSource source) fun text =>
    .logAll (Synthesis.normalizeEvents config text) <|
      let normalized := Source.normalize config.indentUnit text
      match output? with
      | some path =>
        .writeText path normalized (.write path) (.log (.wroteNormalized path) .finish)
      | none => .print (normalized.reverse.dropWhile (· = '\n')).reverse .finish

/-- A signature as a JSON object with types in source spelling. -/
def signatureSummary (s : Signature) : Json :=
  Json.ofMembers
    [("name", Json.ofText s.name),
     ("return_type", Json.ofText s.returnType.render),
     ("param_types", .array (s.paramTypes.map fun t => Json.ofText t.render))]

/-- Print the signature of the first method in a source file. -/
def signatureScript (config : Config) (source : Text) (json : Bool) : Script :=
  .readText source (.readSource source) fun text =>
    let normalized := Source.normalize config.indentUnit text
    .logAll (Synthesis.normalizeEvents config text ++ Synthesis.extractEvents normalized) <|
      match Signature.extract normalized with
      | .error cause => .fail (.noMethod source cause)
      | .ok signature =>
        .print (if json then (signatureSummary signature).pretty else signature.render) .finish

/-- Where the normalized source is saved when it holds no usable method. -/
def formattedPath (source output : Text) : Text :=
  let stem := ((Path.fileName? source).map Path.stem).getD "source".toList
  Path.join (Path.directory output) (stem ++ "_formatted.java".toList)

def summary (signature : Signature) (output : Text) (cases : Nat) (warnings : List Warning) :
    Text :=
  "Method: ".toList ++ signature.render ++
  "\nGenerated ".toList ++ Text.decimal cases ++ " test case(s) -> ".toList ++ output ++
  if warnings.isEmpty then []
  else
    '\n' :: Text.decimal warnings.length ++ " warning(s):".toList ++
      warnings.flatMap fun w => "\n  - ".toList ++ w.message

/-- The summary of a generated harness as a JSON object. -/
def jsonSummary (output : Text) (cases : Nat) (warnings : List Warning) : Json :=
  Json.ofMembers
    [("output", Json.ofText output),
     ("cases", Json.ofNat cases),
     ("warnings", .array (warnings.map Warning.toJson))]

def harnessScript (config : Config) (signature : Signature) (table : Report.Table)
    (output : Text) (json : Bool) : Script :=
  let g := Synthesis.generate config signature table
  .log (.methodUnderTest signature) <|
  .logAll g.events <|
  .writeText output g.artifact.text (.writeHarness output) <|
  .log (.wroteCases g.artifact.caseCount output) <|
  .print
    (if json then (jsonSummary output g.cases.length g.warnings).pretty
      else summary signature output g.cases.length g.warnings)
    .finish

/-- Save the normalized source of a file without a usable method. -/
def salvageScript (source output normalized : Text) (cause : Malformed) : Script :=
  let saved := formattedPath source output
  .writeText saved normalized (.write saved) <|
  .log (.savedNormalized saved) <|
  .fail (.noMethodSaved source saved cause)

/-- Write the normalized source, if a path for it was given. -/
def saveNormalized (normalized : Text) (path? : Option Text) (next : Script) : Script :=
  match path? with
  | none => next
  | some path => .writeText path normalized (.write path) (.log (.wroteNormalized path) next)

/-- Build a harness from a source file and a report table. -/
def generateScript (config : Config) (source report output : Text)
    (normalizedOutput? : Option Text) (json : Bool) : Script :=
  .readText source (.readSource source) fun text =>
  .readText report (.readReport report) fun reportText =>
    match Report.Table.read? reportText with
    | none => .fail (.parseReport report)
    | some table =>
      let normalized := Source.normalize config.indentUnit text
      .logAll (Synthesis.normalizeEvents config text) <|
      saveNormalized normalized normalizedOutput? <|
      .logAll (Synthesis.extractEvents normalized) <|
        match Signature.extract normalized with
        | .error cause => salvageScript source output normalized cause
        | .ok signature => harnessScript config signature table output json

def actionScript (config : Config) : Action → Script
  | .normalize source output? => normalizeScript config source output?
  | .signature source json => signatureScript config source json
  | .generate source report output normalizedOutput? json =>
    generateScript config source report output normalizedOutput? json

/-- Go on with a configuration that can be used. -/
def checked (config : Config) (next : Config → Script) : Script :=
  match config.check with
  | .error cause => .fail (.useConfig cause)
  | .ok config => next config

/-- Go on with the configuration of a file, or the defaults if none is named. -/
def withConfig (path? : Option Text) (next : Config → Script) : Script :=
  match path? with
  | none => checked {} next
  | some path =>
    .readFile path fun
      | .error fault => .fail (.readConfig path fault)
      | .ok content =>
        match ConfigFile.parse content with
        | .error fault => .fail (.parseConfig path fault)
        | .ok config => .log (.loadedConfig path) (checked config next)

def script (invocation : Invocation) : Script :=
  withConfig invocation.config? fun config => actionScript config invocation.action

/-- The least level that is logged; JSON answers keep the log quiet. -/
def threshold (invocation : Invocation) : Log.Level :=
  if invocation.quiet || invocation.action.json then .warn
  else if invocation.verbose then .debug
  else .info

def versionLine : Text := "regress 0.1.1".toList

def helpText : Text := Text.join "\n"
  ["Synthesize regression harnesses from failing submission reports".toList,
   [],
   "regress [-v] [-q] [--config FILE] COMMAND".toList,
   [],
   "  normalize SOURCE [-o FILE]".toList,
   "  signature SOURCE [--json]".toList,
   ("  generate --source FILE --report FILE [-o FILE] " ++
     "[--normalized-output FILE] [--json]").toList]

/-- What carrying out a command line left behind. -/
structure Outcome where
  code : Nat
  output : Text
  log : List Text
  failure? : Option Failure
  directory : Directory

/-- Carry out a command line on a directory. -/
def run (arguments : List Text) (d : Directory) : Outcome :=
  match Arguments.parse arguments with
  | .error .usage => { code := 2, output := [], log := [], failure? := none, directory := d }
  | .error .version =>
    { code := 0, output := versionLine ++ ['\n'], log := [], failure? := none, directory := d }
  | .error .help =>
    { code := 0, output := helpText ++ ['\n'], log := [], failure? := none, directory := d }
  | .ok invocation =>
    let trace := (script invocation).run d
    { code := if trace.failure?.isSome then 1 else 0
      output := trace.output
      log := Log.entries (threshold invocation) trace.events
      failure? := trace.failure?
      directory := trace.directory }

end FailureReplay.Command
