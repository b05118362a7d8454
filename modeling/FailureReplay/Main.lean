import FailureReplay.Command.Run

/-!
# Program entry

Carries out a command line on the real file system. Log entries and failures go
to the error stream.
-/

namespace FailureReplay

/-- The fault that an operating-system error stands for. -/
def FileFault.ofError : IO.Error → FileFault
  | .noFileOrDirectory .. => .noSuchFile
  | .inappropriateType _ code details =>
    if code = 21 then .isDirectory else if code = 20 then .notDirectory else .other details.toList
  | e => .other (toString e).toList

/-- The outcome of a file operation. -/
def attempt {α : Type} (action : IO α) : IO (Except FileFault α) := do
  try return .ok (← action)
  catch e => return .error (FileFault.ofError e)

def Failure.report (failure : Failure) : Text :=
  match failure.chain with
  | [] => []
  | outer :: causes =>
    "Error: ".toList ++ outer ++
      if causes.isEmpty then []
      else "\n\nCaused by:".toList ++ causes.flatMap fun cause => "\n    ".toList ++ cause

def Script.perform (threshold : Log.Level) : Script → IO UInt32
  | .finish => return 0
  | .fail failure => do
    IO.eprintln (String.ofList failure.report)
    return 1
  | .readFile path next => do
    let content ← attempt (IO.FS.readBinFile (String.ofList path))
    (next content).perform threshold
  | .writeFile path content next => do
    let written ← attempt (IO.FS.writeFile (String.ofList path) (String.ofList content))
    (next written).perform threshold
  | .log event next => do
    for entry in Log.entries threshold [event] do
      IO.eprintln (String.ofList entry)
    next.perform threshold
  | .print line next => do
    IO.println (String.ofList line)
    next.perform threshold

end FailureReplay

open FailureReplay in
/-- Carry out the command line of the process. -/
def main (arguments : List String) : IO UInt32 := do
  match Arguments.parse (arguments.map String.toList) with
  | .error .usage =>
    IO.eprintln (String.ofList Command.helpText)
    return 2
  | .error .version =>
    IO.println (String.ofList Command.versionLine)
    return 0
  | .error .help =>
    IO.println (String.ofList Command.helpText)
    return 0
  | .ok invocation => (Command.script invocation).perform (Command.threshold invocation)
