import FailureReplay.Command.Failure
import FailureReplay.Log

/-!
# Scripts

A command as the steps it takes: files read and written, events logged, text
printed. `Script.run` carries the steps out on a directory in memory.
-/

namespace FailureReplay

/-- The steps of a command. -/
inductive Script where
  | finish
  | fail (failure : Failure)
  | readFile (path : Text) (next : Except FileFault ByteArray → Script)
  | writeFile (path : Text) (content : Text) (next : Except FileFault Unit → Script)
  | log (event : Log.Event) (next : Script)
  | print (line : Text) (next : Script)

namespace Script

def logAll (events : List Log.Event) (next : Script) : Script := events.foldr .log next

def readText (path : Text) (onFault : FileFault → Failure) (next : Text → Script) : Script :=
  .readFile path fun
    | .error fault => .fail (onFault fault)
    | .ok content =>
      match String.fromUTF8? content with
      | none => .fail (onFault .notText)
      | some s => next s.toList

def writeText (path content : Text) (onFault : FileFault → Failure) (next : Script) : Script :=
  .writeFile path content fun
    | .error fault => .fail (onFault fault)
    | .ok () => next

structure Trace where
  failure? : Option Failure
  events : List Log.Event
  output : Text
  directory : Directory

def run : Script → Directory → Trace
  | .finish, d => { failure? := none, events := [], output := [], directory := d }
  | .fail failure, d => { failure? := some failure, events := [], output := [], directory := d }
  | .readFile path next, d => (next (d.read path)).run d
  | .writeFile path content next, d =>
    match d.write path (String.ofList content).toUTF8 with
    | .ok changed => (next (.ok ())).run changed
    | .error fault => (next (.error fault)).run d
  | .log event next, d =>
    let t := next.run d
    { t with events := event :: t.events }
  | .print line next, d =>
    let t := next.run d
    { t with output := line ++ '\n' :: t.output }

end Script
end FailureReplay
