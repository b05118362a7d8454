import FailureReplay.Command.ConfigFile
import FailureReplay.Command.Directory
import FailureReplay.Error

/-!
# Command failures

Why a command failed, told from the outermost circumstance to the root cause.
-/

namespace FailureReplay

inductive Failure where
  | readConfig (path : Text) (fault : FileFault)
  | parseConfig (path : Text) (fault : ConfigFile.Fault)
  | useConfig (cause : Error)
  | readSource (path : Text) (fault : FileFault)
  | readReport (path : Text) (fault : FileFault)
  | parseReport (path : Text)
  | write (path : Text) (fault : FileFault)
  | writeHarness (path : Text) (fault : FileFault)
  | noMethod (source : Text) (cause : Malformed)
  | noMethodSaved (source saved : Text) (cause : Malformed)
  deriving DecidableEq, Repr

/-- The messages of a failure, outermost first. -/
def Failure.chain : Failure → List Text
  | .readConfig path fault => ["Failed to read config ".toList ++ path, fault.message]
  | .parseConfig path fault => ["Invalid config ".toList ++ path, fault.message]
  | .useConfig cause => ["Failed to initialize synthesizer".toList, cause.message]
  | .readSource path fault => ["Failed to read source ".toList ++ path, fault.message]
  | .readReport path fault => ["Failed to read report ".toList ++ path, fault.message]
  | .parseReport path => ["Invalid report ".toList ++ path, Error.message .unreadableReport]
  | .write path fault => ["Failed to write ".toList ++ path, fault.message]
  | .writeHarness path fault =>
    ["Failed to write harness".toList,
     "Failed to write artifact to ".toList ++ path ++ ": ".toList ++ fault.message,
     fault.message]
  | .noMethod source cause =>
    ["No usable method in ".toList ++ source, Error.message (.malformedSignature cause)]
  | .noMethodSaved source saved cause =>
    ["No usable method in ".toList ++ source ++ " (normalized text saved to ".toList ++ saved ++
       [')'],
     Error.message (.malformedSignature cause)]

end FailureReplay
