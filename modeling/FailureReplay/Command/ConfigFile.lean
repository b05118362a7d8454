import FailureReplay.Config.Decode
import FailureReplay.Json.Value
import FailureReplay.Toml.Reader

/-!
# Configuration files

A configuration file is read as JSON, and as TOML if that fails.
-/

namespace FailureReplay.ConfigFile

/-- Why a configuration file holds no configuration. -/
inductive Fault where
  | notText
  | notJsonOrToml
  | notConfig
  deriving DecidableEq, Repr

def Fault.message : Fault → Text
  | .notText => "not UTF-8".toList
  | .notJsonOrToml => "Config is not valid JSON or TOML".toList
  | .notConfig => "Config parse error".toList

def value? (t : Text) : Option Json := ((Json.read? t).bind Json.settle?).or (Toml.read? t)

def parse (content : ByteArray) : Except Fault Config :=
  match String.fromUTF8? content with
  | none => .error .notText
  | some s =>
    match value? s.toList with
    | none => .error .notJsonOrToml
    | some value =>
      match Config.ofJson? value with
      | none => .error .notConfig
      | some config => .ok config

end FailureReplay.ConfigFile
