import FailureReplay.Config.Basic
import FailureReplay.Json.Reader
import FailureReplay.Json.Record

/-!
# Configurations in JSON

Fields that are left out keep their defaults.
-/

namespace FailureReplay.Config

/-- The field names, in the order of the array form. -/
def fieldNames : List String :=
  ["indent_unit", "fail_status", "tree_placeholder", "class_name", "runner_name"]

def ofJson? (j : Json) : Option Config := do
  let defaults : Config := {}
  match ← j.fields? fieldNames with
  | [indent, status, placeholder, className, runner] =>
    return { indentUnit := ← Json.decodeOr defaults.indentUnit Json.text? indent
             failStatus := ← Json.decodeOr defaults.failStatus Json.text? status
             treePlaceholder := ← Json.decodeOr defaults.treePlaceholder Json.text? placeholder
             className := ← Json.decodeOr defaults.className Json.text? className
             runnerName := ← Json.decodeOr defaults.runnerName Json.text? runner }
  | _ => none

def read? (t : Text) : Option Config := (Json.read? t).bind ofJson?

def toJson (config : Config) : Json :=
  Json.ofMembers
    [("indent_unit", Json.ofText config.indentUnit),
     ("fail_status", Json.ofText config.failStatus),
     ("tree_placeholder", Json.ofText config.treePlaceholder),
     ("class_name", Json.ofText config.className),
     ("runner_name", Json.ofText config.runnerName)]

end FailureReplay.Config
