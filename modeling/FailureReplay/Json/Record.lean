import FailureReplay.Json.Basic

/-!
# Records in JSON

A record is written as an object, or as an array of its fields in order with
trailing ones left out. Unknown keys are ignored; a known key that occurs twice
is refused, and so is a key that denotes no text.
-/

namespace FailureReplay.Json

/-- The value of a field, if it is given; `none` if it is given twice. -/
def field? (members : List (Option Text × Json)) (name : String) : Option (Option Json) :=
  match valuesOf name.toList members with
  | [] => some none
  | [value] => some (some value)
  | _ => none

/-- The values of the named fields, each of them given or left out. -/
def fields? (names : List String) : Json → Option (List (Option Json))
  | .object members =>
    if members.all fun member => member.1.isSome then names.mapM (field? members) else none
  | .array items =>
    if items.length ≤ names.length then
      some (items.map some ++ List.replicate (names.length - items.length) none)
    else none
  | _ => none

/-- A field decoded by `decode`; a field left out has the value `default`. -/
def decodeOr {α : Type} (default : α) (decode : Json → Option α) : Option Json → Option α
  | none => some default
  | some value => decode value

/-- Every item of an array decoded by `decode`. -/
def listOf {α : Type} (decode : Json → Option α) (j : Json) : Option (List α) :=
  j.items?.bind fun items => items.mapM decode

def nullable {α : Type} (decode : Json → Option α) : Json → Option (Option α)
  | .null => some none
  | value => (decode value).map some

end FailureReplay.Json
