import FailureReplay.Expectation
import FailureReplay.Json.Record
import FailureReplay.Signature
import FailureReplay.Warning

/-!
# JSON forms of types, signatures and warnings

A type is an object with a `kind` and, where the kind needs it, an `of`.
-/

namespace FailureReplay

namespace DeclaredType

/-- An object with a kind and no content. -/
def unitForm (kind : String) : Json := Json.ofMembers [("kind", Json.ofText kind.toList)]

/-- An object with a kind and its content. -/
def contentForm (kind : String) (content : Json) : Json :=
  Json.ofMembers [("kind", Json.ofText kind.toList), ("of", content)]

def toJson : DeclaredType → Json
  | void => unitForm "void"
  | primitive kind => contentForm "primitive" (Json.ofText kind.keyword)
  | array element => contentForm "array" element.toJson
  | text => unitForm "text"
  | linkedList => unitForm "linked_list_ref"
  | tree => unitForm "tree_ref"
  | other name => contentForm "other" (Json.ofText name)

/-- A type whose kind takes no content: `of` is left out or null. -/
def unitType? (type : DeclaredType) (content : Option Json) : Option DeclaredType :=
  match content with
  | none | some .null => some type
  | _ => none

/-- A type of a kind other than `array`. -/
def scalarType? (kind : Text) (content : Option Json) : Option DeclaredType :=
  if kind = "void".toList then unitType? .void content
  else if kind = "text".toList then unitType? .text content
  else if kind = "linked_list_ref".toList then unitType? .linkedList content
  else if kind = "tree_ref".toList then unitType? .tree content
  else if kind = "primitive".toList then
    ((content.bind Json.text?).bind Primitive.ofKeyword?).map .primitive
  else if kind = "other".toList then (content.bind Json.text?).map .other
  else none

mutual

def ofJson? : Json → Option DeclaredType
  | .object members => do
    let kind ← (Json.get? "kind" (.object members)).bind Json.text?
    if kind = "array".toList then (elementType? members).map .array
    else scalarType? kind (Json.get? "of" (.object members))
  | _ => none

/-- Decode the member `of` as a type. -/
def elementType? : List (Option Text × Json) → Option DeclaredType
  | [] => none
  | (key, value) :: members =>
    if key = some "of".toList then ofJson? value else elementType? members

end

end DeclaredType

namespace Signature

def toJson (s : Signature) : Json :=
  Json.ofMembers
    [("name", Json.ofText s.name),
     ("return_type", s.returnType.toJson),
     ("param_types", .array (s.paramTypes.map DeclaredType.toJson))]

def ofJson? (j : Json) : Option Signature := do
  match ← j.fields? ["name", "return_type", "param_types"] with
  | [some name, some returnType, some paramTypes] =>
    return { name := ← name.text?
             returnType := ← DeclaredType.ofJson? returnType
             paramTypes := ← Json.listOf DeclaredType.ofJson? paramTypes }
  | _ => none

end Signature

/-- Encode a warning, its kind first. -/
def Warning.toJson (w : Warning) : Json :=
  let kind := ("kind", Json.ofText w.kind)
  match w with
  | .missingActualValue row => Json.ofMembers [kind, ("row", Json.ofNat row)]
  | .unsupportedParameter position typeName token =>
    Json.ofMembers
      [kind, ("position", Json.ofNat position), ("type_name", Json.ofText typeName),
       ("token", Json.ofText token)]
  | .unsupportedReturn typeName => Json.ofMembers [kind, ("type_name", Json.ofText typeName)]
  | .malformedArgument position typeName token reason =>
    Json.ofMembers
      [kind, ("position", Json.ofNat position), ("type_name", Json.ofText typeName),
       ("token", Json.ofText token), ("reason", Json.ofText reason)]

end FailureReplay
