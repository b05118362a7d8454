import FailureReplay.Text.Basic

/-!
# JSON documents

A document as it was written: members keep their order and may repeat a key, and
numbers keep their exact decimal value. `Json.settle?` gives the value that a
document denotes.
-/

namespace FailureReplay

/-- The number `coefficient * 10 ^ exponent`. -/
structure Decimal where
  coefficient : Int
  exponent : Int
  deriving DecidableEq, Repr

/-- A JSON document. A string whose escapes name half of a surrogate pair denotes no text. -/
inductive Json where
  | null
  | bool (value : Bool)
  | number (value : Decimal)
  | string (text : Option Text)
  | array (items : List Json)
  | object (members : List (Option Text × Json))
  deriving Repr

namespace Json

def ofText (t : Text) : Json := .string (some t)

def ofInt (n : Int) : Json := .number ⟨n, 0⟩

def ofNat (n : Nat) : Json := ofInt (Int.ofNat n)

/-- An object with the given keys. -/
def ofMembers (members : List (String × Json)) : Json :=
  .object (members.map fun (key, value) => (some key.toList, value))

def text? : Json → Option Text
  | .string text => text
  | _ => none

def items? : Json → Option (List Json)
  | .array items => some items
  | _ => none

/-- Every member with a given key, in order. -/
def valuesOf (key : Text) (members : List (Option Text × Json)) : List Json :=
  members.filterMap fun (k, value) => if k = some key then some value else none

/-- The value of a named member, the last one winning. -/
def get? (key : String) : Json → Option Json
  | .object members => (valuesOf key.toList members).getLast?
  | _ => none

end Json
end FailureReplay
