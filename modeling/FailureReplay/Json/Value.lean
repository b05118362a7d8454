import FailureReplay.Json.Basic

/-!
# JSON values

The value a document denotes: of members with one key the last one counts,
strings denote texts, numbers are within the range of a double, and nesting goes
at most 127 levels deep.
-/

namespace FailureReplay

/-- The least magnitude that rounds to infinity as a double. -/
def Decimal.overflowBound : Nat := Nat.pow 2 1024 - Nat.pow 2 970

/-- Whether a number is beyond the range of a double. Its magnitude lies between
`10 ^ (k - 1)` and `10 ^ k`, where `k` is the number of digits plus the exponent. -/
def Decimal.overflows (d : Decimal) : Bool :=
  let digits : Int := (Text.decimal d.coefficient.natAbs).length
  if d.coefficient = 0 then false
  else if digits + d.exponent ≤ 308 then false
  else if 309 < digits + d.exponent then true
  else if 0 ≤ d.exponent then
    decide (overflowBound ≤ d.coefficient.natAbs * Nat.pow 10 d.exponent.toNat)
  else decide (overflowBound * Nat.pow 10 (-d.exponent).toNat ≤ d.coefficient.natAbs)

namespace Json

/-- The deepest nesting of arrays and objects in a value. -/
def depthLimit : Nat := 127

/-- Drop every member whose key occurs again later. -/
def lastWins : List (Option Text × Json) → List (Option Text × Json)
  | [] => []
  | (key, value) :: rest =>
    if rest.any fun member => member.1 == key then lastWins rest else (key, value) :: lastWins rest

mutual

/-- The value of a document, with `levels` of nesting left. -/
def settleWithin (levels : Nat) : Json → Option Json
  | .null => some .null
  | .bool value => some (.bool value)
  | .number value => if value.overflows then none else some (.number value)
  | .string none => none
  | .string (some text) => some (.string (some text))
  | .array items =>
    match levels with
    | 0 => none
    | levels + 1 => (settleItems levels items).map .array
  | .object members =>
    match levels with
    | 0 => none
    | levels + 1 => (settleMembers levels members).map fun members => .object (lastWins members)

def settleItems (levels : Nat) : List Json → Option (List Json)
  | [] => some []
  | item :: items => do
    let item ← settleWithin levels item
    let items ← settleItems levels items
    return item :: items

def settleMembers (levels : Nat) :
    List (Option Text × Json) → Option (List (Option Text × Json))
  | [] => some []
  | (none, _) :: _ => none
  | (some key, value) :: members => do
    let value ← settleWithin levels value
    let members ← settleMembers levels members
    return (some key, value) :: members

end

/-- The value a document denotes. -/
def settle? (j : Json) : Option Json := settleWithin depthLimit j

end Json
end FailureReplay
