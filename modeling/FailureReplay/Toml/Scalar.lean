import FailureReplay.Json.Reader
import FailureReplay.Json.Value

/-!
# TOML scalars

Integers, floats, booleans, dates and times, each written without blanks, except
that a space may divide a date and a time.
-/

namespace FailureReplay.Toml

/-- A character of a number, date or time. -/
def isScalarChar (c : Char) : Bool :=
  c.isAlphanum || c = '_' || c = '+' || c = '-' || c = '.' || c = ':'

def digits? (isDigit : Char → Bool) (t : Text) : Option Text :=
  if (t.splitOn '_').all fun group => !group.isEmpty && group.all isDigit then
    some (t.filter (· != '_'))
  else none

/-- Decimal digits without a superfluous leading zero. -/
def whole? (t : Text) : Option Text :=
  match digits? Char.isDigit t with
  | some ('0' :: _ :: _) => none
  | ds => ds

/-- The value of digits to a base. -/
def baseValue (base : Nat) (digits : Text) : Nat :=
  digits.foldl (fun n c => n * base + (Json.hexValue? c).getD 0) 0

/-- A number without its sign. -/
def unsigned : Text → Bool × Text
  | '-' :: rest => (true, rest)
  | '+' :: rest => (false, rest)
  | t => (false, t)

def integer? (t : Text) : Option Int := do
  let value ← match t with
    | '0' :: 'x' :: rest =>
      (digits? (fun c => (Json.hexValue? c).isSome) rest).map fun ds => (baseValue 16 ds : Int)
    | '0' :: 'o' :: rest =>
      (digits? (fun c => '0' ≤ c && c ≤ '7') rest).map fun ds => (baseValue 8 ds : Int)
    | '0' :: 'b' :: rest =>
      (digits? (fun c => c = '0' || c = '1') rest).map fun ds => (baseValue 2 ds : Int)
    | t =>
      (whole? (unsigned t).2).map fun ds =>
        if (unsigned t).1 then -(baseValue 10 ds : Int) else (baseValue 10 ds : Int)
  if -9223372036854775808 ≤ value ∧ value ≤ 9223372036854775807 then some value else none

/-- The exponent part of a float: absent or an optionally signed integer. -/
def exponent? : Text → Option Int
  | [] => some 0
  | _ :: rest =>
    (digits? Char.isDigit (unsigned rest).2).map fun ds =>
      if (unsigned rest).1 then -(baseValue 10 ds : Int) else (baseValue 10 ds : Int)

/-- The fraction part of a float: absent or digits after a point. -/
def fraction? : Text → Option Text
  | [] => some []
  | _ :: rest => digits? Char.isDigit rest

/-- A float within the range of a double; it has a point or an exponent. -/
def float? (t : Text) : Option Json := do
  let body := (unsigned t).2
  if body = "inf".toList || body = "nan".toList then return .null
  let isExponent (c : Char) : Bool := c = 'e' || c = 'E'
  if !body.any fun c => c = '.' || isExponent c then none
  let mantissa := body.takeWhile fun c => !isExponent c
  let whole ← whole? (mantissa.takeWhile (· != '.'))
  let fraction ← fraction? (mantissa.dropWhile (· != '.'))
  let exponent ← exponent? (body.dropWhile fun c => !isExponent c)
  let value : Decimal := ⟨baseValue 10 (whole ++ fraction), exponent - fraction.length⟩
  if value.overflows then none else return .number value

def twoDigits? (least greatest : Nat) (a b : Char) : Option Nat :=
  if a.isDigit && b.isDigit then
    let n := (a.toNat - 48) * 10 + (b.toNat - 48)
    if least ≤ n && n ≤ greatest then some n else none
  else none

def daysIn (year month : Nat) : Nat :=
  if month = 2 then
    if year % 4 = 0 && (year % 100 != 0 || year % 400 = 0) then 29 else 28
  else if month = 4 || month = 6 || month = 9 || month = 11 then 30
  else 31

/-- A date at the front of a text, and what follows it. -/
def skipDate? : Text → Option Text
  | y₁ :: y₂ :: y₃ :: y₄ :: '-' :: m₁ :: m₂ :: '-' :: d₁ :: d₂ :: rest => do
    let century ← twoDigits? 0 99 y₁ y₂
    let year ← twoDigits? 0 99 y₃ y₄
    let month ← twoDigits? 1 12 m₁ m₂
    let _ ← twoDigits? 1 (daysIn (century * 100 + year) month) d₁ d₂
    return rest
  | _ => none

/-- A fraction of a second, if there is one, and what follows it. -/
def skipSecondFraction? : Text → Option Text
  | '.' :: rest => (Text.run? Char.isDigit rest).map fun (_, rest) => rest
  | t => some t

/-- A time of day at the front of a text, and what follows it. -/
def skipTime? : Text → Option Text
  | h₁ :: h₂ :: ':' :: m₁ :: m₂ :: ':' :: s₁ :: s₂ :: rest => do
    let _ ← twoDigits? 0 23 h₁ h₂
    let _ ← twoDigits? 0 59 m₁ m₂
    let _ ← twoDigits? 0 60 s₁ s₂
    skipSecondFraction? rest
  | _ => none

/-- An offset from universal time at the end of a text, or nothing. -/
def isOffset : Text → Bool
  | [] | ['Z'] | ['z'] => true
  | [sign, h₁, h₂, ':', m₁, m₂] =>
    (sign = '+' || sign = '-') && (twoDigits? 0 23 h₁ h₂).isSome && (twoDigits? 0 59 m₁ m₂).isSome
  | _ => false

/-- A date, a time, or both. -/
def isDateTime (t : Text) : Bool :=
  match skipDate? t with
  | some [] => true
  | some (c :: rest) =>
    (c = 'T' || c = 't' || c = ' ') && ((skipTime? rest).map isOffset).getD false
  | none => skipTime? t = some []

/-- A date or time, which is no string. -/
def dateValue (t : Text) : Json := Json.ofMembers [("date", Json.ofText t)]

/-- The text of a number, date or time, and what follows it; a space may divide date and time. -/
def scalarText (t : Text) : Text × Text :=
  let first := t.takeWhile isScalarChar
  match t.dropWhile isScalarChar with
  | ' ' :: d :: rest =>
    if skipDate? first = some [] && d.isDigit then
      (first ++ ' ' :: (d :: rest).takeWhile isScalarChar, (d :: rest).dropWhile isScalarChar)
    else (first, ' ' :: d :: rest)
  | rest => (first, rest)

/-- The value of a number, date, time or boolean. -/
def scalarValue? (t : Text) : Option Json :=
  if t = "true".toList then some (.bool true)
  else if t = "false".toList then some (.bool false)
  else if isDateTime t then some (dateValue t)
  else ((integer? t).map Json.ofInt).or (float? t)

end FailureReplay.Toml
