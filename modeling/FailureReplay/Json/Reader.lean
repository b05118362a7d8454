import FailureReplay.Json.Basic

/-!
# Reading JSON

The strict grammar: four white-space characters, no trailing commas, no raw
control characters in strings, and nothing after the document.
-/

namespace FailureReplay.Json

/-- The white space between tokens. -/
def isSpace (c : Char) : Bool := c = ' ' || c = '\t' || c = '\n' || c = '\r'

def skipSpace (t : Text) : Text := t.dropWhile isSpace

/-! ## Strings -/

/-- A character of a string as written: itself, or the code unit of a `\u` escape. -/
inductive Unit16 where
  | char (c : Char)
  | code (unit : Nat)
  deriving DecidableEq, Repr

def hexValue? (c : Char) : Option Nat :=
  if '0' ≤ c ∧ c ≤ '9' then some (c.toNat - 48)
  else if 'a' ≤ c ∧ c ≤ 'f' then some (c.toNat - 87)
  else if 'A' ≤ c ∧ c ≤ 'F' then some (c.toNat - 55)
  else none

/-- The code unit of four hexadecimal digits. -/
def codeUnit? (a b c d : Char) : Option Nat := do
  let a ← hexValue? a
  let b ← hexValue? b
  let c ← hexValue? c
  let d ← hexValue? d
  return ((a * 16 + b) * 16 + c) * 16 + d

/-- The character of a one-letter escape. -/
def simpleEscape? (c : Char) : Option Char :=
  if c = '"' then some '"'
  else if c = '\\' then some '\\'
  else if c = '/' then some '/'
  else if c = 'b' then some (Char.ofNat 0x8)
  else if c = 'f' then some (Char.ofNat 0xC)
  else if c = 'n' then some '\n'
  else if c = 'r' then some '\r'
  else if c = 't' then some '\t'
  else none

/-- The rest of a string after its opening quote, and what follows the closing one. -/
def readUnits? : Text → Option (List Unit16 × Text)
  | [] => none
  | c :: rest =>
    if c = '"' then some ([], rest)
    else if c.toNat < 0x20 then none
    else if c = '\\' then
      match rest with
      | 'u' :: h₁ :: h₂ :: h₃ :: h₄ :: rest => do
        let unit ← codeUnit? h₁ h₂ h₃ h₄
        let (units, rest) ← readUnits? rest
        return (.code unit :: units, rest)
      | e :: rest => do
        let c ← simpleEscape? e
        let (units, rest) ← readUnits? rest
        return (.char c :: units, rest)
      | [] => none
    else do
      let (units, rest) ← readUnits? rest
      return (.char c :: units, rest)

def isHighSurrogate (unit : Nat) : Bool := 0xD800 ≤ unit && unit ≤ 0xDBFF

def isLowSurrogate (unit : Nat) : Bool := 0xDC00 ≤ unit && unit ≤ 0xDFFF

def pairChar (high low : Nat) : Char :=
  Char.ofNat (0x10000 + (high - 0xD800) * 0x400 + (low - 0xDC00))

/-- The text that a string denotes, unless a surrogate stands alone. -/
def unitsText? : List Unit16 → Option Text
  | [] => some []
  | .char c :: rest => (unitsText? rest).map (c :: ·)
  | .code unit :: .code low :: rest =>
    if isHighSurrogate unit then
      if isLowSurrogate low then (unitsText? rest).map (pairChar unit low :: ·) else none
    else if isLowSurrogate unit then none
    else (unitsText? (.code low :: rest)).map (Char.ofNat unit :: ·)
  | .code unit :: rest =>
    if isHighSurrogate unit || isLowSurrogate unit then none
    else (unitsText? rest).map (Char.ofNat unit :: ·)

/-- A string after its opening quote, and what follows it. -/
def readString? (t : Text) : Option (Option Text × Text) :=
  (readUnits? t).map fun (units, rest) => (unitsText? units, rest)

/-! ## Numbers -/

def digitsValue (digits : Text) : Nat :=
  digits.foldl (fun n c => n * 10 + (c.toNat - 48)) 0

/-- Digits without a superfluous leading zero, and what follows them. -/
def readWhole? (t : Text) : Option (Text × Text) :=
  match t with
  | '0' :: rest => some (['0'], rest)
  | _ => Text.run? Char.isDigit t

def readFraction? : Text → Option (Text × Text)
  | '.' :: rest => Text.run? Char.isDigit rest
  | t => some ([], t)

def readExponent? : Text → Option (Int × Text)
  | c :: rest =>
    if c = 'e' || c = 'E' then
      match rest with
      | '-' :: rest => (Text.run? Char.isDigit rest).map fun (ds, t) => (-(digitsValue ds : Int), t)
      | '+' :: rest => (Text.run? Char.isDigit rest).map fun (ds, t) => ((digitsValue ds : Int), t)
      | rest => (Text.run? Char.isDigit rest).map fun (ds, t) => ((digitsValue ds : Int), t)
    else some (0, c :: rest)
  | [] => some (0, [])

/-- An unsigned number, and what follows it. -/
def readUnsigned? (t : Text) : Option (Decimal × Text) := do
  let (whole, t) ← readWhole? t
  let (fraction, t) ← readFraction? t
  let (exponent, t) ← readExponent? t
  return (⟨digitsValue (whole ++ fraction), exponent - fraction.length⟩, t)

/-- A number, and what follows it. -/
def readNumber? : Text → Option (Decimal × Text)
  | '-' :: rest => (readUnsigned? rest).map fun (d, t) => (⟨-d.coefficient, d.exponent⟩, t)
  | t => readUnsigned? t

/-! ## Values -/

mutual

/-- A value at the front of a text, and what follows it. -/
def readValue? : (fuel : Nat) → Text → Option (Json × Text)
  | 0, _ => none
  | fuel + 1, t =>
    match skipSpace t with
    | '"' :: rest => (readString? rest).map fun (text, rest) => (.string text, rest)
    | '[' :: rest =>
      match skipSpace rest with
      | ']' :: rest => some (.array [], rest)
      | rest => (readItems? fuel rest).map fun (items, rest) => (.array items, rest)
    | '{' :: rest =>
      match skipSpace rest with
      | '}' :: rest => some (.object [], rest)
      | rest => (readMembers? fuel rest).map fun (members, rest) => (.object members, rest)
    | 't' :: 'r' :: 'u' :: 'e' :: rest => some (.bool true, rest)
    | 'f' :: 'a' :: 'l' :: 's' :: 'e' :: rest => some (.bool false, rest)
    | 'n' :: 'u' :: 'l' :: 'l' :: rest => some (.null, rest)
    | rest => (readNumber? rest).map fun (value, rest) => (.number value, rest)

/-- One or more items up to the closing bracket, and what follows it. -/
def readItems? : (fuel : Nat) → Text → Option (List Json × Text)
  | 0, _ => none
  | fuel + 1, t => do
    let (item, t) ← readValue? fuel t
    match skipSpace t with
    | ',' :: rest =>
      let (items, rest) ← readItems? fuel rest
      return (item :: items, rest)
    | ']' :: rest => return ([item], rest)
    | _ => none

/-- One or more members up to the closing brace, and what follows it. -/
def readMembers? : (fuel : Nat) → Text → Option (List (Option Text × Json) × Text)
  | 0, _ => none
  | fuel + 1, t =>
    match skipSpace t with
    | '"' :: rest => do
      let (key, rest) ← readString? rest
      match skipSpace rest with
      | ':' :: rest =>
        let (value, rest) ← readValue? fuel rest
        match skipSpace rest with
        | ',' :: rest =>
          let (members, rest) ← readMembers? fuel rest
          return ((key, value) :: members, rest)
        | '}' :: rest => return ([(key, value)], rest)
        | _ => none
      | _ => none
    | _ => none

end

/-- Read a whole text as one document; every level of nesting takes at most two steps of fuel. -/
def read? (t : Text) : Option Json :=
  match readValue? (2 * t.length + 2) t with
  | some (value, rest) => if (skipSpace rest).isEmpty then some value else none
  | none => none

end FailureReplay.Json
