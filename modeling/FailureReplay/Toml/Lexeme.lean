import FailureReplay.Json.Reader

/-!
# TOML lexemes

Blanks, comments and line breaks; strings on one line or on several; keys.
-/

namespace FailureReplay.Toml

/-! ## Layout -/

def isSpace (c : Char) : Bool := c = ' ' || c = '\t'

def skipSpace (t : Text) : Text := t.dropWhile isSpace

/-- A control character, which neither comments nor strings may hold. -/
def isControl (c : Char) : Bool := (c.toNat < 0x20 && c != '\t') || c.toNat = 0x7F

/-- A line break at the front of a text. -/
def newline? : Text → Option Text
  | '\n' :: rest => some rest
  | '\r' :: '\n' :: rest => some rest
  | _ => none

def skipComment : Text → Text
  | '#' :: rest => rest.dropWhile fun c => !isControl c
  | t => t

/-- The end of a line: blanks, a comment, and a line break or the end of the text. -/
def endLine? (t : Text) : Option Text :=
  match skipComment (skipSpace t) with
  | [] => some []
  | rest => newline? rest

/-- Drop blanks, comments and line breaks. -/
def skipLayout : (fuel : Nat) → Text → Text
  | 0, t => t
  | fuel + 1, t =>
    match newline? (skipComment (skipSpace t)) with
    | some rest => skipLayout fuel rest
    | none => skipSpace t

/-! ## Strings and keys -/

def hexValue? (digits : Text) : Option Nat :=
  digits.foldlM (fun n c => (Json.hexValue? c).map fun d => n * 16 + d) 0

/-- The character with a given code point, unless it is a surrogate or out of range. -/
def scalar? (n : Nat) : Option Char :=
  if n < 0xD800 || (0xDFFF < n && n < 0x110000) then some (Char.ofNat n) else none

/-- The character of a one-letter escape. -/
def simpleEscape? (c : Char) : Option Char := if c = '/' then none else Json.simpleEscape? c

/-- The character of an escape after its backslash, and what follows it. -/
def readEscape? : Text → Option (Char × Text)
  | 'u' :: a :: b :: c :: d :: rest =>
    ((hexValue? [a, b, c, d]).bind scalar?).map (·, rest)
  | 'U' :: a :: b :: c :: d :: e :: f :: g :: h :: rest =>
    ((hexValue? [a, b, c, d, e, f, g, h]).bind scalar?).map (·, rest)
  | c :: rest => (simpleEscape? c).map (·, rest)
  | [] => none

/-- The rest of a basic string after its opening quote, and what follows it. -/
def readBasic? : (fuel : Nat) → Text → Option (Text × Text)
  | 0, _ | _, [] => none
  | fuel + 1, c :: rest =>
    if c = '"' then some ([], rest)
    else if isControl c then none
    else do
      let (char, rest) ← if c = '\\' then readEscape? rest else some (c, rest)
      let (text, rest) ← readBasic? fuel rest
      return (char :: text, rest)

def apostrophe : Char := Char.ofNat 39

/-- The rest of a literal string after its opening quote, and what follows it. -/
def readLiteral? (t : Text) : Option (Text × Text) :=
  match t.dropWhile fun c => c != apostrophe && !isControl c with
  | c :: rest =>
    if c = apostrophe then some (t.takeWhile (· != apostrophe), rest) else none
  | [] => none

/-- The end of a string on several lines: three quotes, before which one or two more stand for
themselves. -/
def closing? (quote : Char) : Text → Option (Text × Text)
  | a :: b :: c :: rest =>
    if a = quote && b = quote && c = quote then
      match rest with
      | d :: e :: rest' =>
        if d = quote && e = quote then some ([quote, quote], rest')
        else if d = quote then some ([quote], e :: rest')
        else some ([], rest)
      | [d] => if d = quote then some ([quote], []) else some ([], rest)
      | [] => some ([], [])
    else none
  | _ => none

def skipBlank : (fuel : Nat) → Text → Text
  | 0, t => t
  | fuel + 1, t =>
    match newline? (skipSpace t) with
    | some rest => skipBlank fuel rest
    | none => skipSpace t

/-- What follows a line break that a backslash hides, with all blanks and line breaks after it. -/
def hiddenBreak? (t : Text) : Option Text := (newline? (skipSpace t)).map (skipBlank t.length)

/-- The rest of a string on several lines after its opening quotes, and what follows it. A line
break in it is a line feed, however it is written. -/
def readLong? (quote : Char) (escapes : Bool) : (fuel : Nat) → Text → Option (Text × Text)
  | 0, _ | _, [] => none
  | fuel + 1, c :: rest =>
    match closing? quote (c :: rest) with
    | some ending => some ending
    | none => do
      if let some rest := newline? (c :: rest) then
        let (text, rest) ← readLong? quote escapes fuel rest
        return ('\n' :: text, rest)
      else if isControl c then none
      else if escapes && c = '\\' then
        match hiddenBreak? rest with
        | some rest => readLong? quote escapes fuel rest
        | none =>
          let (char, rest) ← readEscape? rest
          let (text, rest) ← readLong? quote escapes fuel rest
          return (char :: text, rest)
      else
        let (text, rest) ← readLong? quote escapes fuel rest
        return (c :: text, rest)

/-- A string on one line at the front of a text, and what follows it. -/
def readShort? : Text → Option (Text × Text)
  | [] => none
  | c :: rest =>
    if c = '"' then readBasic? (rest.length + 1) rest
    else if c = apostrophe then readLiteral? rest
    else none

/-- A string at the front of a text, and what follows it. A line break right after three opening
quotes does not count. -/
def readString? (t : Text) : Option (Text × Text) :=
  match t with
  | a :: b :: c :: rest =>
    if (a = '"' || a = apostrophe) && b = a && c = a then
      readLong? a (a = '"') (t.length + 1) ((newline? rest).getD rest)
    else readShort? t
  | t => readShort? t

def isBareKey (c : Char) : Bool := c.isAlphanum || c = '_' || c = '-'

def readName? (t : Text) : Option (Text × Text) :=
  match t.head? with
  | some c => if c = '"' || c = apostrophe then readShort? t else Text.run? isBareKey t
  | none => none

/-- The names of a dotted key, and what follows it. -/
def readKey? : (fuel : Nat) → Text → Option (List Text × Text)
  | 0, _ => none
  | fuel + 1, t => do
    let (name, rest) ← readName? (skipSpace t)
    match skipSpace rest with
    | '.' :: rest =>
      let (names, rest) ← readKey? fuel rest
      return (name :: names, rest)
    | rest => return ([name], rest)

end FailureReplay.Toml
