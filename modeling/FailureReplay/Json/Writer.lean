import FailureReplay.Json.Basic

/-!
# Writing JSON

The compact form on one line, and the indented form with two spaces a level.
-/

namespace FailureReplay.Json

def escapeChar (c : Char) : Text :=
  if c = '"' then ['\\', '"']
  else if c = '\\' then ['\\', '\\']
  else if c = '\n' then ['\\', 'n']
  else if c = '\r' then ['\\', 'r']
  else if c = '\t' then ['\\', 't']
  else if c.toNat = 0x8 then ['\\', 'b']
  else if c.toNat = 0xC then ['\\', 'f']
  else if c.toNat < 0x20 then
    "\\u00".toList ++ [Nat.digitChar (c.toNat / 16), Nat.digitChar (c.toNat % 16)]
  else [c]

def writeText (t : Text) : Text := '"' :: t.flatMap escapeChar ++ ['"']

/-- A string; one that denotes no text is written as a lone surrogate. -/
def writeString : Option Text → Text
  | some t => writeText t
  | none => "\"\\ud800\"".toList

def writeInt (n : Int) : Text :=
  if n < 0 then '-' :: Text.decimal n.natAbs else Text.decimal n.natAbs

/-- A number, with an exponent unless it is zero. -/
def writeNumber (d : Decimal) : Text :=
  if d.exponent = 0 then writeInt d.coefficient
  else writeInt d.coefficient ++ 'e' :: writeInt d.exponent

mutual

def compact : Json → Text
  | .null => "null".toList
  | .bool true => "true".toList
  | .bool false => "false".toList
  | .number value => writeNumber value
  | .string text => writeString text
  | .array items => '[' :: Text.join "," (compactItems items) ++ [']']
  | .object members => '{' :: Text.join "," (compactMembers members) ++ ['}']

def compactItems : List Json → List Text
  | [] => []
  | item :: items => compact item :: compactItems items

def compactMembers : List (Option Text × Json) → List Text
  | [] => []
  | (key, value) :: members => (writeString key ++ ':' :: compact value) :: compactMembers members

end

/-- A line feed and the indentation of a level. -/
def newline (level : Nat) : Text := '\n' :: List.replicate (2 * level) ' '

/-- Entries on lines of their own between brackets; none at all gives empty brackets. -/
def block (opening closing : Char) (level : Nat) (entries : List Text) : Text :=
  match entries with
  | [] => [opening, closing]
  | entries =>
    opening :: newline (level + 1) ++
      List.intercalate (',' :: newline (level + 1)) entries ++ newline level ++ [closing]

mutual

def indented (level : Nat) : Json → Text
  | .null => "null".toList
  | .bool true => "true".toList
  | .bool false => "false".toList
  | .number value => writeNumber value
  | .string text => writeString text
  | .array items => block '[' ']' level (indentedItems (level + 1) items)
  | .object members => block '{' '}' level (indentedMembers (level + 1) members)

def indentedItems (level : Nat) : List Json → List Text
  | [] => []
  | item :: items => indented level item :: indentedItems level items

def indentedMembers (level : Nat) : List (Option Text × Json) → List Text
  | [] => []
  | (key, value) :: members =>
    (writeString key ++ ": ".toList ++ indented level value) :: indentedMembers level members

end

def pretty (j : Json) : Text := indented 0 j

end FailureReplay.Json
