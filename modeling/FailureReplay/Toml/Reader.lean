import FailureReplay.Toml.Lexeme
import FailureReplay.Toml.Scalar
import FailureReplay.Toml.Table

/-!
# Reading TOML

A TOML document is read into the JSON value it denotes: bare, quoted and dotted
keys, strings of all four kinds, integers, floats, booleans, dates and times,
arrays, inline tables, and headers of tables and of lists of tables.
-/

namespace FailureReplay.Toml

/-! ## Values -/

mutual

def readValue? : (fuel : Nat) → Text → Option (Json × Text)
  | 0, _ => none
  | fuel + 1, t =>
    match t with
    | [] => none
    | c :: rest =>
      if c = '"' || c = apostrophe then
        (readString? t).map fun (text, rest) => (Json.ofText text, rest)
      else if c = '[' then
        (readItems? fuel (skipLayout t.length rest)).map fun (items, rest) => (.array items, rest)
      else if c = '{' then
        match skipSpace rest with
        | '}' :: rest => some (.object [], rest)
        | rest => (readPairs? fuel {} rest).map fun (table, rest) => (table.root, rest)
      else (scalarValue? (scalarText t).1).map fun value => (value, (scalarText t).2)

def readItems? : (fuel : Nat) → Text → Option (List Json × Text)
  | 0, _ => none
  | _ + 1, ']' :: rest => some ([], rest)
  | fuel + 1, t => do
    let (item, rest) ← readValue? fuel t
    match skipLayout t.length rest with
    | ',' :: rest =>
      let (items, rest) ← readItems? fuel (skipLayout t.length rest)
      return (item :: items, rest)
    | ']' :: rest => return ([item], rest)
    | _ => none

/-- Pairs of an inline table up to its closing brace, and what follows it. -/
def readPairs? : (fuel : Nat) → Table → Text → Option (Table × Text)
  | 0, _, _ => none
  | fuel + 1, table, t => do
    let (names, rest) ← readKey? t.length t
    match rest with
    | '=' :: rest =>
      let (value, rest) ← readValue? fuel (skipSpace rest)
      let table ← table.assign? [] names value
      match skipSpace rest with
      | ',' :: rest => readPairs? fuel table rest
      | '}' :: rest => return (table, rest)
      | _ => none
    | _ => none

end

/-! ## Documents -/

/-- The lines of a document, in the table at `base`. -/
def readLines? : (fuel : Nat) → Table → (base : Place) → Text → Option Table
  | 0, _, _, _ => none
  | fuel + 1, table, base, t =>
    match skipSpace t with
    | [] => some table
    | '[' :: '[' :: rest => do
      let (names, rest) ← readKey? rest.length rest
      match rest with
      | ']' :: ']' :: rest =>
        let (table, base) ← table.openItem? names
        readLines? fuel table base (← endLine? rest)
      | _ => none
    | '[' :: rest => do
      let (names, rest) ← readKey? rest.length rest
      match rest with
      | ']' :: rest =>
        let (table, base) ← table.openTable? names
        readLines? fuel table base (← endLine? rest)
      | _ => none
    | rest =>
      match endLine? rest with
      | some rest => readLines? fuel table base rest
      | none => do
        let (names, rest) ← readKey? rest.length rest
        match rest with
        | '=' :: rest =>
          let (value, rest) ← readValue? (2 * rest.length + 2) (skipSpace rest)
          readLines? fuel (← table.assign? base names value) base (← endLine? rest)
        | _ => none

/-- Read a whole text as a document; a byte order mark may precede it. -/
def read? (t : Text) : Option Json :=
  let body := match t with
    | c :: rest => if c.toNat = 0xFEFF then rest else t
    | [] => []
  (readLines? (t.length + 1) {} [] body).map Table.root

end FailureReplay.Toml
