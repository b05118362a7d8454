import FailureReplay.Json.Basic

/-!
# TOML tables

A table remembers how every place in it came to be taken, so that no key is given
twice and no table is opened twice. Names that lead through a list of tables lead
through its last table.
-/

namespace FailureReplay.Toml

/-- One step down from a place in the document. -/
inductive Step where
  /-- To the member of a table. -/
  | name (key : Text)
  /-- To the table at an index of a list of tables. -/
  | item (index : Nat)
  deriving DecidableEq, Repr

abbrev Place := List Step

/-- How a place in the document came to be taken. -/
inductive Origin where
  /-- A value was given. -/
  | value
  /-- A header named the table. -/
  | header
  /-- A header named a table inside it. -/
  | above
  /-- A dotted key went through it. -/
  | dotted
  /-- Headers added this many tables to the list. -/
  | tables (count : Nat)
  deriving DecidableEq, Repr

/-- A table with the origin of every place in it. -/
structure Table where
  root : Json := .object []
  taken : List (Place × Origin) := []

def setMember (key : Text) (change : Option Json → Json) :
    List (Option Text × Json) → List (Option Text × Json)
  | [] => [(some key, change none)]
  | (k, value) :: rest =>
    if k = some key then (k, change (some value)) :: rest
    else (k, value) :: setMember key change rest

def setItem (change : Option Json → Json) : (index : Nat) → List Json → List Json
  | _, [] => [change none]
  | 0, item :: rest => change (some item) :: rest
  | index + 1, item :: rest => item :: setItem change index rest

/-- Put a value at a place, making tables and lists on the way. -/
def setAt (value : Json) : Place → Option Json → Json
  | [], _ => value
  | .name key :: rest, some (.object members) => .object (setMember key (setAt value rest) members)
  | .name key :: rest, _ => .object [(some key, setAt value rest none)]
  | .item index :: rest, some (.array items) => .array (setItem (setAt value rest) index items)
  | .item _ :: rest, _ => .array [setAt value rest none]

/-- The place that names lead to, and the origin of the table that holds it. Tables on the way
are marked as taken; those with an origin in `refused` cannot be passed. -/
def Table.descend? (refused : List Origin) (mark : Origin) (t : Table) (holder : Origin)
    (base : Place) : List Text → Option (Table × Origin × Place)
  | [] => none
  | [key] => some (t, holder, base ++ [.name key])
  | key :: rest =>
    let here := base ++ [.name key]
    match t.taken.lookup here with
    | none => descend? refused mark { t with taken := (here, mark) :: t.taken } mark here rest
    | some (.tables count) =>
      descend? refused mark t .header (here ++ [.item (count - 1)]) rest
    | some origin => if origin ∈ refused then none else descend? refused mark t origin here rest

/-- Give a value to a key of the table at `base`. A dotted key adds only to a table that dotted
keys made. -/
def Table.assign? (t : Table) (base : Place) (names : List Text) (value : Json) :
    Option Table := do
  let (t, holder, place) ← t.descend? [.value, .header] .dotted .dotted base names
  if holder != .dotted || (t.taken.lookup place).isSome then none
  else return { root := setAt value place (some t.root), taken := (place, .value) :: t.taken }

/-- Open the table that a header names; its place is given with the document. -/
def Table.openTable? (t : Table) (names : List Text) : Option (Table × Place) := do
  let (t, _, place) ← t.descend? [.value] .above .header [] names
  let taken := (place, .header) :: t.taken
  match t.taken.lookup place with
  | none => return ({ root := setAt (.object []) place (some t.root), taken }, place)
  | some .above => return ({ t with taken }, place)
  | some _ => none

/-- Add a table to the list that a header names; its place is given with the document. -/
def Table.openItem? (t : Table) (names : List Text) : Option (Table × Place) := do
  let (t, _, place) ← t.descend? [.value] .above .header [] names
  let count ← match t.taken.lookup place with
    | none => some 0
    | some (.tables count) => some count
    | some _ => none
  let item := place ++ [.item count]
  return ({ root := setAt (.object []) item (some t.root)
            taken := (place, .tables (count + 1)) :: t.taken }, item)

end FailureReplay.Toml
