import FailureReplay.Json.Reader
import FailureReplay.Json.Record

/-!
# Report tables

A result table as a page shows it: rows of cells, each with its text, the
preformatted blocks inside it, and the text after the last of them; and what is
taken from a row that fails. In JSON every field of a table may be left out, and each
of its three records may be written as an array of its fields.
-/

namespace FailureReplay.Report

structure Cell where
  text : Text := []
  preBlocks : List Text := []
  trailingText : Option Text := none
  deriving DecidableEq, Repr

structure Row where
  cells : List Cell := []
  deriving DecidableEq, Repr

/-- A result table. -/
structure Table where
  rows : List Row := []
  deriving DecidableEq, Repr

/-- A failing row and its payloads. -/
structure FailingRow where
  index : Nat
  status : Text
  expected : Text
  actual : Text
  deriving DecidableEq, Repr

/-! ## Tables in JSON -/

def Cell.ofJson? (j : Json) : Option Cell := do
  match ← j.fields? ["text", "pre_blocks", "trailing_text"] with
  | [text, preBlocks, trailingText] =>
    return { text := ← Json.decodeOr [] Json.text? text
             preBlocks := ← Json.decodeOr [] (Json.listOf Json.text?) preBlocks
             trailingText := ← Json.decodeOr none (Json.nullable Json.text?) trailingText }
  | _ => none

def Row.ofJson? (j : Json) : Option Row := do
  match ← j.fields? ["cells"] with
  | [cells] => return { cells := ← Json.decodeOr [] (Json.listOf Cell.ofJson?) cells }
  | _ => none

def Table.ofJson? (j : Json) : Option Table := do
  match ← j.fields? ["rows"] with
  | [rows] => return { rows := ← Json.decodeOr [] (Json.listOf Row.ofJson?) rows }
  | _ => none

def Table.read? (t : Text) : Option Table := (Json.read? t).bind Table.ofJson?

/-- Encode a cell, every field written out. -/
def Cell.toJson (cell : Cell) : Json :=
  Json.ofMembers
    [("text", Json.ofText cell.text),
     ("pre_blocks", .array (cell.preBlocks.map Json.ofText)),
     ("trailing_text", (cell.trailingText.map Json.ofText).getD .null)]

def Row.toJson (row : Row) : Json :=
  Json.ofMembers [("cells", .array (row.cells.map Cell.toJson))]

def Table.toJson (table : Table) : Json :=
  Json.ofMembers [("rows", .array (table.rows.map Row.toJson))]

end FailureReplay.Report
