import FailureReplay.Proofs.Json.Record
import FailureReplay.Proofs.Json.Writer
import FailureReplay.Report.Table

/-!
# Report tables in and out of JSON

The three records of a table each have many forms: an object with members left out
or added, or an array of leading fields, and these may be mixed freely down to the
cells. Whatever form a table is given, and however the document is spelled, reading
it yields that table; its own serialization is one of these texts.
-/

namespace FailureReplay.Report

open Json (FieldForm RecordForm)

/-! ## The forms of a table -/

def Cell.fieldForms (cell : Cell) : List FieldForm :=
  [.of "text" [] cell.text fun v => v = Json.ofText cell.text,
   .list "pre_blocks" cell.preBlocks fun block v => v = Json.ofText block,
   .of "trailing_text" none cell.trailingText fun v =>
     v = (cell.trailingText.map Json.ofText).getD .null]

def Row.fieldForms (row : Row) : List FieldForm :=
  [.list "cells" row.cells fun cell v => RecordForm cell.fieldForms v]

def Table.fieldForms (table : Table) : List FieldForm :=
  [.list "rows" table.rows fun row v => RecordForm row.fieldForms v]

/-! ## Decoding -/

theorem Cell.ofJson?_of_form {cell : Cell} {j : Json} (h : RecordForm cell.fieldForms j) :
    Cell.ofJson? j = some cell := by
  have hnames : ["text".toList, "pre_blocks".toList, "trailing_text".toList].Nodup := by decide
  obtain ⟨given, hfields, hgiven⟩ := h.fields?_eq hnames
  match given, hgiven with
  | [text, preBlocks, trailingText], .cons htext (.cons hblocks (.cons htrailing .nil)) =>
    have htext' : Json.decodeOr [] Json.text? text = some cell.text := by
      apply Json.decodeOr_of_given htext
      rintro v rfl
      rfl
    have hblocks' : Json.decodeOr [] (Json.listOf Json.text?) preBlocks = some cell.preBlocks := by
      apply Json.decodeOr_of_given_list hblocks
      rintro block v rfl
      rfl
    have htrailing' : Json.decodeOr none (Json.nullable Json.text?) trailingText =
        some cell.trailingText := by
      apply Json.decodeOr_of_given htrailing
      rintro v rfl
      cases cell.trailingText <;> rfl
    have hfields' : j.fields? ["text", "pre_blocks", "trailing_text"] =
      some [text, preBlocks, trailingText] := hfields
    simp [Cell.ofJson?, hfields', htext', hblocks', htrailing']

theorem Row.ofJson?_of_form {row : Row} {j : Json} (h : RecordForm row.fieldForms j) :
    Row.ofJson? j = some row := by
  obtain ⟨cells, hfields, hcells⟩ := h.list_field?_eq fun cell v => Cell.ofJson?_of_form
  simp [Row.ofJson?, hfields, hcells]

/-- However a table is written down, it is decoded to the same rows. -/
theorem Table.ofJson?_of_form {table : Table} {j : Json} (h : RecordForm table.fieldForms j) :
    Table.ofJson? j = some table := by
  obtain ⟨rows, hfields, hrows⟩ := h.list_field?_eq fun row v => Row.ofJson?_of_form
  simp [Table.ofJson?, hfields, hrows]

/-! ## The table's own serialization -/

theorem Cell.form_toJson (cell : Cell) : RecordForm cell.fieldForms cell.toJson :=
  .of_kept (.keep rfl (.keep (FieldForm.list_values fun _ => rfl) (.keep rfl .nil)))

theorem Row.form_toJson (row : Row) : RecordForm row.fieldForms row.toJson :=
  .of_kept (.keep (FieldForm.list_values Cell.form_toJson) .nil)

theorem Table.form_toJson (table : Table) : RecordForm table.fieldForms table.toJson :=
  .of_kept (.keep (FieldForm.list_values Row.form_toJson) .nil)

/-- A table is read back from its serialization, and from every text that spells any form of it. -/
theorem Table.read?_serialized (table : Table) :
    Table.read? (Json.compact table.toJson) = some table ∧
      Table.read? (Json.pretty table.toJson) = some table ∧
      ∀ j, RecordForm table.fieldForms j → ∀ t, Json.SpellsDocument j t →
        Table.read? t = some table := by
  have hread : ∀ {j t}, Json.read? t = some j → RecordForm table.fieldForms j →
      Table.read? t = some table := by
    intro j t hread hform
    rw [Table.read?, hread, Option.bind_some, Table.ofJson?_of_form hform]
  refine ⟨?_, ?_, ?_⟩
  · exact hread (Json.read?_compact _) table.form_toJson
  · exact hread (Json.read?_pretty _) table.form_toJson
  · intro j hform t hspells
    exact hread (Json.read?_of_spells hspells) hform

theorem isUnknown_of_all {fields : List FieldForm} {key : Text}
    (h : (fields.all fun f => f.name.toList != key) = true) : Json.IsUnknown fields (some key) := by
  refine ⟨key, rfl, ?_⟩
  rintro f hf rfl
  simpa using List.all_eq_true.mp h f hf

def twoRows : Table :=
  { rows := [{ cells := [{ text := [Char.ofNat 1, '"', 'é'] },
    { preBlocks := [['b']], trailingText := some ['t'] }] }, {}] }

/-- A form of that table: a row and a cell as arrays, the other cell with its members out of order,
and unknown keys with a number out of range and half of a surrogate pair as values. -/
def twoRowsDocument : Json :=
  .object [(some "note".toList, .array [.number ⟨1, 999⟩, .string none]),
    (some "rows".toList, .array
      [.array [.array [.array [.string (some [Char.ofNat 1, '"', 'é'])],
        .object [(some "trailing_text".toList, .string (some ['t'])), (some ['x'], .null),
          (some "pre_blocks".toList, .array [.string (some ['b'])])]]],
       .object []])]

theorem twoRows_form : RecordForm twoRows.fieldForms twoRowsDocument := by
  have hfirst : RecordForm (Cell.fieldForms { text := [Char.ofNat 1, '"', 'é'] })
      (.array [.string (some [Char.ofNat 1, '"', 'é'])]) :=
    .array (.more rfl (.stop (by simp [FieldForm.list, FieldForm.of])))
  have hsecond : RecordForm (Cell.fieldForms { preBlocks := [['b']], trailingText := some ['t'] })
      (.object [(some "trailing_text".toList, .string (some ['t'])), (some ['x'], .null),
        (some "pre_blocks".toList, .array [.string (some ['b'])])]) := by
    refine .object (.skip rfl (.keep ⟨_, rfl, .cons rfl .nil⟩ (.keep rfl .nil))) ?_
      (List.perm_append_singleton _ [_, _])
    exact List.forall_mem_singleton.mpr (isUnknown_of_all (by decide))
  have hempty : RecordForm (Row.fieldForms {}) (.object []) := .of_kept (.skip rfl .nil)
  have hcells : RecordForm (Row.fieldForms ⟨[_, _]⟩) (.array [.array [_, _]]) :=
    .array (.more ⟨_, rfl, .cons hfirst (.cons hsecond .nil)⟩ (.stop (List.forall_mem_nil _)))
  refine .object (.keep ⟨_, rfl, .cons hcells (.cons hempty .nil)⟩ .nil) ?_ (.swap _ _ [])
  exact List.forall_mem_singleton.mpr (isUnknown_of_all (by decide))

def bracketed (t : Text) : Text := '[' :: (' ' :: t) ++ [']']

theorem spells_bracketed {j : Json} {t : Text} (h : Json.Spells j t) :
    Json.Spells (.array [j]) (bracketed t) := by
  have hspace : Json.IsSpace [' '] := by simp [Json.IsSpace, Json.isSpace]
  have hitem := Json.SpellsDocument.padded hspace h Json.isSpace_nil
  rw [List.append_nil] at hitem
  exact .array (.last hitem)

/-- Cells as an array and as an object with its members out of order, an empty row, unknown keys
with values that denote nothing; and a character given as a surrogate pair inside five arrays. -/
theorem Table.read?_serialized_mixed_forms :
    Table.read? ("\n\x7b\"note\":[1e999,\"\\ud800\"],\"rows\":[[[[\"\\u0001\\\"é\"],".toList ++
        "\x7b\"trailing_text\":\"t\",\"x\":null,\"pre_blocks\":[\"b\"]\x7d]],\x7b\x7d]\x7d ".toList) =
      some twoRows ∧
    Table.read? "[ [ [ [ [ \"\\ud83d\\ude00\"]]]]]".toList =
      some { rows := [{ cells := [{ text := [Char.ofNat 0x1F600] }] }] } := by
  constructor
  · have hfeed : Json.IsSpace ['\n'] := by simp [Json.IsSpace, Json.isSpace]
    have hspace : Json.IsSpace [' '] := by simp [Json.IsSpace, Json.isSpace]
    have hspells := Json.SpellsDocument.padded hfeed (Json.spells_compact twoRowsDocument) hspace
    have htext : "\n\x7b\"note\":[1e999,\"\\ud800\"],\"rows\":[[[[\"\\u0001\\\"é\"],".toList ++
        "\x7b\"trailing_text\":\"t\",\"x\":null,\"pre_blocks\":[\"b\"]\x7d]],\x7b\x7d]\x7d ".toList =
        ['\n'] ++ (Json.compact twoRowsDocument ++ [' ']) := by decide +kernel
    rw [htext]
    exact (Table.read?_serialized twoRows).2.2 _ twoRows_form _ hspells
  · have hunits : Json.SpellsUnits [.code 0xD83D, .code 0xDE00]
        ['\\', 'u', 'd', '8', '3', 'd', '\\', 'u', 'd', 'e', '0', '0'] :=
      .code (by decide) (.code (by decide) .nil)
    have hdenotes : Json.unitsText? [.code 0xD83D, .code 0xDE00] = some [Char.ofNat 0x1F600] := by
      decide
    have hstring := Json.SpellsString.quoted hunits
    rw [hdenotes] at hstring
    have hspells := spells_bracketed (spells_bracketed (spells_bracketed (spells_bracketed
      (spells_bracketed (.string hstring)))))
    have hcell : RecordForm (Cell.fieldForms { text := [Char.ofNat 0x1F600] })
        (.array [.string (some [Char.ofNat 0x1F600])]) :=
      .array (.more rfl (.stop (by simp [FieldForm.list, FieldForm.of])))
    have hrow : RecordForm (Row.fieldForms ⟨[_]⟩) (.array [.array [_]]) :=
      .array (.more ⟨_, rfl, .cons hcell .nil⟩ (.stop (List.forall_mem_nil _)))
    have htable : RecordForm (Table.fieldForms ⟨[_]⟩) (.array [.array [_]]) :=
      .array (.more ⟨_, rfl, .cons hrow .nil⟩ (.stop (List.forall_mem_nil _)))
    exact (Table.read?_serialized _).2.2 _ htable _ hspells.document

end FailureReplay.Report
