import FailureReplay.Proofs.Report.Findings
import FailureReplay.Proofs.Text.Trim

/-!
# The ends of an actual payload

The actual payload of a failing row comes from the text after its last block or
from that block itself. The text loses its quotes before it is trimmed, the block
after. A payload from a block therefore keeps the white space that stood next to
the quotes at its ends, and a block with nothing but white space between quotes
passes for an actual value. These are the only payloads that are not trimmed.
-/

namespace FailureReplay.Report

/-- White space stands behind the quotes at the front of a text or before those at its end. -/
def HidesBlank (t : Text) : Prop :=
  (∃ quotes c rest, t = quotes ++ c :: rest ∧ (∀ q ∈ quotes, q = '"') ∧ Text.isBlank c = true) ∨
    ∃ rest c quotes, t = rest ++ c :: quotes ∧ (∀ q ∈ quotes, q = '"') ∧ Text.isBlank c = true

/-- The actual payload comes from a block that hides white space once it is trimmed. -/
def Cell.HidesBlank (cell : Cell) : Prop :=
  cell.trailingText = none ∧ ∃ block ∈ cell.preBlocks.getLast?, Report.HidesBlank (Text.trim block)

/-! ## Quotes dropped from a text -/

theorem head?_dropQuotes_iff (t : Text) :
    (∃ quotes c rest, t = quotes ++ c :: rest ∧ (∀ q ∈ quotes, q = '"') ∧ Text.isBlank c = true) ↔
      ∃ c ∈ (dropQuotes t).head?, Text.isBlank c = true := by
  have hfind : ∀ c, c ∈ (dropQuotes t).head? ↔
      c ≠ '"' ∧ ∃ quotes rest, t = quotes ++ c :: rest ∧ ∀ q ∈ quotes, q = '"' := by
    intro c
    rw [dropQuotes, List.head?_filter, Option.mem_def, List.find?_eq_some_iff_append]
    simp
  constructor
  · rintro ⟨quotes, c, rest, ht, hquotes, hc⟩
    have hquote : c ≠ '"' := by
      rintro rfl
      cases hc
    exact ⟨c, (hfind c).mpr ⟨hquote, quotes, rest, ht, hquotes⟩, hc⟩
  · rintro ⟨c, hmem, hc⟩
    obtain ⟨-, quotes, rest, ht, hquotes⟩ := (hfind c).mp hmem
    exact ⟨quotes, c, rest, ht, hquotes, hc⟩

theorem dropQuotes_reverse (t : Text) : dropQuotes t.reverse = (dropQuotes t).reverse :=
  List.filter_reverse ..

/-- The end of a text is the front of its reverse. -/
theorem getLast?_dropQuotes_iff (t : Text) :
    (∃ rest c quotes, t = rest ++ c :: quotes ∧ (∀ q ∈ quotes, q = '"') ∧ Text.isBlank c = true) ↔
      ∃ c ∈ (dropQuotes t).getLast?, Text.isBlank c = true := by
  rw [← List.head?_reverse, ← dropQuotes_reverse, ← head?_dropQuotes_iff]
  constructor
  · rintro ⟨rest, c, quotes, rfl, hquotes, hc⟩
    exact ⟨quotes.reverse, c, rest.reverse, by simp, by simpa using hquotes, hc⟩
  · rintro ⟨quotes, c, rest, ht, hquotes, hc⟩
    refine ⟨rest.reverse, c, quotes.reverse, ?_, by simpa using hquotes, hc⟩
    rw [← List.reverse_reverse t, ht]
    simp

theorem hidesBlank_iff (t : Text) :
    HidesBlank t ↔ Text.trim (dropQuotes t) ≠ dropQuotes t := by
  rw [HidesBlank, head?_dropQuotes_iff, getLast?_dropQuotes_iff]
  constructor
  · intro h htrim
    have hfirst := Text.head?_trim (dropQuotes t)
    have hlast := Text.getLast?_trim (dropQuotes t)
    rw [htrim] at hfirst hlast
    rcases h with ⟨c, hmem, hc⟩ | ⟨c, hmem, hc⟩
    · rw [hfirst c hmem] at hc
      cases hc
    · rw [hlast c hmem] at hc
      cases hc
  · intro htrim
    by_contra h
    rw [not_or] at h
    push Not at h
    exact htrim (Text.trim_eq_self (by simpa using h.1) (by simpa using h.2))

/-! ## Payloads of a cell -/

/-- Quotes that hide white space are the only way to an actual payload that is not trimmed. -/
theorem Cell.hidesBlank_iff (cell : Cell) :
    cell.HidesBlank ↔ Text.trim cell.actual ≠ cell.actual := by
  unfold Cell.HidesBlank Cell.actual
  cases hblock : cell.preBlocks.getLast? with
  | none => simp [Text.trim, Text.trimStart, Text.trimEnd]
  | some block =>
    cases htrailing : cell.trailingText with
    | some trailing => simp [Text.trim_trim]
    | none => simp [Report.hidesBlank_iff]

theorem exists_visible_of_trim_eq {t : Text} (hne : t ≠ []) (htrim : Text.trim t = t) :
    ∃ c ∈ t, Text.isBlank c = false := by
  obtain ⟨c, rest, rfl⟩ := List.exists_cons_of_ne_nil hne
  have hfirst := Text.head?_trim (c :: rest)
  rw [htrim] at hfirst
  exact ⟨c, by simp, hfirst c rfl⟩

theorem actual_of_mem_failingRows {failStatus : Text} {table : Table} {row : Row} {payload : Cell}
    {r : FailingRow} (hrow : table.rows[r.index]? = some row)
    (hfails : row.FailsWith failStatus payload)
    (hr : r ∈ failingRows (table.findings failStatus)) :
    r.actual = payload.actual ∧ payload.actual ≠ [] := by
  obtain ⟨row', payload', hrow', hfails', hne, -, hactual⟩ := mem_failingRows hr
  obtain rfl := Option.some.inj (hrow.symm.trans hrow')
  obtain rfl := hfails.unique hfails'
  exact ⟨hactual, hne⟩

/-- A failing row is returned with a trimmed payload that is not blank, and dropped with a warning
if its payload is blank, exactly if its payload does not come from a block that hides white space
behind its quotes. -/
theorem actual_trimmed_iff {failStatus : Text} {table : Table} {index : Nat} {row : Row}
    {payload : Cell} (hrow : table.rows[index]? = some row)
    (hfails : row.FailsWith failStatus payload) :
    ((∀ r ∈ failingRows (table.findings failStatus), r.index = index →
        (∃ c ∈ r.actual, Text.isBlank c = false) ∧ Text.trim r.actual = r.actual) ∧
      (Text.allBlank payload.actual = true →
        .missingActualValue index ∈ warnings (table.findings failStatus) ∧
          ∀ r ∈ failingRows (table.findings failStatus), r.index ≠ index)) ↔
      ¬ payload.HidesBlank := by
  rw [Cell.hidesBlank_iff, not_not]
  constructor
  · rintro ⟨htrimmed, -⟩
    by_cases hnil : payload.actual = []
    · rw [hnil]
      rfl
    · obtain ⟨r, hr, rfl⟩ := exists_mem_failingRows hrow hfails hnil
      have hactual := (actual_of_mem_failingRows hrow hfails hr).1
      rw [← hactual]
      exact (htrimmed r hr rfl).2
  · intro htrim
    constructor
    · rintro r hr rfl
      obtain ⟨hactual, hne⟩ := actual_of_mem_failingRows hrow hfails hr
      rw [hactual]
      exact ⟨exists_visible_of_trim_eq hne htrim, htrim⟩
    · intro hblank
      have hnil : payload.actual = [] := by
        rw [← htrim, Text.trim_eq_nil_iff]
        exact List.all_eq_true.mp hblank
      constructor
      · rw [warnings_eq_missingRows]
        exact List.mem_map_of_mem (mem_missingRows.mpr ⟨row, payload, hrow, hfails, hnil⟩)
      · rintro r hr rfl
        exact (actual_of_mem_failingRows hrow hfails hr).2 hnil

def oneFailing (payload : Cell) : Table :=
  { rows := [{ cells := [{}, { text := "fail".toList }, payload] }] }

/-- Blank around the quotes of a last block is trimmed, and blank between words is kept. -/
theorem actual_trimmed_iff_quoted_block :
    failingRows ((oneFailing { preBlocks := [" \"a b\" ".toList] }).findings "fail".toList) =
        [⟨0, "fail".toList, "a b".toList, "a b".toList⟩] ∧
      ∀ r ∈ failingRows ((oneFailing { preBlocks := [" \"a b\" ".toList] }).findings "fail".toList),
        r.index = 0 → (∃ c ∈ r.actual, Text.isBlank c = false) ∧ Text.trim r.actual = r.actual := by
  have hfails : Row.FailsWith "fail".toList
      { cells := [{}, { text := "fail".toList }, { preBlocks := [" \"a b\" ".toList] }] }
      { preBlocks := [" \"a b\" ".toList] } :=
    ⟨⟨_, rfl, by decide +kernel⟩, rfl⟩
  have hshown : ¬ Cell.HidesBlank { preBlocks := [" \"a b\" ".toList] } := by
    rw [Cell.hidesBlank_iff]
    decide +kernel
  exact ⟨by decide +kernel, ((actual_trimmed_iff rfl hfails).mpr hshown).1⟩

/-- A block that holds one space between quotes is returned as the actual value, with no warning,
where the same text after a block is reported as missing. -/
theorem actual_blank_between_quotes :
    failingRows ((oneFailing { preBlocks := ["\" \"".toList] }).findings "fail".toList) =
        [⟨0, "fail".toList, [' '], [' ']⟩] ∧
      warnings ((oneFailing { preBlocks := ["\" \"".toList] }).findings "fail".toList) = [] ∧
      warnings ((oneFailing { preBlocks := [[]], trailingText := some "\" \"".toList }).findings
        "fail".toList) = [.missingActualValue 0] ∧
      ¬ ∀ table : Table, ∀ r ∈ failingRows (table.findings "fail".toList),
        (∃ c ∈ r.actual, Text.isBlank c = false) ∧ Text.trim r.actual = r.actual := by
  have hrows : failingRows ((oneFailing { preBlocks := ["\" \"".toList] }).findings "fail".toList) =
      [⟨0, "fail".toList, [' '], [' ']⟩] := by
    decide +kernel
  refine ⟨hrows, by decide +kernel, by decide +kernel, ?_⟩
  intro h
  have htrim := (h _ _ (hrows ▸ List.mem_singleton_self _)).2
  revert htrim
  decide +kernel

end FailureReplay.Report
