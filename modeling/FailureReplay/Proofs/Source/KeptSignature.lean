import FailureReplay.Proofs.Header
import FailureReplay.Proofs.Source.Lines
import FailureReplay.Signature
import FailureReplay.Source.Scan

/-!
# Normalizing keeps the signature

A default return is only written behind a header line, and up to the first header
line the normalized text and the broken source are the same. A source without a
header line is written as it is, less the line feeds at its end. In both cases the
first header of the text, and so the signature or the reason for having none, is
the one of the source.
-/

namespace FailureReplay.Source

/-! ## The text of a source and of its lines -/

theorem unlines_splitOn_feed (t : Text) : Text.unlines (t.splitOn '\n') = t ++ ['\n'] := by
  induction t with
  | nil => rfl
  | cons c t ih =>
    obtain ⟨first, others, hs, -⟩ := Text.splitOn_eq_cons '\n' t
    rw [List.splitOn_cons_eq_if_modifyHead]
    rw [hs, Text.unlines_cons] at ih
    by_cases hc : c = '\n'
    · simp [hc, hs, Text.unlines_cons, ih]
    · simp [hc, hs, Text.unlines_cons, ih]

/-- A broken source with one more line feed is its lines, each ended by a line feed, and the
empty lines at its end. -/
theorem broken_eq_unlines_lines (source : Text) :
    ∃ feeds, (∀ c ∈ feeds, c = '\n') ∧
      breakAfterBraces (foldLineEnds source) ++ ['\n'] =
        Text.unlines (lines source) ++ feeds := by
  let pieces := (breakAfterBraces (foldLineEnds source)).splitOn '\n'
  refine ⟨Text.unlines (pieces.rtakeWhile List.isEmpty), ?_, ?_⟩
  · intro c hc
    obtain ⟨line, hline, hmem⟩ := List.mem_flatMap.mp hc
    have hnil : line = [] := List.isEmpty_iff.mp (List.mem_rtakeWhile_imp hline)
    simpa [hnil] using hmem
  · rw [lines, splitLines_eq_rdropWhile, ← Text.unlines_append,
      List.rdropWhile_append_rtakeWhile, unlines_splitOn_feed]

/-! ## The first header line -/

/-- A scan from the outside writes every line as it is, or does so up to and including a header
line. -/
theorem scan_outside_cases (indentUnit : Text) (ls : List Text) :
    scan indentUnit .outside ls = ls.map .source ∨
      ∃ before header after rest, ls = before ++ header :: after ∧
        Header.isLine (Text.trim header) = true ∧
        scan indentUnit .outside ls = (before ++ [header]).map .source ++ rest := by
  induction ls with
  | nil => exact .inl rfl
  | cons line ls ih =>
    by_cases hheader : Header.isLine (Text.trim line) = true
    · exact .inr ⟨[], line, ls, _, rfl, hheader, rfl⟩
    · have hscan : scan indentUnit .outside (line :: ls) =
          .source line :: scan indentUnit .outside ls := by
        simp [scan, State.step, stepOutside, hheader]
      rcases ih with hkept | ⟨before, header, after, rest, rfl, hline, hrest⟩
      · exact .inl (by rw [hscan, hkept, List.map_cons])
      · refine .inr ⟨line :: before, header, after, rest, rfl, hline, ?_⟩
        rw [hscan, hrest]
        rfl

/-- A header line is a header with at most white space and a brace behind it. -/
theorem exists_render_of_isLine {t : Text} (h : Header.isLine t = true) :
    ∃ (header : Header) (rest : Text), header.WellFormed ∧ t = header.render ++ rest := by
  unfold Header.isLine at h
  split at h
  · cases h
  · next header rest hread =>
    obtain ⟨hw, htext⟩ := Header.read?_eq_some_iff.mp hread
    exact ⟨header, rest, hw, htext.symm⟩

/-- A header line holds a header after its indent. -/
theorem exists_header_of_isLine_trim {line : Text} (h : Header.isLine (Text.trim line) = true) :
    ∃ (indent : Text) (header : Header) (rest : Text), header.WellFormed ∧
      line = indent ++ (header.render ++ rest) := by
  obtain ⟨header, rest, hw, htrim⟩ := exists_render_of_isLine h
  obtain ⟨before, after, hline⟩ := Text.trim_isInfix line
  exact ⟨before, header, rest ++ after, hw, by rw [← hline, htrim]; simp⟩

/-! ## The first header of a normalized text -/

theorem map_line_source (ls : List Text) : (ls.map Piece.source).map Piece.line = ls := by
  simp [Function.comp_def, Piece.line]

theorem find?_append_feed (t : Text) : Header.find? (t ++ ['\n']) = Header.find? t :=
  Header.find?_append_of_not_mem (by decide) t

/-- Normalizing neither brings in a header nor hides one. -/
theorem find?_normalize (indentUnit source : Text) :
    Header.find? (normalize indentUnit source) =
      Header.find? (breakAfterBraces (foldLineEnds source)) := by
  obtain ⟨feeds, hfeeds, hbroken⟩ := broken_eq_unlines_lines source
  rw [← find?_append_feed (breakAfterBraces (foldLineEnds source)), hbroken]
  rcases scan_outside_cases indentUnit (lines source) with
    hkept | ⟨before, line, after, rest, hlines, hheader, hscan⟩
  · have hclose : ')' ∉ feeds := fun hm => absurd (hfeeds _ hm) (by decide)
    rw [normalize, pieces, hkept, map_line_source, Header.find?_append_of_not_mem hclose]
  · -- Both texts agree up to the end of the header on `line`.
    obtain ⟨indent, header, tail, hw, rfl⟩ := exists_header_of_isLine_trim hheader
    have hnormalized : normalize indentUnit source =
        (Text.unlines before ++ indent) ++
          (header.render ++ (tail ++ '\n' :: Text.unlines (rest.map Piece.line))) := by
      rw [normalize, pieces, hscan, List.map_append, map_line_source, Text.unlines_append,
        Text.unlines_append, Text.unlines_cons]
      simp [Text.unlines]
    have hsource : Text.unlines (lines source) ++ feeds =
        (Text.unlines before ++ indent) ++
          (header.render ++ (tail ++ '\n' :: (Text.unlines after ++ feeds))) := by
      rw [hlines, Text.unlines_append, Text.unlines_cons]
      simp
    rw [hnormalized, hsource]
    exact hw.find?_append_congr _ _ _

/-- Normalizing never changes the method under test, whatever the indent unit: the signature of a
normalized text, or the reason for having none, is that of the source after its line ends were
folded and its lines broken after braces. -/
theorem extract_normalize (indentUnit source : Text) :
    Signature.extract (normalize indentUnit source) =
      Signature.extract (breakAfterBraces (foldLineEnds source)) := by
  rw [Signature.extract, Signature.extract, find?_normalize]

end FailureReplay.Source
