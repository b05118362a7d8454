import FailureReplay.Proofs.Source.Scan

/-!
# Normalizing keeps the text

The pieces of a normalized source are its lines. Those that come from the source
carry its visible characters, in order; the others are default returns, which
hold no brace. So braces are counted alike before and after.
-/

namespace FailureReplay.Source

open Text (visible isBlank)

/-- The text of a line that came from the source; none for an added return. -/
def Piece.sourceLine? : Piece → Option Text
  | .source line => some line
  | .defaultReturn _ _ => none

theorem visible_unlines (ls : List Text) : visible (Text.unlines ls) = visible ls.flatten := by
  have hblank : isBlank '\n' = true := by decide
  induction ls with
  | nil => rfl
  | cons line ls ih =>
    rw [Text.unlines_cons, Text.visible_append, Text.visible_cons_of_blank hblank, ih,
      ← Text.visible_append, List.flatten_cons]

theorem visible_insertion (indentUnit : Text) (returnType : DeclaredType)
    (before statement : Text) :
    visible ((insertion indentUnit returnType before statement).filterMap
      Piece.sourceLine?).flatten = visible (before ++ ['}']) := by
  simp only [insertion]
  split
  · simp [List.filterMap_cons, Piece.sourceLine?]
  · have hindent : visible (indentOf (before ++ ['}'])) = [] :=
      (Text.visible_eq_nil_iff _).mpr (isIndent_indentOf _).blank
    simp [List.filterMap_cons, Piece.sourceLine?, Text.visible_trimEnd, hindent]

/-- The lines of one step that come from the source carry the visible text of the line read. -/
theorem visible_step {s : State} (hs : s.Ready) {line : Text} (hl : WellBroken line)
    (indentUnit : Text) :
    visible ((s.step indentUnit line).2.filterMap Piece.sourceLine?).flatten = visible line := by
  rcases State.step_cases hs hl indentUnit with ⟨next, hstep, -⟩ |
    ⟨b, before, statement, rfl, rfl, hlacks⟩
  · rw [hstep]
    simp [Piece.sourceLine?]
  · rw [hlacks.step_eq]
    exact visible_insertion indentUnit b.returnType before statement

/-- A line is at most cut in two, so no visible character of the source is lost. -/
theorem visible_scan {indentUnit : Text} {s : State} (hs : s.Ready) {ls : List Text}
    (hls : ∀ line ∈ ls, WellBroken line) :
    visible ((scan indentUnit s ls).filterMap Piece.sourceLine?).flatten = visible ls.flatten := by
  induction ls generalizing s with
  | nil => rfl
  | cons line ls ih =>
    have hline : WellBroken line := hls line (by simp)
    have hrest := ih (State.ready_step hs hline indentUnit)
      fun l hl => hls l (List.mem_cons_of_mem _ hl)
    rw [scan, List.filterMap_append, List.flatten_append, Text.visible_append, hrest,
      visible_step hs hline, ← Text.visible_append, List.flatten_cons]

theorem eq_of_defaultReturn_mem_pieces {indentUnit source : Text} {returnType : DeclaredType}
    {line : Text} (h : .defaultReturn returnType line ∈ pieces indentUnit source) :
    Plain returnType.render ∧ ∃ before statement,
      returnType.defaultReturn? = some statement ∧
      line = returnLine indentUnit before statement := by
  rcases mem_scan_cases (s := .outside) trivial (fun _ => wellBroken_of_mem_lines) h with
    ⟨l, -, heq⟩ | ⟨b, before, statement, hplain, -, hlacks, hmem⟩
  · cases heq
  · rcases mem_insertion hmem with heq | heq | heq | heq
    · obtain ⟨rfl, rfl⟩ := Piece.defaultReturn.inj heq
      exact ⟨hplain, before, statement, hlacks.statement_eq, rfl⟩
    all_goals cases heq

/-- A character that no added line holds is counted alike in all lines and in those of the
source. -/
theorem count_unlines_sourceLine? {c : Char} {ps : List Piece}
    (h : ∀ returnType line, .defaultReturn returnType line ∈ ps → c ∉ line) (hc : c ≠ '\n') :
    (Text.unlines (ps.map Piece.line)).count c =
      (Text.unlines (ps.filterMap Piece.sourceLine?)).count c := by
  induction ps with
  | nil => rfl
  | cons p ps ih =>
    have hrest := ih fun returnType line hm => h returnType line (List.mem_cons_of_mem _ hm)
    cases p with
    | source line =>
      rw [List.map_cons, List.filterMap_cons, Piece.sourceLine?, Text.unlines_cons, Text.unlines_cons,
        List.count_append, List.count_append, List.count_cons, List.count_cons, hrest]
      rfl
    | defaultReturn returnType line =>
      have hline : line.count c = 0 := List.count_eq_zero.mpr (h returnType line (by simp))
      have hfeed : ('\n' == c) = false := by simpa using Ne.symm hc
      rw [List.map_cons, List.filterMap_cons, Piece.sourceLine?, Text.unlines_cons,
        List.count_append, List.count_cons, hrest, Piece.line, hline, hfeed]
      simp

theorem visible_sourceLines (indentUnit source : Text) :
    visible (Text.unlines ((pieces indentUnit source).filterMap Piece.sourceLine?)) =
      visible source := by
  rw [visible_unlines, pieces, visible_scan (s := .outside) trivial fun _ =>
    wellBroken_of_mem_lines, visible_flatten_lines]

/-- Default returns add no braces. -/
theorem count_brace_normalize {indentUnit : Text} (hu : IsIndent indentUnit) (source : Text)
    {c : Char} (hc : isBrace c = true) :
    (normalize indentUnit source).count c = source.count c := by
  have hblank : isBlank c = false := not_blank_of_brace hc
  have hadded : ∀ returnType line,
      .defaultReturn returnType line ∈ pieces indentUnit source → c ∉ line := by
    intro returnType line hm hcl
    obtain ⟨hplain, before, statement, hreturn, rfl⟩ := eq_of_defaultReturn_mem_pieces hm
    have h := (plain_returnLine hu hplain hreturn c hcl).1
    rw [hc] at h
    cases h
  have hfeed : c ≠ '\n' := by
    rintro rfl
    exact absurd hc (by decide)
  rw [normalize, count_unlines_sourceLine? hadded hfeed, ← Text.count_visible hblank,
    visible_sourceLines, Text.count_visible hblank]

/-- Normalizing neither loses, repeats nor reorders text. The pieces are the lines of the
normalized text; the added ones are default returns behind an indent; without them and without
white space the normalized text is the source without white space; and it has as many opening
and as many closing braces as the source. -/
theorem normalize_keeps_text {indentUnit : Text} (hu : IsIndent indentUnit) (source : Text) :
    (normalize indentUnit source).splitOn '\n' =
        (pieces indentUnit source).map Piece.line ++ [[]] ∧
      (∀ returnType line, .defaultReturn returnType line ∈ pieces indentUnit source →
        ∃ indent statement, IsIndent indent ∧ returnType.defaultReturn? = some statement ∧
          line = indent ++ indentUnit ++ statement) ∧
      visible (Text.unlines ((pieces indentUnit source).filterMap Piece.sourceLine?)) =
        visible source ∧
      (normalize indentUnit source).count '{' = source.count '{' ∧
      (normalize indentUnit source).count '}' = source.count '}' := by
  refine ⟨?_, ?_, visible_sourceLines indentUnit source,
    count_brace_normalize hu source (by decide), count_brace_normalize hu source (by decide)⟩
  · apply splitOn_unlines
    intro line hline
    obtain ⟨p, hp, rfl⟩ := List.mem_map.mp hline
    exact (wellBroken_of_mem_pieces hu hp).noFeed
  · intro returnType line hm
    obtain ⟨-, before, statement, hreturn, hline⟩ := eq_of_defaultReturn_mem_pieces hm
    exact ⟨indentOf (before ++ ['}']), statement, isIndent_indentOf _, hreturn, hline⟩

/-- A body and its closing brace on the header's own line. -/
theorem normalize_keeps_text_one_line :
    IsIndent "\t".toList ∧
      visible (Text.unlines ((pieces "\t".toList
        "public int f() \x7b g(); \x7d".toList).filterMap Piece.sourceLine?)) =
          visible "public int f() \x7b g(); \x7d".toList ∧
      (normalize "\t".toList "public int f() \x7b g(); \x7d".toList).count '{' = 1 ∧
      (normalize "\t".toList "public int f() \x7b g(); \x7d".toList).count '}' = 1 := by
  have hu : IsIndent "\t".toList := by decide
  obtain ⟨-, -, hvisible, hopen, hclose⟩ :=
    normalize_keeps_text hu "public int f() \x7b g(); \x7d".toList
  exact ⟨hu, hvisible, hopen, hclose⟩

end FailureReplay.Source
