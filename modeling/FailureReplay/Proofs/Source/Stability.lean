import FailureReplay.Proofs.Source.Scan

/-!
# Normalizing twice

A second scan reads what the first one wrote, less one carriage return at the end
of each line. Trimming hides that difference, so the second scan passes through
the states of the first and finds a return in every body where the first one added
its own: it adds nothing. The text itself is unchanged exactly when no line of the
source ends in a carriage return.
-/

namespace FailureReplay.Source

open Text (isBlank)

/-- Every line read from a state is written as it is. -/
inductive Quiet (indentUnit : Text) : State → List Text → Prop
  | nil {s : State} : Quiet indentUnit s []
  | cons {s : State} {line : Text} {rest : List Text} :
      (s.step indentUnit line).2 = [.source line] →
      Quiet indentUnit (s.step indentUnit line).1 rest → Quiet indentUnit s (line :: rest)

theorem Quiet.scan_eq {indentUnit : Text} {s : State} {ls : List Text}
    (h : Quiet indentUnit s ls) : scan indentUnit s ls = ls.map Piece.source := by
  induction h with
  | nil => rfl
  | cons hline _ ih =>
    rw [scan, hline, ih]
    rfl

/-- Quiet lines may be followed by others that are quiet from where they leave off. -/
theorem quiet_append {indentUnit : Text} {s : State} {ls rest : List Text} :
    Quiet indentUnit s (ls ++ rest) ↔
      Quiet indentUnit s ls ∧ Quiet indentUnit (s.after indentUnit ls) rest := by
  induction ls generalizing s with
  | nil => exact ⟨fun h => ⟨.nil, h⟩, fun h => h.2⟩
  | cons line ls ih =>
    constructor
    · intro h
      cases h with
      | cons hline hrest =>
        obtain ⟨hls, hafter⟩ := ih.mp hrest
        exact ⟨.cons hline hls, hafter⟩
    · rintro ⟨h, hafter⟩
      cases h with
      | cons hline hls => exact .cons hline (ih.mpr ⟨hls, hafter⟩)

/-- What a second scan reads of the pieces that the first one wrote. -/
def reread (ps : List Piece) : List Text := ps.map fun p => dropReturn p.line

/-! ## One line, read again -/

/-- White space at the ends of a line has no bearing on the state. -/
theorem step_state_congr (indentUnit : Text) {line line' : Text}
    (h : Text.trim line = Text.trim line') (s : State) :
    (s.step indentUnit line).1 = (s.step indentUnit line').1 := by
  cases s with
  | outside => simp only [State.step, stepOutside, h]
  | awaiting returnType => simp only [State.step, h]
  | inside b =>
    have hadv : b.advance line = b.advance line' := by simp only [Body.advance, h]
    simp only [State.step, hadv]
    split <;> rfl

theorem WellBroken.dropReturn_eq_of_close {line before : Text} (h : WellBroken line)
    (hd : Source.dropReturn line = before ++ ['}']) : line = before ++ ['}'] := by
  by_cases hr : line.getLast? = some '\r'
  · have hdrop : Source.dropReturn line = line.dropLast := if_pos hr
    have hbrace := h.braceLast '}' (by rw [← hdrop, hd]; simp)
    exact absurd hbrace (by decide)
  · rw [← hd, dropReturn_eq_self hr]

theorem step_dropReturn_of_kept {indentUnit : Text} {s next : State} (hs : s.Ready) {line : Text}
    (hl : WellBroken line) (hstep : s.step indentUnit line = (next, [.source line])) :
    s.step indentUnit (dropReturn line) = (next, [.source (dropReturn line)]) := by
  have hstate := step_state_congr indentUnit (trim_dropReturn line) s
  rw [hstep] at hstate
  rcases State.step_cases hs hl.dropReturn indentUnit with ⟨next', hstep', -⟩ |
    ⟨b, before, statement, rfl, hclose, hlacks⟩
  · rw [hstep'] at hstate ⊢
    obtain rfl : next' = next := hstate
    rfl
  · have hline := hl.dropReturn_eq_of_close hclose
    rw [dropReturn_eq_self (by simp [hline])]
    exact hstep

theorem Body.advance_depth_of_braceless (b : Body) {line : Text}
    (h : ∀ c ∈ line, isBrace c = false) : (b.advance line).depth = b.depth := by
  rw [Body.advance_depth, count_open_eq_zero h, count_close_eq_zero h]
  rfl

theorem step_inside_of_braceless {b : Body} (hb : 1 ≤ b.depth) {line : Text}
    (h : ∀ c ∈ line, isBrace c = false) (indentUnit : Text) :
    (State.inside b).step indentUnit line = (.inside (b.advance line), [.source line]) := by
  have hopen : 0 < (b.advance line).depth := by
    rw [b.advance_depth_of_braceless h]
    exact hb
  simp [State.step, hopen]

theorem step_inside_close {b : Body} (hb : b.depth = 1) (hsaw : b.sawReturn = true)
    {before : Text} (h : ∀ c ∈ before, isBrace c = false) (indentUnit : Text) :
    (State.inside b).step indentUnit (before ++ ['}']) =
      (.outside, [.source (before ++ ['}'])]) := by
  have hdepth := Body.advance_close_depth hb h
  have hsaw' : (b.advance (before ++ ['}'])).sawReturn = true :=
    (b.advance_sawReturn _).mpr (.inl hsaw)
  simp only [State.step, hdepth, Nat.lt_irrefl, if_false, Body.close, hsaw', if_true]
  split <;> rfl

/-! ## An added return, read again -/

theorem trim_returnLine {indentUnit : Text} (hu : IsIndent indentUnit)
    {returnType : DeclaredType} {before statement : Text}
    (h : returnType.defaultReturn? = some statement) :
    Text.trim (returnLine indentUnit before statement) = statement := by
  obtain ⟨value, rfl⟩ := DeclaredType.exists_of_defaultReturn? h
  rw [returnLine, Text.trim_blanks_append ((isIndent_indentOf _).append hu).blank]
  apply Text.trim_eq_self
  · intro c hc
    obtain rfl : 'r' = c := Option.some.inj hc
    decide
  · intro c hc
    rw [List.getLast?_concat, Option.mem_def] at hc
    obtain rfl := Option.some.inj hc
    decide

theorem isReturnLine_returnLine {indentUnit : Text} (hu : IsIndent indentUnit)
    {returnType : DeclaredType} {before statement : Text}
    (h : returnType.defaultReturn? = some statement) :
    IsReturnLine (returnLine indentUnit before statement) := by
  rw [IsReturnLine, trim_returnLine hu h]
  obtain ⟨value, rfl⟩ := DeclaredType.exists_of_defaultReturn? h
  rw [List.append_assoc]
  exact List.prefix_append _ _

theorem getLast?_returnLine {indentUnit : Text} {returnType : DeclaredType}
    {before statement : Text} (h : returnType.defaultReturn? = some statement) :
    (returnLine indentUnit before statement).getLast? = some ';' := by
  obtain ⟨value, rfl⟩ := DeclaredType.exists_of_defaultReturn? h
  rw [returnLine, ← List.append_assoc, List.getLast?_concat]

theorem getLast?_trimEnd_ne {c : Char} (hc : isBlank c = true) (t : Text) :
    (Text.trimEnd t).getLast? ≠ some c := by
  intro h
  have hne : t.rdropWhile isBlank ≠ [] := by
    intro hnil
    rw [Text.trimEnd_eq_rdropWhile, hnil] at h
    cases h
  have hlast := List.rdropWhile_last_not isBlank t hne
  rw [Text.trimEnd_eq_rdropWhile, List.getLast?_eq_some_getLast hne] at h
  rw [Option.some.inj h] at hlast
  exact hlast hc

theorem getLast?_ne_return_of_mem_insertion {indentUnit : Text} {returnType : DeclaredType}
    {before statement : Text} (h : returnType.defaultReturn? = some statement) {p : Piece}
    (hp : p ∈ insertion indentUnit returnType before statement) :
    p.line.getLast? ≠ some '\r' := by
  rcases mem_insertion hp with rfl | rfl | rfl | rfl
  · rw [Piece.line, getLast?_returnLine h]
    decide
  · simp [Piece.line]
  · exact getLast?_trimEnd_ne (by decide) before
  · simp [Piece.line]

/-- The lines around an added return are read as they were written. -/
theorem reread_insertion {indentUnit : Text} {returnType : DeclaredType} {before statement : Text}
    (h : returnType.defaultReturn? = some statement) :
    reread (insertion indentUnit returnType before statement) =
      (insertion indentUnit returnType before statement).map Piece.line := by
  apply List.map_congr_left
  intro p hp
  exact dropReturn_eq_self (getLast?_ne_return_of_mem_insertion h hp)

/-- A closing line with its default return in front is left alone the second time. -/
theorem quiet_return_close {indentUnit : Text} (hu : IsIndent indentUnit) {b : Body}
    (hdepth : b.depth = 1) (hplain : Plain b.returnType.render) (before : Text)
    {front statement : Text} (h : b.returnType.defaultReturn? = some statement)
    (hfront : ∀ c ∈ front, isBrace c = false) :
    Quiet indentUnit (.inside b) [returnLine indentUnit before statement, front ++ ['}']] ∧
      State.after indentUnit (.inside b) [returnLine indentUnit before statement, front ++ ['}']] =
        .outside := by
  have hbraceless : ∀ c ∈ returnLine indentUnit before statement, isBrace c = false :=
    fun c hc => (plain_returnLine hu hplain h c hc).1
  have hfirst := step_inside_of_braceless (b := b) (by omega) hbraceless indentUnit
  have hclose := step_inside_close
    ((b.advance_depth_of_braceless hbraceless).trans hdepth)
    ((b.advance_sawReturn _).mpr (.inr (isReturnLine_returnLine hu h))) hfront indentUnit
  refine ⟨.cons (by rw [hfirst]) (.cons (by rw [hfirst, hclose]) .nil), ?_⟩
  simp only [State.after, List.foldl_cons, List.foldl_nil, hfirst, hclose]

/-- The lines of an insertion, read again from the same body, are written as they are. -/
theorem quiet_insertion {indentUnit : Text} (hu : IsIndent indentUnit) {b : Body}
    (hplain : Plain b.returnType.render) {before statement : Text} (h : b.Lacks before statement) :
    Quiet indentUnit (.inside b) (reread (insertion indentUnit b.returnType before statement)) ∧
      State.after indentUnit (.inside b)
        (reread (insertion indentUnit b.returnType before statement)) = .outside := by
  rw [reread_insertion h.statement_eq]
  simp only [insertion]
  split
  · exact quiet_return_close hu h.depth_eq hplain before h.statement_eq h.braceless
  · have htext : ∀ c ∈ Text.trimEnd before, isBrace c = false :=
      fun c hc => h.braceless c ((Text.trimEnd_isPrefix before).subset hc)
    have hstep := step_inside_of_braceless (b := b) (by rw [h.depth_eq]) htext indentUnit
    have hindent : ∀ c ∈ indentOf (before ++ ['}']), isBrace c = false :=
      fun c hc => ((isIndent_indentOf _).plain c hc).1
    have hrest := quiet_return_close hu (b := b.advance (Text.trimEnd before))
      ((b.advance_depth_of_braceless htext).trans h.depth_eq) hplain before h.statement_eq hindent
    refine ⟨.cons (by rw [Piece.line, hstep]) (by rw [Piece.line, hstep]; exact hrest.1), ?_⟩
    simpa only [State.after, List.map_cons, List.map_nil, List.foldl_cons, Piece.line, hstep]
      using hrest.2

/-! ## A whole scan, read again -/

/-- One step: the lines it wrote are kept when they are read again, and lead to the same state. -/
theorem quiet_reread_step {indentUnit : Text} (hu : IsIndent indentUnit) {s : State}
    (hs : s.Ready) {line : Text} (hl : WellBroken line) :
    Quiet indentUnit s (reread (s.step indentUnit line).2) ∧
      s.after indentUnit (reread (s.step indentUnit line).2) = (s.step indentUnit line).1 := by
  rcases State.step_cases hs hl indentUnit with ⟨next, hstep, -⟩ |
    ⟨b, before, statement, rfl, rfl, hlacks⟩
  · have hagain := step_dropReturn_of_kept hs hl hstep
    have hread : reread (s.step indentUnit line).2 = [dropReturn line] := by
      rw [hstep]
      rfl
    rw [hread]
    refine ⟨.cons (by rw [hagain]) .nil, ?_⟩
    exact (congrArg Prod.fst hagain).trans (congrArg Prod.fst hstep).symm
  · rw [hlacks.step_eq]
    exact quiet_insertion hu hs.2 hlacks

/-- A whole scan: what it wrote is kept when it is read again from the same state. -/
theorem quiet_reread_scan {indentUnit : Text} (hu : IsIndent indentUnit) {s : State}
    (hs : s.Ready) {ls : List Text} (hls : ∀ line ∈ ls, WellBroken line) :
    Quiet indentUnit s (reread (scan indentUnit s ls)) := by
  induction ls generalizing s with
  | nil => exact .nil
  | cons line ls ih =>
    have hline : WellBroken line := hls line (by simp)
    obtain ⟨hquiet, hafter⟩ := quiet_reread_step hu hs hline
    have hrest := ih (State.ready_step hs hline indentUnit)
      fun l hl => hls l (List.mem_cons_of_mem _ hl)
    rw [scan, reread, List.map_append]
    refine quiet_append.mpr ⟨hquiet, ?_⟩
    change Quiet indentUnit (s.after indentUnit (reread _)) _
    rw [hafter]
    exact hrest

theorem lines_normalize {indentUnit : Text} (hu : IsIndent indentUnit) (source : Text) :
    lines (normalize indentUnit source) =
      (reread (pieces indentUnit source)).rdropWhile List.isEmpty := by
  have hwell : ∀ line ∈ (pieces indentUnit source).map Piece.line, WellBroken line := by
    intro line hline
    obtain ⟨p, hp, rfl⟩ := List.mem_map.mp hline
    exact wellBroken_of_mem_pieces hu hp
  rw [normalize, lines_unlines hwell, List.map_map]
  rfl

/-- The second scan adds nothing, since every body that lacked a return now has one. -/
theorem quiet_lines_normalize {indentUnit : Text} (hu : IsIndent indentUnit) (source : Text) :
    Quiet indentUnit .outside (lines (normalize indentUnit source)) := by
  have hquiet : Quiet indentUnit .outside (reread (pieces indentUnit source)) :=
    quiet_reread_scan hu (s := .outside) trivial fun _ => wellBroken_of_mem_lines
  rw [← List.rdropWhile_append_rtakeWhile (p := List.isEmpty)
    (l := reread (pieces indentUnit source)), quiet_append] at hquiet
  rw [lines_normalize hu]
  exact hquiet.1

/-- A second pass writes the lines it reads and nothing else. -/
theorem pieces_normalize {indentUnit : Text} (hu : IsIndent indentUnit) (source : Text) :
    pieces indentUnit (normalize indentUnit source) =
      (lines (normalize indentUnit source)).map Piece.source := by
  have hquiet := quiet_lines_normalize hu source
  exact Quiet.scan_eq hquiet

theorem normalize_normalize {indentUnit : Text} (hu : IsIndent indentUnit) (source : Text) :
    normalize indentUnit (normalize indentUnit source) =
      Text.unlines (lines (normalize indentUnit source)) := by
  conv_lhs => rw [normalize, pieces_normalize hu, List.map_map]
  rw [show Piece.line ∘ Piece.source = id from rfl, List.map_id]

/-! ## When nothing changes -/

theorem exists_getLast?_step {s : State} (hs : s.Ready) {line : Text} (hl : WellBroken line)
    (hne : line ≠ []) (indentUnit : Text) :
    ∃ p, (s.step indentUnit line).2.getLast? = some p ∧ p.line ≠ [] := by
  rcases State.step_cases hs hl indentUnit with ⟨next, hstep, -⟩ |
    ⟨b, before, statement, rfl, rfl, hlacks⟩
  · exact ⟨.source line, by rw [hstep]; rfl, hne⟩
  · rw [hlacks.step_eq]
    simp only [insertion]
    split
    · exact ⟨.source (before ++ ['}']), rfl, by simp [Piece.line]⟩
    · exact ⟨.source (indentOf (before ++ ['}']) ++ ['}']), rfl, by simp [Piece.line]⟩

theorem getLast?_pieces_ne_nil (indentUnit source : Text) :
    ∀ p ∈ (pieces indentUnit source).getLast?, p.line ≠ [] := by
  intro p hp
  by_cases hnil : lines source = []
  · simp [pieces, hnil, scan] at hp
  · have hwell : WellBroken ((lines source).getLast hnil) :=
      wellBroken_of_mem_lines (List.getLast_mem hnil)
    have hready : (State.after indentUnit .outside (lines source).dropLast).Ready :=
      State.ready_after (s := .outside) trivial
        (fun l hl => wellBroken_of_mem_lines (List.dropLast_subset _ hl)) indentUnit
    obtain ⟨q, hq, hne⟩ := exists_getLast?_step hready hwell (getLast_lines_ne_nil hnil) indentUnit
    have hscan := scan_append indentUnit .outside (lines source).dropLast
      [(lines source).getLast hnil]
    rw [List.dropLast_concat_getLast hnil, scan, scan, List.append_nil] at hscan
    rw [pieces, hscan, List.getLast?_append, hq, Option.some_or, Option.mem_def] at hp
    obtain rfl := Option.some.inj hp
    exact hne

theorem rdropWhile_lines_pieces (indentUnit source : Text) :
    ((pieces indentUnit source).map Piece.line).rdropWhile List.isEmpty =
      (pieces indentUnit source).map Piece.line := by
  rw [List.rdropWhile_eq_self_iff]
  intro h hempty
  have hlast := List.getLast?_eq_some_getLast h
  rw [List.getLast?_map, Option.map_eq_some_iff] at hlast
  obtain ⟨p, hp, hline⟩ := hlast
  apply getLast?_pieces_ne_nil indentUnit source p hp
  rw [hline, List.isEmpty_iff.mp hempty]

theorem getLast?_ne_of_dropReturn_eq {line : Text} (h : dropReturn line = line) :
    line.getLast? ≠ some '\r' := by
  intro hr
  have hne : line ≠ [] := by
    rintro rfl
    cases hr
  have hlen := congrArg List.length (show line.dropLast = line from (if_pos hr).symm.trans h)
  rw [List.length_dropLast] at hlen
  have hpos := List.length_pos_of_ne_nil hne
  omega

theorem unlines_injective {ls ls' : List Text} (h : ∀ line ∈ ls, '\n' ∉ line)
    (h' : ∀ line ∈ ls', '\n' ∉ line) (heq : Text.unlines ls = Text.unlines ls') : ls = ls' := by
  have hsplit := congrArg (List.splitOn '\n') heq
  rw [splitOn_unlines h, splitOn_unlines h'] at hsplit
  exact List.append_cancel_right hsplit

/-- A second pass changes nothing exactly when no line written ends in a carriage return. -/
theorem normalize_normalize_eq_iff {indentUnit : Text} (hu : IsIndent indentUnit)
    (source : Text) :
    normalize indentUnit (normalize indentUnit source) = normalize indentUnit source ↔
      ∀ p ∈ pieces indentUnit source, p.line.getLast? ≠ some '\r' := by
  rw [normalize_normalize hu, lines_normalize hu]
  constructor
  · intro heq p hp
    -- Both texts have the same lines, so no line was dropped and none was shortened.
    have hsame : (reread (pieces indentUnit source)).rdropWhile List.isEmpty =
        (pieces indentUnit source).map Piece.line := by
      refine unlines_injective ?_ ?_ heq
      · intro line hline
        rw [← lines_normalize hu] at hline
        exact (wellBroken_of_mem_lines hline).noFeed
      · intro line hline
        obtain ⟨q, hq, rfl⟩ := List.mem_map.mp hline
        exact (wellBroken_of_mem_pieces hu hq).noFeed
    have hlen : (pieces indentUnit source).map Piece.line = reread (pieces indentUnit source) := by
      have hpre := List.rdropWhile_prefix List.isEmpty (reread (pieces indentUnit source))
      rw [hsame] at hpre
      exact hpre.eq_of_length (by simp [reread])
    exact getLast?_ne_of_dropReturn_eq (List.map_inj_left.mp hlen p hp).symm
  · intro hnone
    have hread : reread (pieces indentUnit source) = (pieces indentUnit source).map Piece.line :=
      List.map_congr_left fun p hp => dropReturn_eq_self (hnone p hp)
    rw [hread, rdropWhile_lines_pieces, normalize]

theorem source_mem_scan {indentUnit : Text} {s : State} (hs : s.Ready) {ls : List Text}
    (hls : ∀ line ∈ ls, WellBroken line) {line : Text} (hline : line ∈ ls)
    (hend : line.getLast? ≠ some '}') : .source line ∈ scan indentUnit s ls := by
  induction ls generalizing s with
  | nil => cases hline
  | cons first ls ih =>
    have hfirst : WellBroken first := hls first (by simp)
    rw [scan, List.mem_append]
    rcases List.mem_cons.mp hline with rfl | hline
    · rcases State.step_cases hs hfirst indentUnit with ⟨next, hstep, -⟩ |
        ⟨b, before, statement, -, rfl, -⟩
      · left
        rw [hstep]
        exact List.mem_singleton_self _
      · exact absurd (by simp) hend
    · exact .inr (ih (State.ready_step hs hfirst indentUnit)
        (fun l hl => hls l (List.mem_cons_of_mem _ hl)) hline)

/-- Lines that end in a carriage return are written as they are, and no others are written. -/
theorem exists_piece_return_iff (indentUnit source : Text) :
    (∃ p ∈ pieces indentUnit source, p.line.getLast? = some '\r') ↔
      ∃ line ∈ lines source, line.getLast? = some '\r' := by
  constructor
  · rintro ⟨p, hp, hlast⟩
    rcases mem_scan_cases (s := .outside) trivial (fun _ => wellBroken_of_mem_lines) hp with
      ⟨line, hline, rfl⟩ | ⟨b, before, statement, -, -, hlacks, hmem⟩
    · exact ⟨line, hline, hlast⟩
    · exact absurd hlast (getLast?_ne_return_of_mem_insertion hlacks.statement_eq hmem)
  · rintro ⟨line, hline, hlast⟩
    refine ⟨.source line, source_mem_scan (s := .outside) trivial
      (fun _ => wellBroken_of_mem_lines) hline ?_, hlast⟩
    rw [hlast]
    decide

/-- A second pass adds no return, and it changes the text exactly when the source, with its line
ends folded, still holds a carriage return before a line feed or at its end. -/
theorem normalize_twice {indentUnit : Text} (hu : IsIndent indentUnit) (source : Text) :
    (∀ p ∈ pieces indentUnit (normalize indentUnit source), ∃ line, p = .source line) ∧
      (normalize indentUnit (normalize indentUnit source) = normalize indentUnit source ↔
        ¬ ['\r', '\n'] <:+: foldLineEnds source ∧
          (foldLineEnds source).getLast? ≠ some '\r') := by
  constructor
  · intro p hp
    rw [pieces_normalize hu] at hp
    obtain ⟨line, -, rfl⟩ := List.mem_map.mp hp
    exact ⟨line, rfl⟩
  · have hreturn := exists_piece_return_iff indentUnit source
    rw [exists_line_return_iff, looseReturn_iff] at hreturn
    rw [normalize_normalize_eq_iff hu, ← not_or, ← hreturn]
    simp

/-- A doubled carriage return is folded once by each pass; without it the second pass changes
nothing. -/
theorem normalize_twice_doubled_return :
    IsIndent "    ".toList ∧
      normalize "    ".toList (normalize "    ".toList "int f()\r\r\n".toList) ≠
        normalize "    ".toList "int f()\r\r\n".toList ∧
      normalize "    ".toList (normalize "    ".toList "public int f() \x7b g(); \x7d".toList) =
        normalize "    ".toList "public int f() \x7b g(); \x7d".toList := by
  have hu : IsIndent "    ".toList := by decide
  have hdoubled := (normalize_twice hu "int f()\r\r\n".toList).2
  have hplain := (normalize_twice hu "public int f() \x7b g(); \x7d".toList).2
  refine ⟨hu, fun heq => (hdoubled.mp heq).1 ⟨"int f()".toList, [], by decide⟩, ?_⟩
  refine hplain.mpr ⟨?_, by decide⟩
  intro hpart
  have hreturn : '\r' ∉ foldLineEnds "public int f() \x7b g(); \x7d".toList := by decide
  exact hreturn (hpart.subset (by simp))

end FailureReplay.Source
