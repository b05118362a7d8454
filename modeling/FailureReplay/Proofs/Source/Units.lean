import FailureReplay.Proofs.Source.KeptSignature
import FailureReplay.Proofs.Source.Scan

/-!
# Sources end to end

Three readers look ahead: folding looks past a carriage return, breaking past a brace,
and the scan past a header without a brace. A line feed at the end of a source stops
the first two. So the lines of two sources put together are those of the one and then
those of the other, but for the empty lines at the end of the first, which are dropped
only when nothing follows. What the scan does with the second source is then told by
the state in which the first one leaves it.
-/

namespace FailureReplay

theorem Text.splitOn_append_cons (sep : Char) (s t : Text) :
    (s ++ sep :: t).splitOn sep = s.splitOn sep ++ t.splitOn sep :=
  List.splitOnP_append_cons s t (by simp)

namespace Source

/-! ## Lines of a source that goes on -/

theorem foldLineEnds_append {a : Text} (ha : ∀ c ∈ a.getLast?, c ≠ '\r') (b : Text) :
    foldLineEnds (a ++ b) = foldLineEnds a ++ foldLineEnds b := by
  induction a using List.twoStepInduction with
  | nil => rfl
  | singleton c => exact foldLineEnds_cons_of_ne (ha c rfl) b
  | cons_cons c d a ih ih' =>
    by_cases hpair : c = '\r' ∧ d = '\n'
    · have hrest := ih fun e he => ha e (by
        rw [List.getLast?_cons_cons, List.getLast?_cons, Option.mem_def.mp he]
        rfl)
      simp only [foldLineEnds, List.cons_append, Text.replacePair, hpair, and_self, if_true,
        List.nil_append] at hrest ⊢
      rw [hrest]
    · have hrest := ih' d ha
      simp only [foldLineEnds, List.cons_append, Text.replacePair, hpair, if_false] at hrest ⊢
      rw [hrest]

theorem breakAfterBraces_append {a : Text} (ha : ∀ c ∈ a.getLast?, isBrace c = false) (b : Text) :
    breakAfterBraces (a ++ b) = breakAfterBraces a ++ breakAfterBraces b := by
  induction a with
  | nil => rfl
  | cons c a ih =>
    cases a with
    | nil =>
      have hc := ha c rfl
      simp [breakAfterBraces, hc]
    | cons d a =>
      have hrest := ih ha
      have hhead : (d :: a ++ b).head? = (d :: a).head? := rfl
      rw [List.cons_append, breakAfterBraces, breakAfterBraces, hrest, hhead]
      split <;> rfl

theorem getLast?_foldLineEnds (t : Text) : (foldLineEnds t).getLast? = t.getLast? := by
  unfold foldLineEnds
  fun_induction Text.replacePair '\r' '\n' ['\n'] t with
  | case1 => rfl
  | case2 c => rfl
  | case3 c d rest h ih => simp [List.getLast?_cons, ih, h.2]
  | case4 c d rest h ih => simp [List.getLast?_cons, ih]

theorem getLast?_breakAfterBraces {t : Text} (h : t.getLast? = some '\n') :
    (breakAfterBraces t).getLast? = some '\n' := by
  induction t with
  | nil => cases h
  | cons c t ih =>
    cases t with
    | nil =>
      obtain rfl := Option.some.inj h
      rfl
    | cons d t =>
      have hrest := ih h
      rw [breakAfterBraces]
      split
      · rw [List.getLast?_cons_cons, List.getLast?_cons, hrest]
        rfl
      · rw [List.getLast?_cons, hrest]
        rfl

theorem exists_broken_eq {a : Text} (ha : a.getLast? = some '\n') :
    ∃ s, breakAfterBraces (foldLineEnds a) = s ++ ['\n'] := by
  apply List.getLast?_eq_some_iff.mp
  apply getLast?_breakAfterBraces
  rw [getLast?_foldLineEnds, ha]

/-- Preparing a source is done part by part, if the first part ends its last line. -/
theorem broken_append {a : Text} (ha : a.getLast? = some '\n') (b : Text) :
    breakAfterBraces (foldLineEnds (a ++ b)) =
      breakAfterBraces (foldLineEnds a) ++ breakAfterBraces (foldLineEnds b) := by
  have hlast : ∀ c ∈ a.getLast?, c = '\n' := by
    intro c hc
    rw [ha] at hc
    exact (Option.some.inj hc).symm
  rw [foldLineEnds_append, breakAfterBraces_append]
  · intro c hc
    rw [getLast?_foldLineEnds] at hc
    rw [hlast c hc]
    decide
  · intro c hc
    rw [hlast c hc]
    decide

/-- The lines of a broken source that a line feed ends, the empty ones at the end included. -/
def endedLines (source : Text) : List Text :=
  ((breakAfterBraces (foldLineEnds source)).splitOn '\n').dropLast

theorem splitOn_broken {a s : Text} (hs : breakAfterBraces (foldLineEnds a) = s ++ ['\n']) :
    endedLines a = s.splitOn '\n' ∧ lines a = (endedLines a).rdropWhile List.isEmpty := by
  have hsplit : (breakAfterBraces (foldLineEnds a)).splitOn '\n' = s.splitOn '\n' ++ [[]] := by
    rw [hs, Text.splitOn_append_cons]
    rfl
  have hended : endedLines a = s.splitOn '\n' := by
    rw [endedLines, hsplit, List.dropLast_concat]
  refine ⟨hended, ?_⟩
  rw [lines, splitLines_eq_rdropWhile, hsplit, hended]
  exact List.rdropWhile_concat_pos _ _ _ rfl

theorem lines_eq_rdropWhile_endedLines {a : Text} (ha : a.getLast? = some '\n') :
    lines a = (endedLines a).rdropWhile List.isEmpty := by
  obtain ⟨s, hs⟩ := exists_broken_eq ha
  exact (splitOn_broken hs).2

theorem rdropWhile_append {α : Type} (p : α → Bool) (xs ys : List α) :
    (xs ++ ys).rdropWhile p =
      if ys.rdropWhile p = [] then xs.rdropWhile p else xs ++ ys.rdropWhile p := by
  simp only [List.rdropWhile, List.reverse_append, List.dropWhile_append, List.isEmpty_iff,
    List.reverse_eq_nil_iff]
  split
  · rfl
  · simp

/-- The empty lines at the end of a source are dropped only if no line follows. -/
theorem lines_append {a : Text} (ha : a.getLast? = some '\n') (b : Text) :
    lines (a ++ b) = if lines b = [] then lines a else endedLines a ++ lines b := by
  obtain ⟨s, hs⟩ := exists_broken_eq ha
  obtain ⟨hended, hlines⟩ := splitOn_broken hs
  have hsplit : (breakAfterBraces (foldLineEnds (a ++ b))).splitOn '\n' =
      endedLines a ++ (breakAfterBraces (foldLineEnds b)).splitOn '\n' := by
    rw [broken_append ha, hs, hended, List.append_assoc, List.singleton_append,
      Text.splitOn_append_cons]
  rw [lines, splitLines_eq_rdropWhile, hsplit, rdropWhile_append, hlines]
  rfl

theorem endedLines_eq_lines {a : Text} (ha : a.getLast? = some '\n')
    (hlast : ∀ line ∈ (endedLines a).getLast?, line ≠ []) : endedLines a = lines a := by
  rw [lines_eq_rdropWhile_endedLines ha, eq_comm, List.rdropWhile_eq_self_iff]
  intro hne hempty
  exact hlast _ (List.getLast?_eq_some_getLast hne) (List.isEmpty_iff.mp hempty)

/-- A source whose last line is empty has an empty line behind those that are kept. -/
theorem exists_endedLines_eq {a : Text} (ha : a.getLast? = some '\n')
    (hlast : [] ∈ (endedLines a).getLast?) : ∃ rest, endedLines a = lines a ++ [] :: rest := by
  have hsplit : lines a ++ (endedLines a).rtakeWhile List.isEmpty = endedLines a := by
    rw [lines_eq_rdropWhile_endedLines ha]
    exact List.rdropWhile_append_rtakeWhile
  cases hdropped : (endedLines a).rtakeWhile List.isEmpty with
  | nil =>
    have hkept : lines a = endedLines a := by rw [← hsplit, hdropped, List.append_nil]
    rw [← hkept] at hlast
    have hne : lines a ≠ [] := by
      intro hnil
      rw [hnil] at hlast
      cases hlast
    rw [List.getLast?_eq_some_getLast hne] at hlast
    exact absurd (Option.some.inj hlast) (getLast_lines_ne_nil hne)
  | cons line rest =>
    have hempty : line = [] := by
      have hmem : line ∈ (endedLines a).rtakeWhile List.isEmpty := by simp [hdropped]
      exact List.isEmpty_iff.mp (List.mem_rtakeWhile_imp hmem)
    exact ⟨rest, by rw [← hsplit, hdropped, hempty]⟩

/-! ## What is written from a state on -/

def output (indentUnit : Text) (s : State) (ls : List Text) : Text :=
  Text.unlines ((scan indentUnit s ls).map Piece.line)

theorem normalize_eq_output (indentUnit source : Text) :
    normalize indentUnit source = output indentUnit .outside (lines source) := rfl

theorem output_append (indentUnit : Text) (s : State) (ls rest : List Text) :
    output indentUnit s (ls ++ rest) =
      output indentUnit s ls ++ output indentUnit (s.after indentUnit ls) rest := by
  rw [output, scan_append, List.map_append, Text.unlines_append]
  rfl

theorem ready_after_lines (indentUnit source : Text) :
    (State.after indentUnit .outside (lines source)).Ready :=
  State.ready_after (s := .outside) trivial (fun _ => wellBroken_of_mem_lines) indentUnit

theorem output_empty_line {s : State} (hs : s.Ready) (indentUnit : Text) (rest : List Text) :
    ∃ after, output indentUnit s ([] :: rest) = '\n' :: after := by
  have hwell : WellBroken [] := ⟨List.not_mem_nil, fun c hc => absurd hc List.not_mem_nil⟩
  obtain ⟨next, hstep, -⟩ | ⟨b, before, statement, -, hline, -⟩ :=
    State.step_cases hs hwell indentUnit
  · exact ⟨output indentUnit next rest, by rw [output, scan, hstep]; rfl⟩
  · exact absurd hline.symm (by simp)

/-! ## Two texts that tell states apart -/

def plainProbe : Text := "x".toList

/-- A method that lacks a return. -/
def methodProbe : Text := "public int f() \x7b\n\x7d".toList

theorem lines_methodProbe :
    lines methodProbe = ["public int f() \x7b".toList, "\x7d".toList] := by decide +kernel

theorem lines_plainProbe : lines plainProbe = ["x".toList] := by decide +kernel

theorem normalize_plainProbe (indentUnit : Text) :
    normalize indentUnit plainProbe = ['x', '\n'] := by
  rw [normalize_eq_output, lines_plainProbe]
  rfl

theorem normalize_methodProbe (indentUnit : Text) :
    normalize indentUnit methodProbe =
      "public int f() \x7b\n".toList ++ (indentUnit ++ "return 0;\n\x7d\n".toList) := by
  have hopen : stepOutside "public int f() \x7b".toList =
      .inside (Body.start (.primitive .int)) := by decide +kernel
  have hscan : scan indentUnit .outside (lines methodProbe) =
      [.source "public int f() \x7b".toList,
        .defaultReturn (.primitive .int) (indentUnit ++ "return 0;".toList),
        .source "\x7d".toList] := by
    rw [lines_methodProbe, scan, State.step, hopen]
    rfl
  rw [normalize_eq_output, output, hscan]
  simp [Text.unlines, Piece.line]

/-- A header inside a method or right behind another header is not tracked. -/
theorem output_methodProbe {s : State} (hs : s.Ready) (hout : s ≠ .outside) (indentUnit : Text) :
    output indentUnit s (lines methodProbe) = "public int f() \x7b\n\x7d\n".toList := by
  have hscan : scan indentUnit s (lines methodProbe) =
      [.source "public int f() \x7b".toList, .source "\x7d".toList] := by
    rw [lines_methodProbe]
    cases s with
    | outside => exact absurd rfl hout
    | awaiting returnType => rfl
    | inside body =>
      have hopen : (body.advance "public int f() \x7b".toList).depth = body.depth + 1 := rfl
      have hclose : ((body.advance "public int f() \x7b".toList).advance "\x7d".toList).depth =
          body.depth := rfl
      have hdepth : 0 < body.depth := hs.1
      simp only [scan, State.step, hopen, hclose, Nat.succ_pos, if_true, if_pos hdepth]
      rfl
  rw [output, hscan]
  rfl

/-! ## When the boundary cannot be seen -/

/-- Parts may be normalized apart if the first one ends outside any method and with a line that is
not empty. -/
theorem normalize_append_of_outside {a : Text} (ha : a.getLast? = some '\n')
    (hlast : ∀ line ∈ (endedLines a).getLast?, line ≠ []) {indentUnit : Text}
    (hstate : State.after indentUnit .outside (lines a) = .outside) (b : Text) :
    normalize indentUnit (a ++ b) = normalize indentUnit a ++ normalize indentUnit b := by
  have hlines : lines (a ++ b) = lines a ++ lines b := by
    rw [lines_append ha, endedLines_eq_lines ha hlast]
    split
    · next hnil => rw [hnil, List.append_nil]
    · rfl
  rw [normalize_eq_output, hlines, output_append, hstate]
  rfl

/-- A plain line put behind tells whether the first part ended with empty lines. -/
theorem last_line_ne_nil_of_append {a : Text} (ha : a.getLast? = some '\n') {indentUnit : Text}
    (h : normalize indentUnit (a ++ plainProbe) =
      normalize indentUnit a ++ normalize indentUnit plainProbe) :
    ∀ line ∈ (endedLines a).getLast?, line ≠ [] := by
  rintro line hline rfl
  obtain ⟨rest, hended⟩ := exists_endedLines_eq ha hline
  have hlines : lines (a ++ plainProbe) = lines a ++ [] :: (rest ++ ["x".toList]) := by
    rw [lines_append ha, lines_plainProbe, if_neg (List.cons_ne_nil _ _), hended]
    simp
  obtain ⟨after, hafter⟩ := output_empty_line (ready_after_lines indentUnit a) indentUnit
    (rest ++ ["x".toList])
  rw [normalize_eq_output, hlines, output_append, hafter, normalize_plainProbe] at h
  have hchars := List.append_cancel_left h
  exact absurd (List.cons.inj hchars).1 (by decide)

/-- A method put behind tells whether the first part ended inside one. -/
theorem state_eq_outside_of_append {a : Text} (ha : a.getLast? = some '\n')
    (hlast : ∀ line ∈ (endedLines a).getLast?, line ≠ []) {indentUnit : Text}
    (h : normalize indentUnit (a ++ methodProbe) =
      normalize indentUnit a ++ normalize indentUnit methodProbe) :
    State.after indentUnit .outside (lines a) = .outside := by
  by_contra hout
  have hlines : lines (a ++ methodProbe) = lines a ++ lines methodProbe := by
    rw [lines_append ha, endedLines_eq_lines ha hlast, lines_methodProbe,
      if_neg (List.cons_ne_nil _ _)]
  rw [normalize_eq_output, hlines, output_append,
    output_methodProbe (ready_after_lines indentUnit a) hout, normalize_methodProbe] at h
  -- The return that is missing on the left makes the two texts differ in length.
  have hlength := congrArg List.length (List.append_cancel_left h)
  rw [List.length_append, List.length_append] at hlength
  have hshort : "public int f() \x7b\n\x7d\n".toList.length = 19 := rfl
  have hfront : "public int f() \x7b\n".toList.length = 17 := rfl
  have hback : "return 0;\n\x7d\n".toList.length = 12 := rfl
  omega

/-- For a source that ends in a line feed, the text behind it is normalized as if it stood alone,
whatever that text is, exactly if the last line of the source is not empty and the scan of it ends
outside every method and not behind a header that waits for its brace. -/
theorem normalize_append_iff {a : Text} (ha : a.getLast? = some '\n') (indentUnit : Text) :
    (∀ b, normalize indentUnit (a ++ b) = normalize indentUnit a ++ normalize indentUnit b) ↔
      (∀ line ∈ (endedLines a).getLast?, line ≠ []) ∧
        State.after indentUnit .outside (lines a) = .outside := by
  constructor
  · intro h
    have hlast := last_line_ne_nil_of_append ha (h plainProbe)
    exact ⟨hlast, state_eq_outside_of_append ha hlast (h methodProbe)⟩
  · intro h b
    exact normalize_append_of_outside ha h.1 h.2 b

/-- Behind a closed method anything may follow; behind a header without a brace, or an empty line,
some texts are changed by what stands before them. -/
theorem normalize_append_iff_closed_method :
    ("public int f() \x7b \x7d\r\n".toList.getLast? = some '\n' ∧
      ∀ b, normalize "\t".toList ("public int f() \x7b \x7d\r\n".toList ++ b) =
        normalize "\t".toList "public int f() \x7b \x7d\r\n".toList ++
          normalize "\t".toList b) ∧
      (¬ ∀ b, normalize "\t".toList ("public int f()\n".toList ++ b) =
        normalize "\t".toList "public int f()\n".toList ++ normalize "\t".toList b) ∧
      ¬ ∀ b, normalize "\t".toList ("x\r\n\n".toList ++ b) =
        normalize "\t".toList "x\r\n\n".toList ++ normalize "\t".toList b := by
  refine ⟨⟨rfl, ?_⟩, ?_, ?_⟩
  · exact (normalize_append_iff rfl "\t".toList).mpr ⟨by decide +kernel, by decide +kernel⟩
  · intro h
    have hstate := ((normalize_append_iff rfl "\t".toList).mp h).2
    revert hstate
    decide +kernel
  · intro h
    have hlast := ((normalize_append_iff rfl "\t".toList).mp h).1
    revert hlast
    decide +kernel

end Source
end FailureReplay
