import FailureReplay.Proofs.Source.Tracked

/-!
# The depth of an open body

While the scan stands inside a method, its depth is at least one and counts the
braces that are open: one, plus the opening and minus the closing braces on the
lines since the method was opened. A line holds one brace at most, so it moves
the depth by at most one and there is always enough depth to subtract from. A
body closes at depth one only, on a line that ends in its only brace, so that the
closing line is cut right before its last character.
-/

namespace FailureReplay.Source

/-! ## One line of an open body -/

/-- A line moves the depth of a body by at most one, and no closing brace is without an open one
to close. -/
structure Body.MovesByOne (body : Body) (line : Text) : Prop where
  one_brace : line.count '{' + line.count '}' ≤ 1
  enough : (Text.trim line).count '}' ≤ body.depth + (Text.trim line).count '{'
  rises : (body.advance line).depth ≤ body.depth + 1
  falls : body.depth ≤ (body.advance line).depth + 1

/-- Lines of a broken source have at most one brace, and an open body has depth to spare. -/
theorem Body.movesByOne {body : Body} (hpos : 1 ≤ body.depth) {line : Text}
    (hl : WellBroken line) : body.MovesByOne line := by
  have hbraces := hl.count_braces_le_one
  have hopen := Text.count_trim (c := '{') (by decide) line
  have hclose := Text.count_trim (c := '}') (by decide) line
  have hdepth := Body.advance_depth body line
  refine ⟨hbraces, ?_, ?_, ?_⟩
  · rw [hopen, hclose]
    omega
  · omega
  · omega

/-- The line is `before` and a closing brace, its only one. It is cut between the two, and a
default return is written around the cut. -/
structure CutBefore (indentUnit line before : Text) : Prop where
  line_eq : line = before ++ ['}']
  braceless : ∀ c ∈ before, isBrace c = false
  cut : cutAtLastClose? line = some (before, ['}'])
  written : ∀ returnType statement, closeWithReturn indentUnit returnType statement line =
    insertion indentUnit returnType before statement

theorem cutBefore_append {before : Text} (h : ∀ c ∈ before, isBrace c = false)
    (indentUnit : Text) : CutBefore indentUnit (before ++ ['}']) before where
  line_eq := rfl
  braceless := h
  cut := cutAtLastClose?_append before
  written returnType statement := closeWithReturn_append indentUnit returnType before statement

theorem step_inside_eq_outside_iff (indentUnit : Text) (body : Body) (line : Text) :
    ((State.inside body).step indentUnit line).1 = .outside ↔ (body.advance line).depth = 0 := by
  by_cases hpos : 0 < (body.advance line).depth
  · simp only [State.step, hpos, if_true]
    constructor
    · intro h
      cases h
    · intro h
      omega
  · simp only [State.step, hpos, if_false, true_iff]
    omega

/-- A body closes just when it is at depth one and the line ends in its only brace. -/
theorem Body.closes_iff {body : Body} (hpos : 1 ≤ body.depth) {line : Text}
    (hl : WellBroken line) (indentUnit : Text) :
    ((State.inside body).step indentUnit line).1 = .outside ↔
      body.depth = 1 ∧ ∃ before, CutBefore indentUnit line before := by
  rw [step_inside_eq_outside_iff]
  constructor
  · intro hzero
    rw [Body.advance_depth] at hzero
    have hbraces := hl.count_braces_le_one
    obtain ⟨before, rfl, hbefore⟩ := hl.eq_append_close (by omega)
    exact ⟨by omega, before, cutBefore_append hbefore indentUnit⟩
  · rintro ⟨hone, before, hcut⟩
    rw [hcut.line_eq]
    exact Body.advance_close_depth hone hcut.braceless

/-! ## The lines since a body was opened -/

/-- The scan has stood inside one method since its body was opened at line `b`, and the depth
counts the braces that are open at line `i`. -/
structure Body.OpenSince (body : Body) (indentUnit : Text) (ls : List Text) (b i : Nat) :
    Prop where
  le : b ≤ i
  tracked : Tracked ls body.returnType b
  stayed : ∀ k, b ≤ k → k ≤ i →
    ∃ earlier, stateAt indentUnit ls k = .inside earlier ∧ earlier.returnType = body.returnType
  depth_pos : 1 ≤ body.depth
  depth_eq : (body.depth : Int) = depthBetween ls b i

theorem exists_openSince {indentUnit : Text} {ls : List Text}
    (hls : ∀ line ∈ ls, WellBroken line) {i : Nat} (hi : i ≤ ls.length) {body : Body}
    (hbody : stateAt indentUnit ls i = .inside body) :
    ∃ b, body.OpenSince indentUnit ls b i := by
  have hdesc := describes_stateAt indentUnit hls hi
  rw [hbody] at hdesc
  obtain ⟨b, htracked, hreads, hopen⟩ := hdesc
  refine ⟨b, hreads.le, htracked, ?_, hreads.depth_pos, hreads.depth_eq⟩
  -- The depth stays away from zero from the opening on, so no line in between closes the body.
  obtain ⟨h, header, hout, hheader, hstart, htype⟩ := htracked
  have hentered := stateAt_bodyStart (hout.stateAt_eq indentUnit hls) hheader hstart
  intro k hbk hki
  obtain ⟨earlier, hstate, hsame, -⟩ := stateAt_inside hls hentered hbk (by omega)
    fun j hbj hjk => hopen j hbj (by omega)
  exact ⟨earlier, hstate, hsame.trans htype.symm⟩

/-- In every state that the scan of a source reaches inside a method, the depth is at least one
and is one, plus the opening and minus the closing braces on the lines since the method was
opened. The next line moves it by at most one without running out of depth, and closes the method
exactly if the depth is one and the line ends in a closing brace, its only brace, where it is
cut. -/
theorem depth_counts_open_braces (indentUnit source : Text) {i : Nat}
    (hi : i ≤ (lines source).length) {body : Body}
    (hbody : stateAt indentUnit (lines source) i = .inside body) :
    (∃ b, body.OpenSince indentUnit (lines source) b i) ∧
      ∀ line, (lines source)[i]? = some line →
        body.MovesByOne line ∧
          (((State.inside body).step indentUnit line).1 = .outside ↔
            body.depth = 1 ∧ ∃ before, CutBefore indentUnit line before) := by
  have hwell : ∀ line ∈ lines source, WellBroken line := fun _ => wellBroken_of_mem_lines
  obtain ⟨b, hopen⟩ := exists_openSince hwell hi hbody
  refine ⟨⟨b, hopen⟩, ?_⟩
  intro line hline
  have hl : WellBroken line := hwell line (List.mem_of_getElem? hline)
  exact ⟨Body.movesByOne hopen.depth_pos hl, Body.closes_iff hopen.depth_pos hl indentUnit⟩

/-- A method whose brace stands on the next line, with a block inside and text before the last
brace. -/
def blockSource : Text := "public int f()\n\x7b if (a) \x7b b(); \x7d c();\x7d".toList

/-- At the end of the block the scan stands at depth two, on the last line at depth one. -/
theorem depth_counts_open_braces_block :
    stateAt [] (lines blockSource) 3 = .inside { Body.start (.primitive .int) with depth := 2 } ∧
      ((State.inside { Body.start (.primitive .int) with depth := 2 }).step []
        " b(); \x7d".toList).1 ≠ .outside ∧
      stateAt [] (lines blockSource) 4 = .inside (Body.start (.primitive .int)) ∧
      (∃ b, (Body.start (.primitive .int)).OpenSince [] (lines blockSource) b 4) ∧
      ∃ before, CutBefore [] " c();\x7d".toList before := by
  have hnested : stateAt [] (lines blockSource) 3 =
      .inside { Body.start (.primitive .int) with depth := 2 } := by decide +kernel
  have hlast : stateAt [] (lines blockSource) 4 = .inside (Body.start (.primitive .int)) := by
    decide +kernel
  obtain ⟨-, hinner⟩ := depth_counts_open_braces [] blockSource (by decide +kernel) hnested
  obtain ⟨hopen, houter⟩ := depth_counts_open_braces [] blockSource (by decide +kernel) hlast
  obtain ⟨-, hstays⟩ := hinner " b(); \x7d".toList (by decide +kernel)
  obtain ⟨-, hcloses⟩ := houter " c();\x7d".toList (by decide +kernel)
  refine ⟨hnested, ?_, hlast, hopen, (hcloses.mp (by decide +kernel)).2⟩
  intro hclosed
  exact absurd (hstays.mp hclosed).1 (by decide)

end FailureReplay.Source
