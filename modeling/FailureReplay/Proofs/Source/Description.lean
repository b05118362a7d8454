import FailureReplay.Proofs.Source.Tracked

/-!
# Normalized text by position

The normalized text is the list of lines of the source, each ended by a line feed,
except at the closing lines of tracked methods that lack a return: these are
written with one default return before their brace. The description is by
position and mentions no scanning state; exactly one list of blocks meets it.
-/

namespace FailureReplay.Source

/-- A tracked method closes at line `j`, its return type is not void, and none of its body lines
up to and including `j` is a return line. -/
def InsertsAt (ls : List Text) (j : Nat) (returnType : DeclaredType) : Prop :=
  returnType ≠ .void ∧ ∃ b, Tracked ls returnType b ∧ ClosesAt ls b j ∧
    ∀ k line, b ≤ k → k ≤ j → ls[k]? = some line → ¬ IsReturnLine line

/-- The closing line `before ++ "}"` with a default return before its brace. Text before the
brace keeps a line of its own. -/
def closingLines (indentUnit before statement : Text) : List Text :=
  let added := indentOf (before ++ ['}']) ++ indentUnit ++ statement
  if Text.allBlank before then [added, before ++ ['}']]
  else [Text.trimEnd before, added, indentOf (before ++ ['}']) ++ ['}']]

/-- The lines written for each line of a source. -/
structure Described (indentUnit : Text) (ls : List Text) (blocks : List (List Text)) : Prop where
  length_eq : blocks.length = ls.length
  kept : ∀ j line, ls[j]? = some line → (∀ returnType, ¬ InsertsAt ls j returnType) →
    blocks[j]? = some [line]
  inserted : ∀ j line returnType, ls[j]? = some line → InsertsAt ls j returnType →
    ∃ before statement, line = before ++ ['}'] ∧ returnType.defaultReturn? = some statement ∧
      blocks[j]? = some (closingLines indentUnit before statement)

/-- A description leaves no choice in any line. -/
theorem Described.unique {indentUnit : Text} {ls : List Text} {blocks other : List (List Text)}
    (h : Described indentUnit ls blocks) (h' : Described indentUnit ls other) :
    other = blocks := by
  apply List.ext_getElem?
  intro j
  by_cases hj : j < ls.length
  · have hline : ls[j]? = some ls[j] := List.getElem?_eq_getElem hj
    by_cases hins : ∃ returnType, InsertsAt ls j returnType
    · obtain ⟨returnType, hins⟩ := hins
      obtain ⟨before, statement, hbefore, hreturn, hget⟩ := h.inserted j _ _ hline hins
      obtain ⟨before', statement', hbefore', hreturn', hget'⟩ := h'.inserted j _ _ hline hins
      rw [hbefore'] at hbefore
      rw [hreturn'] at hreturn
      obtain rfl := List.append_cancel_right hbefore
      obtain rfl := Option.some.inj hreturn
      rw [hget, hget']
    · rw [h.kept j _ hline (not_exists.mp hins), h'.kept j _ hline (not_exists.mp hins)]
  · rw [List.getElem?_eq_none (by rw [h'.length_eq]; omega),
      List.getElem?_eq_none (by rw [h.length_eq]; omega)]

/-! ## The blocks a scan writes -/

/-- The pieces written for each line, from a state. -/
def written (indentUnit : Text) : State → List Text → List (List Piece)
  | _, [] => []
  | s, line :: rest =>
    (s.step indentUnit line).2 :: written indentUnit (s.step indentUnit line).1 rest

theorem scan_eq_flatten_written (indentUnit : Text) (s : State) (ls : List Text) :
    scan indentUnit s ls = (written indentUnit s ls).flatten := by
  induction ls generalizing s with
  | nil => rfl
  | cons line ls ih => rw [scan, ih, written, List.flatten_cons]

theorem length_written (indentUnit : Text) (s : State) (ls : List Text) :
    (written indentUnit s ls).length = ls.length := by
  induction ls generalizing s with
  | nil => rfl
  | cons line ls ih => rw [written, List.length_cons, ih, List.length_cons]

theorem getElem?_written (indentUnit : Text) (s : State) {ls : List Text} {j : Nat} {line : Text}
    (hline : ls[j]? = some line) :
    (written indentUnit s ls)[j]? =
      some ((s.after indentUnit (ls.take j)).step indentUnit line).2 := by
  induction ls generalizing s j with
  | nil => cases hline
  | cons first ls ih =>
    cases j with
    | zero =>
      obtain rfl := Option.some.inj hline
      rfl
    | succ j => exact ih (s.step indentUnit first).1 hline

/-- Where the description inserts a return, the scan stands in a body that lacks one. -/
theorem InsertsAt.lacks (indentUnit : Text) {ls : List Text}
    (hls : ∀ line ∈ ls, WellBroken line) {j : Nat} {line : Text} {returnType : DeclaredType}
    (hline : ls[j]? = some line) (h : InsertsAt ls j returnType) :
    ∃ body before statement, stateAt indentUnit ls j = .inside body ∧ line = before ++ ['}'] ∧
      returnType.defaultReturn? = some statement ∧ body.Lacks before statement := by
  obtain ⟨hvoid, b, ⟨i, header, hout, hh, hb, rfl⟩, hclose, hnone⟩ := h
  obtain ⟨statement, hreturn⟩ := 
    Option.isSome_iff_exists.mp ((DeclaredType.isSome_defaultReturn?_iff _).mpr hvoid)
  have hstart := stateAt_bodyStart (hout.stateAt_eq indentUnit hls) hh hb
  obtain ⟨body, hstate, htype, hreads⟩ :=
    stateAt_inside hls hstart hclose.le (Nat.le_of_lt hclose.lt_length) hclose.first
  have hwell : WellBroken line := hls line (List.mem_of_getElem? hline)
  have hdepth := hreads.advance_depth_eq hline hwell
  rw [hclose.depth_eq, Body.advance_depth] at hdepth
  have hpos := hreads.depth_pos
  have hone := hwell.count_close_le_one
  obtain ⟨before, rfl, hbefore⟩ := hwell.eq_append_close (by omega)
  have hsaw : ¬ body.sawReturn = true := by
    rw [hreads.sawReturn_iff]
    rintro ⟨k, l, hk, hlt, hget, hret⟩
    exact hnone k l hk (Nat.le_of_lt hlt) hget hret
  refine ⟨body, before, statement, hstate, rfl, hreturn, ?_, hbefore, by simpa using hsaw, ?_, ?_⟩
  · omega
  · exact hnone j _ hclose.le (Nat.le_refl j) hline
  · rw [htype]
    exact hreturn

/-- Where the scan stands in a body that lacks a return, the description inserts one. -/
theorem Body.Lacks.insertsAt {indentUnit : Text} {ls : List Text}
    (hls : ∀ line ∈ ls, WellBroken line) {j : Nat} {body : Body} {before statement : Text}
    (hline : ls[j]? = some (before ++ ['}'])) (hstate : stateAt indentUnit ls j = .inside body)
    (h : body.Lacks before statement) : InsertsAt ls j body.returnType := by
  have hlt : j < ls.length := (List.getElem?_eq_some_iff.mp hline).1
  have hdesc := describes_stateAt indentUnit hls (Nat.le_of_lt hlt)
  rw [hstate] at hdesc
  obtain ⟨b, htracked, hreads, hopen⟩ := hdesc
  have hwell : WellBroken (before ++ ['}']) := hls _ (List.mem_of_getElem? hline)
  have hvoid : body.returnType ≠ .void := by
    rw [← DeclaredType.isSome_defaultReturn?_iff, h.statement_eq]
    rfl
  have hzero := Body.advance_close_depth h.depth_eq h.braceless
  refine ⟨hvoid, b, htracked, hreads.closesAt hopen hline hwell hzero, ?_⟩
  intro k l hk hkj hget hret
  by_cases hkj' : k = j
  · subst hkj'
    rw [hline] at hget
    obtain rfl := Option.some.inj hget
    exact h.notReturnLine hret
  · have hsaw := hreads.sawReturn_iff.mpr ⟨k, l, hk, by omega, hget, hret⟩
    rw [h.noReturn] at hsaw
    cases hsaw

theorem map_line_insertion (indentUnit : Text) (returnType : DeclaredType)
    (before statement : Text) :
    (insertion indentUnit returnType before statement).map Piece.line =
      closingLines indentUnit before statement := by
  simp only [insertion, closingLines, returnLine]
  split <;> rfl

/-- The blocks that a scan from the outside writes are the described ones. -/
theorem described_written (indentUnit : Text) {ls : List Text}
    (hls : ∀ line ∈ ls, WellBroken line) :
    Described indentUnit ls
      ((written indentUnit .outside ls).map fun pieces => pieces.map Piece.line) := by
  refine ⟨by rw [List.length_map, length_written], ?_, ?_⟩
  · intro j line hline hnone
    have hlt : j < ls.length := (List.getElem?_eq_some_iff.mp hline).1
    have hready : (stateAt indentUnit ls j).Ready :=
      State.ready_after (s := .outside) trivial
        (fun l hl => hls l (List.mem_of_mem_take hl)) indentUnit
    rw [List.getElem?_map, getElem?_written indentUnit .outside hline, Option.map_some]
    change some (((stateAt indentUnit ls j).step indentUnit line).2.map Piece.line) = _
    rcases State.step_cases hready (hls line (List.mem_of_getElem? hline)) indentUnit with
      ⟨next, hstep, -⟩ | ⟨body, before, statement, hstate, rfl, hlacks⟩
    · rw [hstep]
      rfl
    · exact absurd (hlacks.insertsAt hls hline hstate) (hnone body.returnType)
  · intro j line returnType hline hins
    obtain ⟨body, before, statement, hstate, rfl, hreturn, hlacks⟩ :=
      hins.lacks indentUnit hls hline
    refine ⟨before, statement, rfl, hreturn, ?_⟩
    rw [List.getElem?_map, getElem?_written indentUnit .outside hline, Option.map_some]
    change some (((stateAt indentUnit ls j).step indentUnit (before ++ ['}'])).2.map Piece.line) = _
    rw [hstate, hlacks.step_eq, map_line_insertion]

/-- The normalized text is the described one: every line of the source on a line of its own, and
one default return in each closing line of a tracked method that is not void and has no return. -/
theorem normalize_eq_described (indentUnit source : Text) :
    ∃ blocks, Described indentUnit (lines source) blocks ∧
      (∀ other, Described indentUnit (lines source) other → other = blocks) ∧
      normalize indentUnit source = Text.unlines blocks.flatten := by
  have hwell : ∀ line ∈ lines source, WellBroken line := fun _ => wellBroken_of_mem_lines
  have hdesc := described_written indentUnit hwell
  refine ⟨_, hdesc, fun other hother => hdesc.unique hother, ?_⟩
  rw [normalize, pieces, scan_eq_flatten_written, List.map_flatten]

end FailureReplay.Source
