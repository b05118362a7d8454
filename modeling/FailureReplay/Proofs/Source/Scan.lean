import FailureReplay.Source.Scan
import FailureReplay.Proofs.DeclaredType
import FailureReplay.Proofs.Source.Lines
import FailureReplay.Proofs.Text.Words

/-!
# One line of the method scan

On well-broken lines a step of the scan does one of two things: it writes the
line as it is, or it closes a body at depth one whose lines hold no return and
writes the closing line around a default return. The second case is decided by
the state and the line alone, so every later result about a whole scan follows
from `State.step_cases` by induction over the lines.
-/

namespace FailureReplay.Source

open Text (visible isBlank)

/-- A text without a brace or a line feed. -/
def Plain (t : Text) : Prop := ∀ c ∈ t, isBrace c = false ∧ c ≠ '\n'

instance (t : Text) : Decidable (Plain t) :=
  decidable_of_iff (t.all fun c => !isBrace c && c != '\n') (by simp [Plain])

/-- What holds of every state between two lines: a body is open, and types are plain. -/
def State.Ready : State → Prop
  | .outside => True
  | .awaiting returnType => Plain returnType.render
  | .inside body => 1 ≤ body.depth ∧ Plain body.returnType.render

/-! ## Braces of a well-broken line -/

/-- A line has no brace, or one at its end. -/
theorem WellBroken.brace_cases {line : Text} (h : WellBroken line) :
    (∀ c ∈ line, isBrace c = false) ∨
      ∃ before c, line = before ++ [c] ∧ isBrace c = true ∧ ∀ d ∈ before, isBrace d = false := by
  by_cases hne : line = []
  · left
    simp [hne]
  · have hline := List.dropLast_concat_getLast hne
    by_cases hb : isBrace (line.getLast hne) = true
    · exact .inr ⟨line.dropLast, line.getLast hne, hline.symm, hb, h.braceLast⟩
    · left
      intro c hc
      rw [← hline] at hc
      rcases List.mem_append.mp hc with hc | hc
      · exact h.braceLast c hc
      · rw [List.mem_singleton.mp hc]
        simpa using hb

theorem count_open_eq_zero {t : Text} (h : ∀ c ∈ t, isBrace c = false) : t.count '{' = 0 :=
  List.count_eq_zero.mpr fun hm => absurd (h _ hm) (by decide)

theorem count_close_eq_zero {t : Text} (h : ∀ c ∈ t, isBrace c = false) : t.count '}' = 0 :=
  List.count_eq_zero.mpr fun hm => absurd (h _ hm) (by decide)

/-- A line that closes more than it opens ends in its only brace. -/
theorem WellBroken.eq_append_close {line : Text} (h : WellBroken line)
    (hc : line.count '{' < line.count '}') :
    ∃ before, line = before ++ ['}'] ∧ ∀ d ∈ before, isBrace d = false := by
  rcases h.brace_cases with hnone | ⟨before, c, rfl, hb, hbefore⟩
  · rw [count_close_eq_zero hnone] at hc
    omega
  · rcases (isBrace_iff c).mp hb with rfl | rfl
    · have hopen := count_close_eq_zero hbefore
      simp [hopen] at hc
    · exact ⟨before, rfl, hbefore⟩

/-- A line holds one brace at most. -/
theorem WellBroken.count_braces_le_one {line : Text} (h : WellBroken line) :
    line.count '{' + line.count '}' ≤ 1 := by
  rcases h.brace_cases with hnone | ⟨before, c, rfl, hb, hbefore⟩
  · rw [count_open_eq_zero hnone, count_close_eq_zero hnone]
    omega
  · rw [List.count_append, List.count_append, count_open_eq_zero hbefore,
      count_close_eq_zero hbefore]
    rcases (isBrace_iff c).mp hb with rfl | rfl <;> decide

theorem WellBroken.count_close_le_one {line : Text} (h : WellBroken line) :
    line.count '}' ≤ 1 := by
  have hbraces := h.count_braces_le_one
  omega

/-! ## The type of a header -/

/-- The type of a header on a well-broken line is plain: a third word follows it, so the line's
last character is not part of it. -/
theorem plain_headerType {line : Text} (h : WellBroken line) :
    Plain (headerType (Text.trim line)).render := by
  unfold headerType
  split
  · next first word third others hwords =>
    obtain ⟨blanks, rest, ht, hrest⟩ := Text.exists_of_words_eq_cons hwords
    obtain ⟨blanks', rest', rfl, hrest'⟩ := Text.exists_of_words_eq_cons hrest
    have hne : rest' ≠ [] := by
      rintro rfl
      cases hrest'
    have hpart : WellBroken (Text.trim line) := h.of_isInfix (Text.trim_isInfix line)
    intro c hc
    have hword : c ∈ word := DeclaredType.render_classify_subset word hc
    constructor
    · apply hpart.braceLast
      have hsplit : Text.trim line = (blanks ++ first ++ blanks' ++ word) ++ rest' := by
        rw [ht]; simp
      rw [hsplit, List.dropLast_append_of_ne_nil hne]
      simp [hword]
    · rintro rfl
      apply hpart.noFeed
      rw [ht]
      simp [hword]
  · intro c hc
    have hvoid : Plain DeclaredType.void.render := by decide
    exact hvoid c hc

theorem plain_defaultReturn? {t : DeclaredType} (ht : Plain t.render) {statement : Text}
    (h : t.defaultReturn? = some statement) :
    Plain statement := by
  intro c hc
  have hstock : Plain DeclaredType.stockChars := by decide
  rcases DeclaredType.mem_defaultReturn? h hc with hc | hc
  · exact ht c hc
  · exact hstock c hc

/-! ## The line that closes a body -/

theorem Body.advance_depth (b : Body) (line : Text) :
    (b.advance line).depth = b.depth + line.count '{' - line.count '}' := by
  have hopen := Text.count_trim (c := '{') (by decide) line
  have hclose := Text.count_trim (c := '}') (by decide) line
  simp only [Body.advance, hopen, hclose]

/-- A line that starts, trimmed, with `return `. -/
def IsReturnLine (line : Text) : Prop := "return ".toList <+: Text.trim line

theorem afterStart?_isSome_iff (start t : Text) :
    (Text.afterStart? start t).isSome = true ↔ start <+: t := by
  rw [Option.isSome_iff_ne_none, ne_eq, Text.afterStart?_eq_none_iff, not_not]

/-- A body has seen a return once one of its lines starts with it. -/
theorem Body.advance_sawReturn (b : Body) (line : Text) :
    (b.advance line).sawReturn = true ↔ b.sawReturn = true ∨ IsReturnLine line := by
  simp only [Body.advance, Bool.or_eq_true, afterStart?_isSome_iff, IsReturnLine]

/-- The line `before ++ "}"` closes a body that has no return, and `statement` is the default
return of its type. -/
structure Body.Lacks (b : Body) (before statement : Text) : Prop where
  depth_eq : b.depth = 1
  braceless : ∀ c ∈ before, isBrace c = false
  noReturn : b.sawReturn = false
  notReturnLine : ¬ IsReturnLine (before ++ ['}'])
  statement_eq : b.returnType.defaultReturn? = some statement

def returnLine (indentUnit before statement : Text) : Text :=
  indentOf (before ++ ['}']) ++ indentUnit ++ statement

/-- The closing line `before ++ "}"` with a default return before its brace. -/
def insertion (indentUnit : Text) (returnType : DeclaredType) (before statement : Text) :
    List Piece :=
  let added := .defaultReturn returnType (returnLine indentUnit before statement)
  if Text.allBlank before then [added, .source (before ++ ['}'])]
  else [.source (Text.trimEnd before), added, .source (indentOf (before ++ ['}']) ++ ['}'])]

theorem cutAtLastClose?_append (before : Text) :
    cutAtLastClose? (before ++ ['}']) = some (before, ['}']) := by
  induction before with
  | nil => rfl
  | cons c before ih => simp [cutAtLastClose?, ih]

theorem closeWithReturn_append (indentUnit : Text) (returnType : DeclaredType)
    (before statement : Text) :
    closeWithReturn indentUnit returnType statement (before ++ ['}']) =
      insertion indentUnit returnType before statement := by
  have htrim : Text.trim ['}'] = ['}'] := by decide
  simp only [closeWithReturn, cutAtLastClose?_append, htrim, insertion, returnLine]

theorem Body.advance_close_depth {b : Body} (hb : b.depth = 1) {before : Text}
    (h : ∀ c ∈ before, isBrace c = false) : (b.advance (before ++ ['}'])).depth = 0 := by
  rw [Body.advance_depth, hb, List.count_append, List.count_append, count_open_eq_zero h,
    count_close_eq_zero h]
  decide

theorem Body.Lacks.step_eq {b : Body} {before statement : Text} (h : b.Lacks before statement)
    (indentUnit : Text) :
    (State.inside b).step indentUnit (before ++ ['}']) =
      (.outside, insertion indentUnit b.returnType before statement) := by
  have hdepth := Body.advance_close_depth h.depth_eq h.braceless
  have hsaw : (b.advance (before ++ ['}'])).sawReturn = false := by
    rw [Bool.eq_false_iff, ne_eq, Body.advance_sawReturn, h.noReturn]
    simp [h.notReturnLine]
  have htype : (b.advance (before ++ ['}'])).returnType = b.returnType := rfl
  simp only [State.step, hdepth, Nat.lt_irrefl, if_false, Body.close, htype, h.statement_eq,
    hsaw, Bool.false_eq_true, closeWithReturn_append]

theorem ready_stepOutside {line : Text} (h : WellBroken line) : (stepOutside line).Ready := by
  simp only [stepOutside]
  split
  · split
    · exact ⟨Nat.le_refl 1, plain_headerType h⟩
    · exact plain_headerType h
  · trivial

/-- A step keeps the line, or closes a body that lacks a return. -/
theorem State.step_cases {s : State} (hs : s.Ready) {line : Text} (hl : WellBroken line)
    (indentUnit : Text) :
    (∃ next, s.step indentUnit line = (next, [.source line]) ∧ next.Ready) ∨
      ∃ b before statement, s = .inside b ∧ line = before ++ ['}'] ∧ b.Lacks before statement := by
  cases s with
  | outside => exact .inl ⟨stepOutside line, rfl, ready_stepOutside hl⟩
  | awaiting returnType =>
    refine .inl ⟨_, rfl, ?_⟩
    split
    · exact ⟨Nat.le_refl 1, hs⟩
    · trivial
  | inside b =>
    obtain ⟨hdepth, hplain⟩ := hs
    by_cases hopen : 0 < (b.advance line).depth
    · exact .inl ⟨.inside (b.advance line), by simp [State.step, hopen], hopen, hplain⟩
    · have hstep : (State.inside b).step indentUnit line =
          (.outside, (b.advance line).close indentUnit line) := by
        simp [State.step, hopen]
      have htype : (b.advance line).returnType = b.returnType := rfl
      cases hreturn : b.returnType.defaultReturn? with
      | none =>
        refine .inl ⟨.outside, ?_, trivial⟩
        simp [hstep, Body.close, htype, hreturn]
      | some statement =>
        by_cases hsaw : (b.advance line).sawReturn = true
        · refine .inl ⟨.outside, ?_, trivial⟩
          simp [hstep, Body.close, htype, hreturn, hsaw]
        · rw [Body.advance_depth] at hopen
          have hclose := hl.count_close_le_one
          obtain ⟨before, rfl, hbefore⟩ := hl.eq_append_close (by omega)
          rw [Body.advance_sawReturn, not_or] at hsaw
          refine .inr ⟨b, before, statement, rfl, rfl, ?_, hbefore, ?_, hsaw.2, hreturn⟩
          · omega
          · simpa using hsaw.1

/-- One line keeps the invariant of the scan: an open body stays open until it is left. -/
theorem State.ready_step {s : State} (hs : s.Ready) {line : Text} (hl : WellBroken line)
    (indentUnit : Text) : (s.step indentUnit line).1.Ready := by
  rcases State.step_cases hs hl indentUnit with ⟨next, hstep, hnext⟩ |
    ⟨b, before, statement, rfl, rfl, hlacks⟩
  · rw [hstep]
    exact hnext
  · rw [hlacks.step_eq]
    trivial

theorem State.ready_after {s : State} (hs : s.Ready) {ls : List Text}
    (hls : ∀ line ∈ ls, WellBroken line) (indentUnit : Text) :
    (s.after indentUnit ls).Ready := by
  induction ls generalizing s with
  | nil => exact hs
  | cons line ls ih =>
    exact ih (State.ready_step hs (hls line (by simp)) indentUnit)
      fun l hl => hls l (List.mem_cons_of_mem _ hl)

/-- A scan may be interrupted between any two lines. -/
theorem scan_append (indentUnit : Text) (s : State) (ls rest : List Text) :
    scan indentUnit s (ls ++ rest) =
      scan indentUnit s ls ++ scan indentUnit (s.after indentUnit ls) rest := by
  induction ls generalizing s with
  | nil => rfl
  | cons line ls ih =>
    rw [List.cons_append, scan, ih, scan, List.append_assoc]
    rfl

/-! ## The lines written -/

def IsIndent (t : Text) : Prop := ∀ c ∈ t, c = ' ' ∨ c = '\t'

instance (t : Text) : Decidable (IsIndent t) :=
  decidable_of_iff (t.all fun c => c == ' ' || c == '\t') (by simp [IsIndent])

theorem isIndent_indentOf (line : Text) : IsIndent (indentOf line) := by
  intro c hc
  simpa using List.mem_takeWhile_imp hc

theorem IsIndent.append {s t : Text} (hs : IsIndent s) (ht : IsIndent t) : IsIndent (s ++ t) := by
  intro c hc
  rcases List.mem_append.mp hc with hc | hc
  · exact hs c hc
  · exact ht c hc

theorem IsIndent.blank {t : Text} (h : IsIndent t) : ∀ c ∈ t, isBlank c = true := by
  intro c hc
  rcases h c hc with rfl | rfl <;> decide

theorem IsIndent.plain {t : Text} (h : IsIndent t) : Plain t := by
  intro c hc
  rcases h c hc with rfl | rfl <;> decide

theorem exists_step_of_mem_scan {indentUnit : Text} {s : State} (hs : s.Ready) {ls : List Text}
    (hls : ∀ line ∈ ls, WellBroken line) {p : Piece} (hp : p ∈ scan indentUnit s ls) :
    ∃ t : State, t.Ready ∧ ∃ line ∈ ls, p ∈ (t.step indentUnit line).2 := by
  induction ls generalizing s with
  | nil => cases hp
  | cons line ls ih =>
    rcases List.mem_append.mp hp with hp | hp
    · exact ⟨s, hs, line, by simp, hp⟩
    · obtain ⟨t, ht, l, hl, hmem⟩ := ih (State.ready_step hs (hls line (by simp)) indentUnit)
        (fun l hl => hls l (List.mem_cons_of_mem _ hl)) hp
      exact ⟨t, ht, l, List.mem_cons_of_mem _ hl, hmem⟩

/-- A piece of a scan is a line of the source, or stands in the closing line of a body that lacks
a return. -/
theorem mem_scan_cases {indentUnit : Text} {s : State} (hs : s.Ready) {ls : List Text}
    (hls : ∀ line ∈ ls, WellBroken line) {p : Piece} (hp : p ∈ scan indentUnit s ls) :
    (∃ line ∈ ls, p = .source line) ∨
      ∃ (b : Body) (before statement : Text), Plain b.returnType.render ∧ before ++ ['}'] ∈ ls ∧
        b.Lacks before statement ∧ p ∈ insertion indentUnit b.returnType before statement := by
  obtain ⟨t, ht, line, hline, hmem⟩ := exists_step_of_mem_scan hs hls hp
  rcases State.step_cases ht (hls line hline) indentUnit with ⟨next, hstep, -⟩ |
    ⟨b, before, statement, rfl, rfl, hlacks⟩
  · rw [hstep] at hmem
    exact .inl ⟨line, hline, List.mem_singleton.mp hmem⟩
  · rw [hlacks.step_eq] at hmem
    exact .inr ⟨b, before, statement, ht.2, hline, hlacks, hmem⟩

theorem mem_insertion {indentUnit : Text} {returnType : DeclaredType} {before statement : Text}
    {p : Piece} (h : p ∈ insertion indentUnit returnType before statement) :
    p = .defaultReturn returnType (returnLine indentUnit before statement) ∨
      p = .source (before ++ ['}']) ∨ p = .source (Text.trimEnd before) ∨
      p = .source (indentOf (before ++ ['}']) ++ ['}']) := by
  simp only [insertion] at h
  split at h
  · simp only [List.mem_cons, List.not_mem_nil, or_false] at h
    exact h.elim .inl fun h => .inr (.inl h)
  · simp only [List.mem_cons, List.not_mem_nil, or_false] at h
    rcases h with h | h | h
    · exact .inr (.inr (.inl h))
    · exact .inl h
    · exact .inr (.inr (.inr h))

theorem wellBroken_of_plain {t tail : Text} (ht : Plain t)
    (htail : tail = [] ∨ tail = ['}']) : WellBroken (t ++ tail) := by
  have hfeed : '\n' ∉ t := fun hm => (ht _ hm).2 rfl
  rcases htail with rfl | rfl
  · rw [List.append_nil]
    exact ⟨hfeed, fun c hc => (ht c (List.dropLast_subset t hc)).1⟩
  · refine ⟨by simp [hfeed], ?_⟩
    intro c hc
    rw [List.dropLast_concat] at hc
    exact (ht c hc).1

theorem plain_returnLine {indentUnit before statement : Text} (hu : IsIndent indentUnit)
    {returnType : DeclaredType} (hplain : Plain returnType.render)
    (h : returnType.defaultReturn? = some statement) :
    Plain (returnLine indentUnit before statement) := by
  intro c hc
  rcases List.mem_append.mp hc with hc | hc
  · exact ((isIndent_indentOf _).append hu).plain c hc
  · exact plain_defaultReturn? hplain h c hc

/-- Added lines are as well broken as those of the source. -/
theorem wellBroken_of_mem_scan {indentUnit : Text} (hu : IsIndent indentUnit) {s : State}
    (hs : s.Ready) {ls : List Text} (hls : ∀ line ∈ ls, WellBroken line) {p : Piece}
    (hp : p ∈ scan indentUnit s ls) : WellBroken p.line := by
  rcases mem_scan_cases hs hls hp with ⟨line, hline, rfl⟩ |
    ⟨b, before, statement, hplain, hline, hlacks, hmem⟩
  · exact hls line hline
  · have hwell : WellBroken (before ++ ['}']) := hls _ hline
    rcases mem_insertion hmem with rfl | rfl | rfl | rfl
    · have hreturn : Plain (returnLine indentUnit before statement) :=
        plain_returnLine hu hplain hlacks.statement_eq
      have h := wellBroken_of_plain hreturn (.inl rfl)
      rwa [List.append_nil] at h
    · exact hwell
    · exact hwell.of_isInfix
        ((Text.trimEnd_isPrefix before).isInfix.trans (List.prefix_append _ _).isInfix)
    · exact wellBroken_of_plain (isIndent_indentOf _).plain (.inr rfl)

theorem wellBroken_of_mem_pieces {indentUnit : Text} (hu : IsIndent indentUnit) {source : Text}
    {p : Piece} (hp : p ∈ pieces indentUnit source) : WellBroken p.line :=
  wellBroken_of_mem_scan hu (s := .outside) trivial (fun _ => wellBroken_of_mem_lines) hp

end FailureReplay.Source
