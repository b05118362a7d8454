import FailureReplay.Source.Lines
import FailureReplay.Proofs.Text.Pieces
import FailureReplay.Proofs.Text.Trim

/-!
# Lines of a source

Every line of a source is free of line feeds and holds no brace before its last
character, and the last line is not empty. Only white space is lost or added on
the way from the source to its lines. Reading well-broken lines that were written
out again gives them back, less one carriage return at the end of each line and
less the empty lines at the end.
-/

namespace FailureReplay.Source

open Text (visible isBlank)

/-- A line without a line feed, and with no brace before its last character. -/
structure WellBroken (line : Text) : Prop where
  noFeed : '\n' ∉ line
  braceLast : ∀ c ∈ line.dropLast, isBrace c = false

theorem isBrace_iff (c : Char) : isBrace c = true ↔ c = '{' ∨ c = '}' := by
  simp [isBrace]

theorem not_blank_of_brace {c : Char} (h : isBrace c = true) : isBlank c = false := by
  rcases (isBrace_iff c).mp h with rfl | rfl <;> decide

theorem WellBroken.of_isInfix {line part : Text} (h : WellBroken line) (hp : part <:+: line) :
    WellBroken part := by
  obtain ⟨before, after, rfl⟩ := hp
  refine ⟨fun hf => h.noFeed (by simp [hf]), ?_⟩
  intro c hc
  apply h.braceLast c
  have hne : part ≠ [] := by rintro rfl; simp at hc
  cases after with
  | nil =>
    rw [List.append_nil, List.dropLast_append_of_ne_nil hne]
    exact List.mem_append_right _ hc
  | cons d after =>
    rw [List.dropLast_append_of_ne_nil (by simp)]
    have hpart : c ∈ part := List.dropLast_subset part hc
    simp [hpart]

/-! ## Splitting at line feeds -/

theorem visible_splitOn_feed (t : Text) : visible (t.splitOn '\n').flatten = visible t := by
  have hblank : isBlank '\n' = true := by decide
  induction t with
  | nil => rfl
  | cons c t ih =>
    rw [List.splitOn_cons_eq_if_modifyHead]
    by_cases hc : c = '\n'
    · simpa [hc, Text.visible_cons_of_blank hblank] using ih
    · obtain ⟨first, others, hs, -⟩ := Text.splitOn_eq_cons '\n' t
      rw [hs] at ih ⊢
      have hcons : visible (c :: t) = visible [c] ++ visible t := Text.visible_append [c] t
      simp only [beq_iff_eq, hc, if_false, List.modifyHead_cons, List.flatten_cons] at ih ⊢
      rw [hcons, ← ih, ← Text.visible_append]
      simp

theorem splitLines_eq_rdropWhile (t : Text) :
    splitLines t = (t.splitOn '\n').rdropWhile List.isEmpty := rfl

theorem splitLines_subset (t : Text) : splitLines t ⊆ t.splitOn '\n' := by
  have hpre := List.rdropWhile_prefix List.isEmpty (t.splitOn '\n')
  exact hpre.subset

theorem flatten_rdropWhile_isEmpty (ls : List Text) :
    (ls.rdropWhile List.isEmpty).flatten = ls.flatten := by
  have hsplit : ls.rdropWhile List.isEmpty ++ ls.rtakeWhile List.isEmpty = ls :=
    List.rdropWhile_append_rtakeWhile
  have hempty : (ls.rtakeWhile List.isEmpty).flatten = [] := by
    rw [List.flatten_eq_nil_iff]
    intro line hline
    exact List.isEmpty_iff.mp (List.mem_rtakeWhile_imp hline)
  conv_rhs => rw [← hsplit, List.flatten_append, hempty, List.append_nil]

/-! ## Breaking lines after braces -/

/-- A text in which every brace is followed by a line feed or ends the text. -/
def BracesBroken (t : Text) : Prop :=
  ∀ before c d after, t = before ++ c :: d :: after → isBrace c = true → d = '\n'

theorem breakAfterBraces_head? (t : Text) : (breakAfterBraces t).head? = t.head? := by
  cases t with
  | nil => rfl
  | cons c t => simp only [breakAfterBraces]; split <;> rfl

theorem bracesBroken_cons {c : Char} {t : Text}
    (hc : isBrace c = true → ∀ d ∈ t.head?, d = '\n') (ht : BracesBroken t) :
    BracesBroken (c :: t) := by
  intro before b d after heq hb
  cases before with
  | nil =>
    obtain ⟨rfl, rfl⟩ := List.cons.inj heq
    exact hc hb d rfl
  | cons e before =>
    obtain ⟨-, heq⟩ := List.cons.inj heq
    exact ht before b d after heq hb

/-- One pass breaks the line after every brace. -/
theorem bracesBroken_breakAfterBraces (t : Text) : BracesBroken (breakAfterBraces t) := by
  induction t with
  | nil =>
    intro before c d after heq
    simp [breakAfterBraces] at heq
  | cons c t ih =>
    simp only [breakAfterBraces]
    split
    · exact bracesBroken_cons (by simp) (bracesBroken_cons (by simp [isBrace]) ih)
    · next h =>
      refine bracesBroken_cons ?_ ih
      intro hc d hd
      rw [breakAfterBraces_head?] at hd
      simpa [hc, Option.mem_def.mp hd] using h

theorem wellBroken_of_mem_splitOn {t line : Text} (ht : BracesBroken t)
    (h : line ∈ t.splitOn '\n') : WellBroken line := by
  obtain ⟨hf, before, after, hpart⟩ := Text.of_mem_splitOn h
  refine ⟨hf, ?_⟩
  intro c hc
  by_contra hb
  have hne : line ≠ [] := by rintro rfl; simp at hc
  obtain ⟨l, r, hlr⟩ := List.append_of_mem hc
  have hline : line = l ++ c :: (r ++ [line.getLast hne]) := by
    conv_lhs => rw [← List.dropLast_concat_getLast hne, hlr]
    simp
  -- The character after the brace stands in the line, so it cannot be a line feed.
  obtain ⟨d, s, hds⟩ := List.exists_cons_of_ne_nil (l := r ++ [line.getLast hne]) (by simp)
  rw [hds] at hline
  have hd : d = '\n' := by
    apply ht (before ++ l) c d (s ++ after)
    · rw [← hpart, hline]; simp
    · simpa using hb
  exact hf (by rw [hline, hd]; simp)

theorem visible_breakAfterBraces (t : Text) : visible (breakAfterBraces t) = visible t := by
  have hblank : isBlank '\n' = true := by decide
  induction t with
  | nil => rfl
  | cons c t ih =>
    have hcons : ∀ s, visible (c :: s) = visible [c] ++ visible s := Text.visible_append [c]
    simp only [breakAfterBraces]
    split
    · rw [hcons, Text.visible_cons_of_blank hblank, ih, ← hcons]
    · rw [hcons, ih, ← hcons]

/-! ## The lines of a source -/

theorem visible_foldLineEnds (t : Text) : visible (foldLineEnds t) = visible t := by
  have hreturn : isBlank '\r' = true := by decide
  unfold foldLineEnds
  fun_induction Text.replacePair '\r' '\n' ['\n'] t with
  | case1 => rfl
  | case2 c => rfl
  | case3 c d rest h ih =>
    obtain ⟨rfl, rfl⟩ := h
    rw [Text.visible_append, ih, ← Text.visible_append, Text.visible_cons_of_blank hreturn]
    rfl
  | case4 c d rest h ih =>
    have hcons : ∀ s, visible (c :: s) = visible [c] ++ visible s := Text.visible_append [c]
    rw [hcons, ih, ← hcons]

/-- Every line of a source ends at its first brace. -/
theorem wellBroken_of_mem_lines {source line : Text} (h : line ∈ lines source) :
    WellBroken line := by
  have hsplit : line ∈ (breakAfterBraces (foldLineEnds source)).splitOn '\n' :=
    splitLines_subset _ h
  exact wellBroken_of_mem_splitOn (bracesBroken_breakAfterBraces _) hsplit

theorem getLast_lines_ne_nil {source : Text} (h : lines source ≠ []) :
    (lines source).getLast h ≠ [] := by
  have hlast := List.rdropWhile_last_not (p := List.isEmpty)
    ((breakAfterBraces (foldLineEnds source)).splitOn '\n') h
  intro hnil
  exact hlast (List.isEmpty_iff.mpr hnil)

theorem visible_flatten_lines (source : Text) :
    visible (lines source).flatten = visible source := by
  rw [lines, splitLines_eq_rdropWhile, flatten_rdropWhile_isEmpty, visible_splitOn_feed,
    visible_breakAfterBraces, visible_foldLineEnds]

/-! ## Reading written lines again -/

/-- A line without the carriage return at its end, if it has one. -/
def dropReturn (line : Text) : Text :=
  if line.getLast? = some '\r' then line.dropLast else line

theorem dropReturn_eq_self {line : Text} (h : line.getLast? ≠ some '\r') :
    dropReturn line = line := if_neg h

theorem dropReturn_isPrefix (line : Text) : dropReturn line <+: line := by
  unfold dropReturn
  split
  · exact List.dropLast_prefix line
  · exact List.prefix_rfl

theorem WellBroken.dropReturn {line : Text} (h : WellBroken line) :
    WellBroken (dropReturn line) :=
  h.of_isInfix (dropReturn_isPrefix line).isInfix

theorem trim_dropReturn (line : Text) : Text.trim (dropReturn line) = Text.trim line := by
  unfold Source.dropReturn
  split
  · next h =>
    have hline : line = line.dropLast ++ ['\r'] := (List.dropLast_append_getLast? _ h).symm
    have hblank : isBlank '\r' = true := by decide
    conv_rhs => rw [hline, Text.trim_append_blanks (by simpa using hblank)]
  · rfl

theorem foldLineEnds_cons_of_ne {c : Char} (hc : c ≠ '\r') (t : Text) :
    foldLineEnds (c :: t) = c :: foldLineEnds t := by
  cases t with
  | nil => rfl
  | cons d t => simp [foldLineEnds, Text.replacePair, hc]

theorem foldLineEnds_line {line : Text} (h : '\n' ∉ line) (rest : Text) :
    foldLineEnds (line ++ '\n' :: rest) = dropReturn line ++ '\n' :: foldLineEnds rest := by
  induction line with
  | nil => exact foldLineEnds_cons_of_ne (by decide) rest
  | cons c line ih =>
    have hline : '\n' ∉ line := fun hm => h (List.mem_cons_of_mem _ hm)
    cases line with
    | nil =>
      by_cases hc : c = '\r'
      · simp [hc, foldLineEnds, Text.replacePair, dropReturn]
      · have hfeed := foldLineEnds_cons_of_ne (c := '\n') (by decide) rest
        rw [List.singleton_append, foldLineEnds_cons_of_ne hc, hfeed,
          dropReturn_eq_self (by simpa using hc)]
        rfl
    | cons d line =>
      have hd : d ≠ '\n' := fun hd => h (by simp [hd])
      have hstep : foldLineEnds (c :: d :: line ++ '\n' :: rest) =
          c :: foldLineEnds (d :: line ++ '\n' :: rest) := by
        simp [foldLineEnds, Text.replacePair, hd]
      have hdrop : dropReturn (c :: d :: line) = c :: dropReturn (d :: line) := by
        simp only [dropReturn, List.getLast?_cons_cons, List.dropLast_cons_cons]
        split <;> rfl
      rw [hstep, ih hline, hdrop]
      rfl

theorem breakAfterBraces_line {line : Text} (h : WellBroken line) (rest : Text) :
    breakAfterBraces (line ++ '\n' :: rest) = line ++ '\n' :: breakAfterBraces rest := by
  induction line with
  | nil => simp [breakAfterBraces, isBrace]
  | cons c line ih =>
    have htail := ih (h.of_isInfix (List.suffix_cons c line).isInfix)
    cases line with
    | nil => simpa [breakAfterBraces] using htail
    | cons d line =>
      have hc : isBrace c = false := h.braceLast c (by simp)
      rw [List.cons_append, breakAfterBraces]
      simp only [hc, Bool.false_and, Bool.false_eq_true, if_false]
      rw [htail]
      rfl

theorem splitOn_unlines {ls : List Text} (h : ∀ line ∈ ls, '\n' ∉ line) :
    (Text.unlines ls).splitOn '\n' = ls ++ [[]] := by
  induction ls with
  | nil => rfl
  | cons line ls ih =>
    rw [Text.unlines_cons, List.splitOn_append_cons_self_of_not_mem (h line (by simp)),
      ih fun l hl => h l (List.mem_cons_of_mem _ hl)]
    rfl

theorem foldLineEnds_unlines {ls : List Text} (h : ∀ line ∈ ls, WellBroken line) :
    foldLineEnds (Text.unlines ls) = Text.unlines (ls.map dropReturn) := by
  induction ls with
  | nil => rfl
  | cons line ls ih =>
    rw [Text.unlines_cons, foldLineEnds_line (h line (by simp)).noFeed,
      ih fun l hl => h l (List.mem_cons_of_mem _ hl), List.map_cons, Text.unlines_cons]

theorem breakAfterBraces_unlines {ls : List Text} (h : ∀ line ∈ ls, WellBroken line) :
    breakAfterBraces (Text.unlines ls) = Text.unlines ls := by
  induction ls with
  | nil => rfl
  | cons line ls ih =>
    rw [Text.unlines_cons, breakAfterBraces_line (h line (by simp)),
      ih fun l hl => h l (List.mem_cons_of_mem _ hl)]

/-- Lines that are well broken are read as they stand, but for carriage returns at their ends and
empty lines behind them. -/
theorem lines_unlines {ls : List Text} (h : ∀ line ∈ ls, WellBroken line) :
    lines (Text.unlines ls) = (ls.map dropReturn).rdropWhile List.isEmpty := by
  have hdrop : ∀ line ∈ ls.map dropReturn, WellBroken line := by
    intro line hline
    obtain ⟨l, hl, rfl⟩ := List.mem_map.mp hline
    exact (h l hl).dropReturn
  rw [lines, splitLines_eq_rdropWhile, foldLineEnds_unlines h, breakAfterBraces_unlines hdrop,
    splitOn_unlines fun line hline => (hdrop line hline).noFeed]
  exact List.rdropWhile_concat_pos _ _ _ rfl

/-! ## Carriage returns at line ends -/

/-- A carriage return stands before a line feed or at the end of the text. -/
def LooseReturn : Text → Prop
  | [] => False
  | [c] => c = '\r'
  | c :: d :: t => c = '\r' ∧ d = '\n' ∨ LooseReturn (d :: t)

theorem looseReturn_iff (t : Text) :
    LooseReturn t ↔ ['\r', '\n'] <:+: t ∨ t.getLast? = some '\r' := by
  fun_induction LooseReturn t with
  | case1 => simp
  | case2 c => simp [List.infix_cons_iff]
  | case3 c d t ih =>
    have hpart : ['\r', '\n'] <:+: c :: d :: t ↔
        ['\r', '\n'] <+: c :: d :: t ∨ ['\r', '\n'] <:+: d :: t := List.infix_cons_iff
    rw [ih, List.getLast?_cons_cons, hpart, ← or_assoc]
    simp [eq_comm]

theorem looseReturn_cons_of_ne {c : Char} (hc : c ≠ '\r') (t : Text) :
    LooseReturn (c :: t) ↔ LooseReturn t := by
  cases t with
  | nil => simp [LooseReturn, hc]
  | cons d t => simp [LooseReturn, hc]

/-- Breaking lines neither makes nor hides a loose carriage return. -/
theorem looseReturn_breakAfterBraces (t : Text) :
    LooseReturn (breakAfterBraces t) ↔ LooseReturn t := by
  induction t with
  | nil => rfl
  | cons c t ih =>
    by_cases hc : c = '\r'
    · have hcons : breakAfterBraces (c :: t) = c :: breakAfterBraces t := by
        simp [breakAfterBraces, hc, isBrace]
      have hhead := breakAfterBraces_head? t
      rw [hcons]
      cases ht : breakAfterBraces t with
      | nil => cases t <;> simp_all
      | cons d s =>
        cases t with
        | nil => simp [breakAfterBraces] at ht
        | cons e t =>
          obtain rfl : d = e := by simpa [ht] using hhead
          rw [ht] at ih
          rw [LooseReturn, LooseReturn, ih]
    · rw [looseReturn_cons_of_ne hc]
      simp only [breakAfterBraces]
      split
      · rw [looseReturn_cons_of_ne hc, looseReturn_cons_of_ne (by decide), ih]
      · rw [looseReturn_cons_of_ne hc, ih]

theorem looseReturn_iff_exists_line (t : Text) :
    LooseReturn t ↔ ∃ line ∈ t.splitOn '\n', line.getLast? = some '\r' := by
  fun_induction LooseReturn t with
  | case1 => simp
  | case2 c =>
    rw [List.splitOn_cons_eq_if_modifyHead]
    by_cases hc : c = '\n'
    · simp [hc]
    · simp [hc]
  | case3 c d t ih =>
    rw [ih, List.splitOn_cons_eq_if_modifyHead (x := c)]
    by_cases hc : c = '\n'
    · simp [hc]
    · have hd := List.splitOn_cons_eq_if_modifyHead (a := '\n') d t
      obtain ⟨first, others, hs, -⟩ := Text.splitOn_eq_cons '\n' t
      rw [hs] at hd
      rw [hd]
      by_cases hdn : d = '\n'
      · simp [hdn, hc]
      · simp [hdn, hc]

/-- Some line of a source ends in a carriage return just when the source, with its line ends
folded, still has one before a line feed or at its end. -/
theorem exists_line_return_iff (source : Text) :
    (∃ line ∈ lines source, line.getLast? = some '\r') ↔ LooseReturn (foldLineEnds source) := by
  rw [← looseReturn_breakAfterBraces, looseReturn_iff_exists_line, lines]
  constructor
  · rintro ⟨line, hline, hlast⟩
    exact ⟨line, splitLines_subset _ hline, hlast⟩
  · rintro ⟨line, hline, hlast⟩
    refine ⟨line, ?_, hlast⟩
    rw [splitLines_eq_rdropWhile]
    rw [← List.rdropWhile_append_rtakeWhile (p := List.isEmpty)
      (l := (breakAfterBraces (foldLineEnds source)).splitOn '\n')] at hline
    rcases List.mem_append.mp hline with hkept | hdropped
    · exact hkept
    · have hnil := List.isEmpty_iff.mp (List.mem_rtakeWhile_imp hdropped)
      simp [hnil] at hlast

end FailureReplay.Source
