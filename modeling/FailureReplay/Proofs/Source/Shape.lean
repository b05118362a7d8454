import FailureReplay.Config.Basic
import FailureReplay.Proofs.Source.Stability

/-!
# The shape of a normalized source

Whatever the source, the lines written are well broken and the last one is not
empty. So the text is empty or ends in exactly one line feed, and a brace is
always the last character of its line. Cutting the line feeds off its end and
writing one back changes nothing, unless there was nothing.
-/

namespace FailureReplay

/-- A configuration that can be used indents with spaces and tabs. -/
theorem Config.Valid.isIndent_indentUnit {config : Config} (h : config.Valid) :
    Source.IsIndent config.indentUnit := by
  rw [Config.Valid, Config.problem?] at h
  split_ifs at h with _ hindent _ _ _ _
  have hall : config.indentUnit.all isIndentChar = true := by simpa using hindent
  intro c hc
  simpa [isIndentChar] using List.all_eq_true.mp hall c hc

namespace Source

/-- A text of whole lines, the last one not empty, in which a brace ends its line. -/
structure Tidy (t : Text) : Prop where
  ending : t = [] ∨ ∃ body c, c ≠ '\n' ∧ t = body ++ [c, '\n']
  brace_last : ∀ before c after, t = before ++ c :: after → isBrace c = true →
    after.head? = some '\n'
  one_brace : ∀ line ∈ t.splitOn '\n', line.countP isBrace ≤ 1

theorem WellBroken.countP_isBrace_le_one {line : Text} (h : WellBroken line) :
    line.countP isBrace ≤ 1 := by
  have hnone : ∀ {part : Text}, (∀ c ∈ part, isBrace c = false) → part.countP isBrace = 0 := by
    intro part hpart
    simpa [List.countP_eq_zero] using hpart
  rcases h.brace_cases with hline | ⟨before, c, rfl, -, hbefore⟩
  · rw [hnone hline]
    omega
  · rw [List.countP_append, hnone hbefore, Nat.zero_add]
    exact List.countP_le_length

/-- Lines that are written out end in exactly one line feed if the last of them is not empty. -/
theorem ending_unlines {ls : List Text} (h : ∀ line ∈ ls, '\n' ∉ line)
    (hlast : ∀ line ∈ ls.getLast?, line ≠ []) :
    Text.unlines ls = [] ∨ ∃ body c, c ≠ '\n' ∧ Text.unlines ls = body ++ [c, '\n'] := by
  cases ls using List.reverseRecOn with
  | nil => exact .inl rfl
  | append_singleton front line =>
    have hne : line ≠ [] := hlast line (by simp)
    have hfeed : line.getLast hne ≠ '\n' := by
      intro heq
      exact h line (by simp) (heq ▸ List.getLast_mem hne)
    refine .inr ⟨Text.unlines front ++ line.dropLast, line.getLast hne, hfeed, ?_⟩
    calc Text.unlines (front ++ [line])
        = Text.unlines front ++ (line ++ ['\n']) := by simp [Text.unlines]
      _ = Text.unlines front ++ (line.dropLast ++ [line.getLast hne] ++ ['\n']) := by
        rw [List.dropLast_concat_getLast hne]
      _ = Text.unlines front ++ line.dropLast ++ [line.getLast hne, '\n'] := by simp

theorem tidy_unlines {ls : List Text} (h : ∀ line ∈ ls, WellBroken line)
    (hlast : ∀ line ∈ ls.getLast?, line ≠ []) : Tidy (Text.unlines ls) := by
  have hending := ending_unlines (fun line hline => (h line hline).noFeed) hlast
  -- Breaking the lines after braces once more changes nothing, so they are broken already.
  have hbroken : BracesBroken (Text.unlines ls) := by
    rw [← breakAfterBraces_unlines h]
    exact bracesBroken_breakAfterBraces _
  refine ⟨hending, ?_, ?_⟩
  · intro before c after heq hc
    cases after with
    | cons d after => rw [hbroken before c d after heq hc, List.head?_cons]
    | nil =>
      rw [heq] at hending
      rcases hending with hnil | ⟨body, last, -, hbody⟩
      · simp at hnil
      · have hfeed : c = '\n' := by simpa using congrArg List.getLast? hbody
        rw [hfeed] at hc
        cases hc
  · intro line hline
    exact (wellBroken_of_mem_splitOn hbroken hline).countP_isBrace_le_one

theorem tidy_normalize {indentUnit : Text} (hu : IsIndent indentUnit) (source : Text) :
    Tidy (normalize indentUnit source) := by
  apply tidy_unlines
  · intro line hline
    obtain ⟨p, hp, rfl⟩ := List.mem_map.mp hline
    exact wellBroken_of_mem_pieces hu hp
  · intro line hline
    rw [List.getLast?_map, Option.mem_def, Option.map_eq_some_iff] at hline
    obtain ⟨p, hp, rfl⟩ := hline
    exact getLast?_pieces_ne_nil indentUnit source p hp

/-- Cutting the line feeds off the end leaves all but the last one. -/
theorem Tidy.cut_feeds {t : Text} (h : Tidy t) (hne : t ≠ []) :
    (t.reverse.dropWhile (· = '\n')).reverse ++ ['\n'] = t := by
  obtain ⟨body, c, hc, rfl⟩ := h.ending.resolve_left hne
  simp [hc]

end Source
end FailureReplay
