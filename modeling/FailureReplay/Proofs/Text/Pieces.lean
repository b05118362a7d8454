import FailureReplay.Text.Basic
import Mathlib.Algebra.Ring.Nat

/-!
# Pieces of a text

Splitting a text at a separator gives pieces without it, each a part of the text,
and a character of the text other than the separator stands in one of them. Lines are
pieces that end in a line feed each.
-/

namespace FailureReplay.Text

/-- The first piece of a split starts the text, the others stand inside it, and none holds the
separator. -/
theorem splitOn_eq_cons (sep : Char) (t : Text) :
    ∃ first others, t.splitOn sep = first :: others ∧ sep ∉ first ∧ first <+: t ∧
      ∀ piece ∈ others, sep ∉ piece ∧ piece <:+: t := by
  induction t with
  | nil => exact ⟨[], [], by simp, by simp, List.prefix_rfl, by simp⟩
  | cons c t ih =>
    obtain ⟨first, others, hs, hf, hpre, hothers⟩ := ih
    have hstep := List.splitOn_cons_eq_if_modifyHead c t (a := sep)
    rw [hs] at hstep
    by_cases hc : c = sep
    · refine ⟨[], first :: others, by simpa [hc] using hstep, by simp, List.nil_prefix, ?_⟩
      intro piece hpiece
      rcases List.mem_cons.mp hpiece with rfl | hpiece
      · exact ⟨hf, hpre.isInfix.trans (List.suffix_cons c t).isInfix⟩
      · exact ⟨(hothers piece hpiece).1,
          (hothers piece hpiece).2.trans (List.suffix_cons c t).isInfix⟩
    · refine ⟨c :: first, others, by simpa [hc] using hstep, ?_, by simpa using hpre, ?_⟩
      · rintro (_ | ⟨_, hm⟩)
        · exact hc rfl
        · exact hf hm
      · intro piece hpiece
        exact ⟨(hothers piece hpiece).1,
          (hothers piece hpiece).2.trans (List.suffix_cons c t).isInfix⟩

theorem of_mem_splitOn {sep : Char} {t piece : Text} (h : piece ∈ t.splitOn sep) :
    sep ∉ piece ∧ piece <:+: t := by
  obtain ⟨first, others, hs, hf, hpre, hothers⟩ := splitOn_eq_cons sep t
  rw [hs] at h
  rcases List.mem_cons.mp h with rfl | h
  · exact ⟨hf, hpre.isInfix⟩
  · exact hothers piece h

/-- Nothing but separators is lost in a split. -/
theorem eq_or_mem_of_splitOn (sep : Char) {t : Text} {c : Char} (hc : c ∈ t) :
    c = sep ∨ ∃ piece ∈ t.splitOn sep, c ∈ piece := by
  induction t with
  | nil => cases hc
  | cons d t ih =>
    obtain ⟨first, others, hsplit, -⟩ := splitOn_eq_cons sep t
    rw [List.splitOn_cons_eq_if_modifyHead]
    rw [hsplit] at ih ⊢
    by_cases hd : d = sep
    · rcases List.mem_cons.mp hc with rfl | hc
      · exact .inl hd
      · simpa [hd] using ih hc
    · rcases List.mem_cons.mp hc with rfl | hc
      · exact .inr ⟨c :: first, by simp [hd], by simp⟩
      · have hmem := ih hc
        simp only [List.mem_cons, exists_eq_or_imp] at hmem
        rcases hmem with rfl | hmem | hmem
        · exact .inl rfl
        · exact .inr ⟨d :: first, by simp [hd], List.mem_cons_of_mem _ hmem⟩
        · obtain ⟨piece, hpiece, hcp⟩ := hmem
          exact .inr ⟨piece, by simp [hd, hpiece], hcp⟩

/-! ## Joined pieces -/

theorem join_cons_cons (sep : String) (s t : Text) (ts : List Text) :
    join sep (s :: t :: ts) = s ++ (sep.toList ++ join sep (t :: ts)) := by
  simp [join, List.intercalate_cons_cons]

theorem join_singleton (sep : String) (t : Text) : join sep [t] = t := by
  simp [join]

theorem mem_join {sep : String} {ts : List Text} {c : Char} (h : c ∈ join sep ts) :
    c ∈ sep.toList ∨ ∃ t ∈ ts, c ∈ t := by
  induction ts with
  | nil => simp [join] at h
  | cons s ts ih =>
    cases ts with
    | nil => exact .inr ⟨s, by simp, by rwa [join_singleton] at h⟩
    | cons t ts =>
      rw [join_cons_cons, List.mem_append, List.mem_append] at h
      rcases h with h | h | h
      · exact .inr ⟨s, by simp, h⟩
      · exact .inl h
      · rcases ih h with h | ⟨u, hu, h⟩
        · exact .inl h
        · exact .inr ⟨u, List.mem_cons_of_mem _ hu, h⟩

theorem count_join {c : Char} {sep : String} (hsep : c ∉ sep.toList) (ts : List Text) :
    (join sep ts).count c = (ts.map (List.count c)).sum := by
  have hzero : sep.toList.count c = 0 := List.count_eq_zero.mpr hsep
  induction ts with
  | nil => rfl
  | cons t ts ih =>
    cases ts with
    | nil => simp [join_singleton]
    | cons s ts =>
      rw [join_cons_cons, List.count_append, List.count_append, hzero, ih]
      simp

/-- A split keeps every character but the separators. -/
theorem sum_count_splitOn {c : Char} {sep : Char} (hc : c ≠ sep) (t : Text) :
    ((t.splitOn sep).map (List.count c)).sum = t.count c := by
  have hjoin : join (String.singleton sep) (t.splitOn sep) = t := by
    rw [join, String.toList_singleton]
    exact List.intercalate_splitOn sep
  have hsep : c ∉ (String.singleton sep).toList := by simpa using hc
  rw [← count_join hsep, hjoin]

/-- A joined text starts and ends as one of its pieces does. -/
theorem exists_ends_of_join (sep : String) {ts : List Text} (h : ∀ t ∈ ts, t ≠ []) :
    (∀ c ∈ (join sep ts).head?, ∃ t ∈ ts, c ∈ t.head?) ∧
      ∀ c ∈ (join sep ts).getLast?, ∃ t ∈ ts, c ∈ t.getLast? := by
  induction ts with
  | nil => simp [join]
  | cons s ts ih =>
    have hs : s ≠ [] := h s (by simp)
    have hrest := (ih fun t ht => h t (List.mem_cons_of_mem _ ht)).2
    cases ts with
    | nil => simp [join_singleton]
    | cons t ts =>
      rw [join_cons_cons]
      constructor
      · intro c hc
        obtain ⟨d, s, rfl⟩ := List.exists_cons_of_ne_nil hs
        exact ⟨d :: s, by simp, hc⟩
      · intro c hc
        -- The last character stands behind the separator, since no later piece is empty.
        cases hlast : (join sep (t :: ts)).getLast? with
        | none =>
          have hnil : t = [] := by
            rw [List.getLast?_eq_none_iff] at hlast
            cases ts with
            | nil => rwa [join_singleton] at hlast
            | cons u us =>
              rw [join_cons_cons] at hlast
              exact (List.append_eq_nil_iff.mp hlast).1
          exact absurd hnil (h t (by simp))
        | some d =>
          rw [List.getLast?_append, List.getLast?_append, hlast, Option.some_or, Option.some_or]
            at hc
          obtain ⟨u, hu, hd⟩ := hrest d hlast
          exact ⟨u, List.mem_cons_of_mem _ hu, by rwa [← Option.some.inj hc]⟩

/-! ## Lines -/

theorem unlines_cons (line : Text) (ls : List Text) :
    unlines (line :: ls) = line ++ '\n' :: unlines ls := by
  simp [unlines]

theorem unlines_append (ls rest : List Text) :
    unlines (ls ++ rest) = unlines ls ++ unlines rest := List.flatMap_append

/-- The line feed of each line but the last may be counted to the line behind it. -/
theorem unlines_cons_eq (first : Text) (ls : List Text) :
    unlines (first :: ls) = first ++ ls.flatMap ('\n' :: ·) ++ ['\n'] := by
  induction ls generalizing first with
  | nil => simp [unlines]
  | cons line ls ih =>
    rw [unlines_cons, ih]
    simp

end FailureReplay.Text
