import FailureReplay.Proofs.DeclaredType

/-!
# Types in their own spelling

Classifying drops blanks at the ends, modifiers in front and one pair of brackets at
a time, and does so again at each pair. What is left of a text is bare: none of these
steps would change it, alone or with brackets put behind it. A classified type is
therefore spelled by a text that classifies to it.
-/

namespace FailureReplay.DeclaredType

open Text (isBlank trim beforeEnding?)

/-- A text that classifying reads as it stands: no blank at its ends, no modifier in front. -/
structure Bare (t : Text) : Prop where
  trimmed : trim t = t
  unmodified : ¬ "final ".toList <+: t

theorem dropFinal_eq_self {t : Text} (h : ¬ "final ".toList <+: t) : dropFinal t = t := by
  rw [dropFinal]
  split
  · next rest hrest => exact absurd ⟨rest, Text.append_of_afterStart? hrest⟩ h
  · rfl

theorem not_isPrefix_dropFinal (t : Text) : ¬ "final ".toList <+: dropFinal t := by
  fun_induction dropFinal t with
  | case1 t rest h ih => exact ih
  | case2 t h => exact Text.afterStart?_eq_none_iff.mp h

theorem head?_dropFinal {t : Text} (ht : ∀ c ∈ t.head?, isBlank c = false) :
    ∀ c ∈ (dropFinal t).head?, isBlank c = false := by
  fun_induction dropFinal t with
  | case1 t rest h ih => exact ih (Text.head?_trimStart rest)
  | case2 t h => exact ht

theorem getLast?_dropFinal {t : Text} (ht : ∀ c ∈ t.getLast?, isBlank c = false) :
    ∀ c ∈ (dropFinal t).getLast?, isBlank c = false := by
  intro c hc
  obtain ⟨front, hfront⟩ := dropFinal_isSuffix t
  apply ht c
  rw [← hfront, List.getLast?_append, Option.mem_def.mp hc]
  rfl

/-- One pass leaves nothing to trim and no modifier to drop. -/
theorem bare_dropFinal_trim (raw : Text) : Bare (dropFinal (trim raw)) where
  trimmed := Text.trim_eq_self (head?_dropFinal (Text.head?_trim raw))
    (getLast?_dropFinal (Text.getLast?_trim raw))
  unmodified := not_isPrefix_dropFinal (trim raw)

theorem Bare.dropFinal_trim {t : Text} (h : Bare t) : dropFinal (trim t) = t := by
  rw [h.trimmed, dropFinal_eq_self h.unmodified]

/-- Brackets behind a bare text do not make a modifier of its front. -/
theorem Bare.append_brackets {t : Text} (h : Bare t) : Bare (t ++ "[]".toList) where
  trimmed := by
    have hfirst := Text.head?_trim t
    rw [h.trimmed] at hfirst
    apply Text.trim_eq_self
    · intro c hc
      cases t with
      | nil =>
        obtain rfl : '[' = c := Option.some.inj hc
        decide
      | cons d rest => exact hfirst c hc
    · intro c hc
      rw [List.getLast?_append] at hc
      obtain rfl : ']' = c := Option.some.inj hc
      decide
  unmodified := by
    intro hmodified
    have hends : t ++ "[]".toList = t ++ ['['] ++ [']'] := by simp
    rw [hends, List.prefix_concat_iff, List.prefix_concat_iff] at hmodified
    obtain heq | heq | hfront := hmodified
    · have hlast := congrArg List.getLast? heq
      rw [List.getLast?_concat] at hlast
      revert hlast
      decide
    · have hlast := congrArg List.getLast? heq
      rw [List.getLast?_concat] at hlast
      revert hlast
      decide
    · exact h.unmodified hfront

/-! ## One pair of brackets -/

theorem classify_of_brackets {raw element : Text}
    (h : dropFinal (trim raw) = element ++ "[]".toList) :
    classify raw = .array (classify element) := by
  have hending := Text.beforeEnding?_eq_some_iff.mpr h.symm
  rw [classify]
  split
  · next inner hinner =>
    rw [hending] at hinner
    rw [Option.some.inj hinner]
  · next hnone =>
    rw [hending] at hnone
    cases hnone

theorem classify_of_name {raw : Text}
    (h : beforeEnding? "[]".toList (dropFinal (trim raw)) = none) :
    classify raw = ofName (dropFinal (trim raw)) := by
  rw [classify]
  split
  · next inner hinner =>
    rw [h] at hinner
    cases hinner
  · rfl

theorem Bare.classify_append_brackets {t : Text} (h : Bare t) :
    classify (t ++ "[]".toList) = .array (classify t) :=
  classify_of_brackets h.append_brackets.dropFinal_trim

theorem render_array (element : DeclaredType) :
    (array element).render = element.render ++ "[]".toList := rfl

/-- The spelling of a type that was read is read as it stands. -/
theorem bare_render_classify (raw : Text) : Bare (classify raw).render := by
  fun_induction classify raw with
  | case1 raw element h ih =>
    rw [render_array]
    exact ih.append_brackets
  | case2 raw h =>
    rw [render_ofName]
    exact bare_dropFinal_trim raw

/-- A type is spelled by a text that classifies to it. -/
theorem classify_render_classify (raw : Text) : classify (classify raw).render = classify raw := by
  fun_induction classify raw with
  | case1 raw element h ih =>
    rw [render_array, (bare_render_classify element).classify_append_brackets, ih]
  | case2 raw h =>
    have hbare := (bare_dropFinal_trim raw).dropFinal_trim
    rw [render_ofName, classify_of_name (by rw [hbare, h]), hbare]

end FailureReplay.DeclaredType
