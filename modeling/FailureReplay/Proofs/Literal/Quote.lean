import FailureReplay.Literal.Quote
import FailureReplay.Proofs.Literal.Decoded

/-!
# String literals of texts

A string literal keeps every character of its text and adds a backslash before
each backslash and each quote. Taking the quotes off a literal leaves these
backslashes in it, so quoting a token that is quoted already gives the same literal
back only if its text holds nothing to escape.
-/

namespace FailureReplay.Literal

def escaped (t : Text) : Text := t.flatMap quoteChar

theorem quote_eq (t : Text) : quote t = '"' :: escaped t ++ ['"'] := rfl

theorem escaped_cons (c : Char) (t : Text) : escaped (c :: t) = quoteChar c ++ escaped t :=
  List.flatMap_cons

theorem quoteChar_of_ne {c : Char} (hslash : c ≠ '\\') (hquote : c ≠ '"') : quoteChar c = [c] := by
  rw [quoteChar, if_neg hslash, if_neg hquote]

/-- The three ways to write a character. -/
theorem quoteChar_cases (c : Char) :
    (c = '\\' ∧ quoteChar c = ['\\', '\\']) ∨ (c = '"' ∧ quoteChar c = ['\\', '"']) ∨
      (c ≠ '\\' ∧ c ≠ '"' ∧ quoteChar c = [c]) := by
  by_cases hslash : c = '\\'
  · exact .inl ⟨hslash, by rw [hslash]; rfl⟩
  · by_cases hquote : c = '"'
    · exact .inr (.inl ⟨hquote, by rw [hquote]; rfl⟩)
    · exact .inr (.inr ⟨hslash, hquote, quoteChar_of_ne hslash hquote⟩)

/-! ## Characters that are kept -/

theorem count_escaped {c : Char} (hslash : c ≠ '\\') (hquote : c ≠ '"') (t : Text) :
    (escaped t).count c = t.count c := by
  induction t with
  | nil => rfl
  | cons d t ih =>
    have hchar : (quoteChar d).count c = [d].count c := by
      rcases quoteChar_cases d with ⟨rfl, hd⟩ | ⟨rfl, hd⟩ | ⟨-, -, hd⟩
      · simp [hd, hslash.symm]
      · simp [hd, hslash.symm, hquote.symm]
      · rw [hd]
    rw [escaped_cons, List.count_append, ih, hchar, ← List.count_append, List.singleton_append]

theorem count_quote {c : Char} (hslash : c ≠ '\\') (hquote : c ≠ '"') (t : Text) :
    (quote t).count c = t.count c := by
  rw [quote_eq, List.cons_append, List.count_cons_of_ne hquote.symm, List.count_append,
    count_escaped hslash hquote]
  simp [hquote.symm]

theorem count_unquote {c : Char} (hquote : c ≠ '"') (token : Text) :
    (unquote token).count c = token.count c := by
  unfold unquote
  cases henclosed : Text.enclosed? '"' '"' token with
  | none => rfl
  | some inner =>
    rw [Text.eq_of_enclosed? henclosed]
    simp [hquote.symm]

/-! ## Quoting what is quoted -/

/-- Taking the quotes off does not undo the escapes. -/
theorem unquote_quote (t : Text) : unquote (quote t) = escaped t := by
  rw [unquote, quote_eq, Text.enclosed?_enclosing]
  rfl

theorem length_le_escaped (t : Text) : t.length ≤ (escaped t).length := by
  induction t with
  | nil => rfl
  | cons c t ih =>
    have hchar : 1 ≤ (quoteChar c).length := by
      rcases quoteChar_cases c with ⟨-, hc⟩ | ⟨-, hc⟩ | ⟨-, -, hc⟩ <;> simp [hc]
    rw [escaped_cons, List.length_append, List.length_cons]
    omega

/-- A token does not get shorter by being quoted anew. -/
theorem length_le_quote_unquote (token : Text) :
    token.length ≤ (quote (unquote token)).length := by
  have hgrown := length_le_escaped (unquote token)
  have hquote : (quote (unquote token)).length = (escaped (unquote token)).length + 2 := by
    simp [quote_eq]
  have hbare : token.length ≤ (unquote token).length + 2 := by
    unfold unquote
    cases henclosed : Text.enclosed? '"' '"' token with
    | none => exact Nat.le_add_right _ _
    | some inner =>
      rw [Text.eq_of_enclosed? henclosed]
      simp
  omega

/-- Escaping leaves a text as it is only if there is nothing to escape. -/
theorem escaped_eq_self_iff (t : Text) : escaped t = t ↔ '\\' ∉ t ∧ '"' ∉ t := by
  induction t with
  | nil => simp [escaped]
  | cons c t ih =>
    rcases quoteChar_cases c with ⟨rfl, hc⟩ | ⟨rfl, hc⟩ | ⟨hslash, hquote, hc⟩
    · have hgrown := length_le_escaped t
      have hlong : '\\' :: escaped t ≠ t := by
        intro heq
        have hlength := congrArg List.length heq
        rw [List.length_cons] at hlength
        omega
      simpa [escaped_cons, hc] using hlong
    · simp [escaped_cons, hc]
    · simp [escaped_cons, hc, ih, hslash.symm, hquote.symm]

theorem backslash_mem_escaped_iff (t : Text) : '\\' ∈ escaped t ↔ '\\' ∈ t ∨ '"' ∈ t := by
  induction t with
  | nil => simp [escaped]
  | cons c t ih =>
    rcases quoteChar_cases c with ⟨rfl, hc⟩ | ⟨rfl, hc⟩ | ⟨hslash, hquote, hc⟩
    · simp [escaped_cons, hc]
    · simp [escaped_cons, hc]
    · simp [escaped_cons, hc, ih, hslash.symm, hquote.symm]

/-- A literal stays as it is when it is quoted anew exactly if its text holds neither backslashes
nor quotes. -/
theorem quote_unquote_quote_iff (t : Text) :
    quote (unquote (quote t)) = quote t ↔ '\\' ∉ t ∧ '"' ∉ t := by
  have hcancel : quote (escaped t) = quote t ↔ escaped (escaped t) = escaped t := by
    simp [quote_eq]
  rw [unquote_quote, hcancel, escaped_eq_self_iff]
  constructor
  · rintro ⟨hslash, -⟩
    rwa [backslash_mem_escaped_iff, not_or] at hslash
  · intro h
    rw [(escaped_eq_self_iff t).mpr h]
    exact h

end FailureReplay.Literal
