import FailureReplay.Argument
import FailureReplay.Expectation
import FailureReplay.Proofs.Literal.Quote

/-!
# Text arrays as arguments and as results

A text array in brackets is written by two rules. As an argument it loses the one
pair of brackets around it, as an expected result it loses every bracket. Both then
divide what is left at its commas and write each element as a string literal.
Writing the elements keeps their brackets, so the two literals are the same exactly
if no element holds one.
-/

namespace FailureReplay

namespace Literal

/-- What is written between the braces of a text array. -/
def textElements (inner : Text) : Text :=
  if Text.allBlank inner then []
  else Text.join ", " ((inner.splitOn ',').map fun element => quote (unquote (Text.trim element)))

theorem arrayOf_inj {element s t : Text} : arrayOf element s = arrayOf element t ↔ s = t := by
  unfold arrayOf
  generalize "new ".toList = keyword
  generalize "[]\x7b".toList = opening
  simp

theorem textArray_inj {s t : Text} :
    textArray s = textArray t ↔ textElements s = textElements t := arrayOf_inj

/-- Visible characters that neither divide the elements nor are escaped stay as they are. -/
theorem count_textElements {c : Char} (hvisible : Text.isBlank c = false) (hcomma : c ≠ ',')
    (hslash : c ≠ '\\') (hquote : c ≠ '"') (inner : Text) :
    (textElements inner).count c = inner.count c := by
  unfold textElements
  split
  · next hblank =>
    have hnone : c ∉ inner := by
      intro hc
      rw [List.all_eq_true.mp hblank c hc] at hvisible
      cases hvisible
    rw [List.count_eq_zero.mpr hnone]
    rfl
  · have hsep : c ∉ ", ".toList := by
      have hspace : c ≠ ' ' := by
        rintro rfl
        cases hvisible
      simp [hcomma, hspace]
    have helement : ∀ element : Text,
        (quote (unquote (Text.trim element))).count c = element.count c := by
      intro element
      rw [count_quote hslash hquote, count_unquote hquote, Text.count_trim hvisible]
    rw [Text.count_join hsep, List.map_map, ← Text.sum_count_splitOn hcomma]
    exact congrArg List.sum (List.map_congr_left fun element _ => helement element)

end Literal

namespace Expectation

theorem dropBrackets_eq_self {t : Text} (hopen : '[' ∉ t) (hclose : ']' ∉ t) :
    dropBrackets t = t := by
  apply List.filter_eq_self.mpr
  intro c hc
  have hc' : c ≠ '[' ∧ c ≠ ']' := ⟨fun h => hopen (h ▸ hc), fun h => hclose (h ▸ hc)⟩
  simp [hc']

theorem dropBrackets_enclosing (inner : Text) :
    dropBrackets ('[' :: inner ++ [']']) = dropBrackets inner := by
  simp [dropBrackets]

theorem not_mem_dropBrackets (t : Text) : '[' ∉ dropBrackets t ∧ ']' ∉ dropBrackets t := by
  simp [dropBrackets]

/-- The elements are written with their brackets, so dropping these shows. -/
theorem textArray_dropBrackets_iff (inner : Text) :
    Literal.textArray inner = Literal.textArray (dropBrackets inner) ↔
      '[' ∉ inner ∧ ']' ∉ inner := by
  obtain ⟨hopen, hclose⟩ := not_mem_dropBrackets inner
  rw [Literal.textArray_inj]
  constructor
  · intro h
    have hkept : ∀ c, Text.isBlank c = false → c ≠ ',' → c ≠ '\\' → c ≠ '"' →
        c ∉ dropBrackets inner → c ∉ inner := by
      intro c hvisible hcomma hslash hquote hdropped
      have hcount := congrArg (List.count c) h
      rw [Literal.count_textElements hvisible hcomma hslash hquote,
        Literal.count_textElements hvisible hcomma hslash hquote] at hcount
      rw [← List.count_eq_zero, hcount, List.count_eq_zero]
      exact hdropped
    exact ⟨hkept '[' (by decide) (by decide) (by decide) (by decide) hopen,
      hkept ']' (by decide) (by decide) (by decide) (by decide) hclose⟩
  · rintro ⟨hopen, hclose⟩
    rw [dropBrackets_eq_self hopen hclose]

end Expectation

namespace Argument

/-- A payload that is one bracketed token is written as a text array without a warning. -/
theorem encode_textArray {payload inner : Text}
    (honly : Payload.tokens payload = ['[' :: inner ++ [']']]) (placeholder : Text) :
    encode placeholder [.array .text] payload = [⟨Literal.textArray inner, none⟩] := by
  have htoken : encodeOne placeholder 0 (.array .text) ('[' :: inner ++ [']']) =
      ⟨Literal.textArray inner, none⟩ := by
    rw [encodeOne, encodeArray, Text.enclosed?_enclosing]
    rfl
  rw [encode, honly, ← htoken]
  rfl

/-- A text array that is the only token of a payload has the same literal as an argument and as an
expected result exactly if there is no bracket inside its brackets. As an argument it raises no
warning. -/
theorem textArrays_agree_iff {payload inner : Text}
    (honly : Payload.tokens payload = ['[' :: inner ++ [']']]) (placeholder : Text) :
    (literals (encode placeholder [.array .text] payload) =
        [Expectation.encode (.array .text) ('[' :: inner ++ [']'])] ↔
      '[' ∉ inner ∧ ']' ∉ inner) ∧
      warnings (encode placeholder [.array .text] payload) = [] := by
  have hexpected : Expectation.encode (.array .text) ('[' :: inner ++ [']']) =
      Literal.textArray (Expectation.dropBrackets inner) := by
    rw [← Expectation.dropBrackets_enclosing]
    rfl
  rw [encode_textArray honly, hexpected, ← Expectation.textArray_dropBrackets_iff]
  simp [literals, warnings]

/-- A quoted element with a comma in it, one with an escaped quote, braces and a blank element. -/
theorem textArrays_agree_iff_quoted :
    Payload.tokens "[ \"a, b\" ,\\\", \x7bc\x7d, ]".toList =
        ["[ \"a, b\" ,\\\", \x7bc\x7d, ]".toList] ∧
      literals (encode "x".toList [.array .text] "[ \"a, b\" ,\\\", \x7bc\x7d, ]".toList) =
        [Expectation.encode (.array .text) "[ \"a, b\" ,\\\", \x7bc\x7d, ]".toList] := by
  have honly : Payload.tokens "[ \"a, b\" ,\\\", \x7bc\x7d, ]".toList =
      ['[' :: " \"a, b\" ,\\\", \x7bc\x7d, ".toList ++ [']']] := by
    decide +kernel
  exact ⟨honly, (textArrays_agree_iff honly _).1.mpr (by decide +kernel)⟩

/-- An element with brackets of its own keeps them as an argument and loses them as a result. -/
theorem textArrays_differ_nested :
    Payload.tokens "[a[b]]".toList = ["[a[b]]".toList] ∧
      literals (encode "x".toList [.array .text] "[a[b]]".toList) =
        ["new String[]\x7b\"a[b]\"\x7d".toList] ∧
      Expectation.encode (.array .text) "[a[b]]".toList = "new String[]\x7b\"ab\"\x7d".toList ∧
      ¬ ∀ inner : Text, Payload.tokens ('[' :: inner ++ [']']) = ['[' :: inner ++ [']']] →
        literals (encode "x".toList [.array .text] ('[' :: inner ++ [']'])) =
          [Expectation.encode (.array .text) ('[' :: inner ++ [']'])] := by
  refine ⟨by decide +kernel, by decide +kernel, by decide +kernel, ?_⟩
  intro h
  have hsame := h "a[b]".toList (by decide +kernel)
  revert hsame
  decide +kernel

end Argument
end FailureReplay
