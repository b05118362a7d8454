import FailureReplay.DeclaredType
import FailureReplay.Proofs.Text.Trim

/-!
# Spelling of declared types and default returns

Classifying keeps the spelling of a type: the rendered type uses only characters
of the text it was read from. So does a default return statement, apart from a
fixed stock of characters that holds neither a brace nor a line break.
-/

namespace FailureReplay

theorem Primitive.keyword_of_ofKeyword? {t : Text} {kind : Primitive}
    (h : ofKeyword? t = some kind) : kind.keyword = t := by
  have hk := List.find?_some h
  exact eq_of_beq hk

namespace DeclaredType

/-- A type that is not an array keeps its spelling, known or unknown. -/
theorem render_ofName (name : Text) : (ofName name).render = name := by
  unfold ofName
  split
  · next kind h => exact Primitive.keyword_of_ofKeyword? h
  · split_ifs with hvoid htext hlist htree
    · exact hvoid.symm
    · exact htext.symm
    · exact hlist.symm
    · exact htree.symm
    · rfl

theorem dropFinal_isSuffix (t : Text) : dropFinal t <:+ t := by
  fun_induction dropFinal t with
  | case1 t rest h ih =>
    have hrest : rest <:+ t := ⟨_, Text.append_of_afterStart? h⟩
    exact (ih.trans (Text.trimStart_isSuffix rest)).trans hrest
  | case2 t h => exact List.suffix_rfl

theorem dropFinal_trim_subset (raw : Text) : dropFinal (Text.trim raw) ⊆ raw :=
  List.Subset.trans (dropFinal_isSuffix _).subset (Text.trim_isInfix raw).subset

/-- A classified type is spelled with the characters it was read from. -/
theorem render_classify_subset (raw : Text) : (classify raw).render ⊆ raw := by
  fun_induction classify raw with
  | case1 raw element h ih =>
    have hraw : element ++ "[]".toList ⊆ raw := by
      rw [Text.append_of_beforeEnding? h]
      exact dropFinal_trim_subset raw
    intro c hc
    rcases List.mem_append.mp hc with hc | hc
    · exact hraw (List.mem_append_left _ (ih hc))
    · exact hraw (List.mem_append_right _ hc)
  | case2 raw h =>
    rw [render_ofName]
    exact dropFinal_trim_subset raw

theorem render_base_subset (t : DeclaredType) : t.base.render ⊆ t.render := by
  induction t with
  | array element ih => exact List.Subset.trans ih (List.subset_append_left _ _)
  | _ => exact List.Subset.refl _

/-- Only `void` methods get no default return. -/
theorem isSome_defaultReturn?_iff (t : DeclaredType) :
    t.defaultReturn?.isSome = true ↔ t ≠ .void := by
  cases t <;> simp [defaultReturn?, defaultValue?]

/-- A default return is a return statement on one value. -/
theorem exists_of_defaultReturn? {t : DeclaredType} {statement : Text}
    (h : t.defaultReturn? = some statement) :
    ∃ value, statement = "return ".toList ++ value ++ [';'] := by
  obtain ⟨value, -, rfl⟩ := Option.map_eq_some_iff.mp h
  exact ⟨value, rfl⟩

/-- The characters of a default return that do not come from the spelling of its type. -/
def stockChars : Text := "return ;new [0]'\\.falsenull".toList

theorem mem_bracketPairs {n : Nat} {c : Char} (h : c ∈ bracketPairs n) : c ∈ "[]".toList := by
  obtain ⟨pair, hp, hc⟩ := List.mem_flatten.mp h
  rwa [List.eq_of_mem_replicate hp] at hc

theorem mem_defaultValue? {t : DeclaredType} {value : Text} (h : t.defaultValue? = some value)
    {c : Char} (hc : c ∈ value) : c ∈ t.render ∨ c ∈ stockChars := by
  cases t with
  | void => cases h
  | primitive kind =>
    obtain rfl := Option.some.inj h
    right
    have hstock : kind.zeroLiteral ⊆ stockChars := by cases kind <;> decide
    exact hstock hc
  | array element =>
    obtain rfl := Option.some.inj h
    have hnew : "new ".toList ⊆ stockChars := by decide
    have hzero : "[0]".toList ⊆ stockChars := by decide
    have hpair : "[]".toList ⊆ stockChars := by decide
    simp only [List.mem_append] at hc
    rcases hc with ((hc | hc) | hc) | hc
    · exact .inr (hnew hc)
    · exact .inl (List.mem_append_left _ (render_base_subset element hc))
    · exact .inr (hzero hc)
    · exact .inr (hpair (mem_bracketPairs hc))
  | text | linkedList | tree | other name =>
    obtain rfl := Option.some.inj h
    right
    have hnull : "null".toList ⊆ stockChars := by decide
    exact hnull hc

/-- A default return brings no characters into a source that its types do not already have, apart
from fixed ones. -/
theorem mem_defaultReturn? {t : DeclaredType} {statement : Text}
    (h : t.defaultReturn? = some statement) {c : Char} (hc : c ∈ statement) :
    c ∈ t.render ∨ c ∈ stockChars := by
  obtain ⟨value, hvalue, rfl⟩ := Option.map_eq_some_iff.mp h
  have hreturn : "return ".toList ⊆ stockChars := by decide
  have hend : [';'] ⊆ stockChars := by decide
  simp only [List.mem_append] at hc
  rcases hc with (hc | hc) | hc
  · exact .inr (hreturn hc)
  · exact mem_defaultValue? hvalue hc
  · exact .inr (hend hc)

end DeclaredType
end FailureReplay
