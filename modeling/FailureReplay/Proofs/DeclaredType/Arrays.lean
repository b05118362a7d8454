import FailureReplay.Proofs.DeclaredType.Spelling
import Mathlib.Logic.Function.Iterate

/-!
# Array types of any dimension

Classifying takes pairs of brackets off the end of a text one at a time and looks for
modifiers again before each. Spelling puts the pairs back, the innermost type and the
number of dimensions are found by going through the layers, and the default value writes
one pair fewer than there are layers. All of them count the same layers: a type is its
innermost type in as many array layers as it has dimensions, in one way only.
-/

namespace FailureReplay.DeclaredType

open Text (isBlank trim)

/-! ## Layers -/

theorem bracketPairs_succ (n : Nat) : bracketPairs (n + 1) = bracketPairs n ++ "[]".toList := by
  rw [bracketPairs, List.replicate_succ', List.flatten_concat]
  rfl

theorem isArray_base (t : DeclaredType) : t.base.isArray = false := by
  induction t with
  | array element ih => exact ih
  | _ => rfl

/-- A type is an array exactly if a layer can be taken off. -/
theorem isArray_iff (t : DeclaredType) : t.isArray = true ↔ 1 ≤ t.dims := by
  cases t <;> simp [isArray, dims]

/-- A type is its innermost type in as many layers as it has dimensions. -/
theorem layers_base (t : DeclaredType) : array^[t.dims] t.base = t := by
  induction t with
  | array element ih =>
    show array^[element.dims + 1] element.base = array element
    rw [Function.iterate_succ_apply', ih]
  | _ => rfl

/-- Layers around a type that is no array are counted, and taken off, as they were put on. -/
theorem base_dims_layers {t : DeclaredType} (h : t.isArray = false) (n : Nat) :
    (array^[n] t).base = t ∧ (array^[n] t).dims = n := by
  induction n with
  | zero =>
    cases t with
    | array element => cases h
    | _ => exact ⟨rfl, rfl⟩
  | succ n ih =>
    rw [Function.iterate_succ_apply']
    exact ⟨ih.1, congrArg (· + 1) ih.2⟩

/-- Every layer of an array type is one pair of brackets in its spelling. -/
theorem render_eq_base (t : DeclaredType) : t.render = t.base.render ++ bracketPairs t.dims := by
  induction t with
  | array element ih =>
    show element.render ++ "[]".toList = element.base.render ++ bracketPairs (element.dims + 1)
    rw [bracketPairs_succ, ih, List.append_assoc]
  | _ => exact (List.append_nil _).symm

/-- The default value of an array type: an empty outer array, one pair for each layer below. -/
theorem defaultValue?_of_dims {t : DeclaredType} (h : 1 ≤ t.dims) :
    t.defaultValue? = some ("new ".toList ++ t.base.render ++ "[0]".toList ++
      bracketPairs (t.dims - 1)) := by
  cases t with
  | array element => rfl
  | _ => exact absurd h (Nat.not_succ_le_zero 0)

/-! ## Pairs of brackets behind a name -/

theorem Bare.append_bracketPairs {t : Text} (h : Bare t) (n : Nat) :
    Bare (t ++ bracketPairs n) := by
  induction n with
  | zero =>
    show Bare (t ++ [])
    rwa [List.append_nil]
  | succ n ih =>
    rw [bracketPairs_succ, ← List.append_assoc]
    exact ih.append_brackets

/-- Every pair of brackets is one layer. -/
theorem Bare.classify_append_bracketPairs {t : Text} (h : Bare t) (n : Nat) :
    classify (t ++ bracketPairs n) = array^[n] (classify t) := by
  induction n with
  | zero =>
    show classify (t ++ []) = classify t
    rw [List.append_nil]
  | succ n ih =>
    rw [bracketPairs_succ, ← List.append_assoc,
      (h.append_bracketPairs n).classify_append_brackets, ih, Function.iterate_succ_apply']

theorem Bare.isArray_classify {t : Text} (h : Bare t) (hname : ¬ "[]".toList <:+ t) :
    (classify t).isArray = false := by
  have hending : Text.beforeEnding? "[]".toList (dropFinal (trim t)) = none := by
    rw [h.dropFinal_trim, Option.eq_none_iff_forall_ne_some]
    intro element helement
    exact hname ⟨element, Text.append_of_beforeEnding? helement⟩
  rw [classify_of_name hending, ofName]
  split
  · rfl
  · split_ifs <;> rfl

/-! ## Modifiers in front of a name -/

/-- `k` modifiers in a row, a space behind each. -/
def modifiers (k : Nat) : Text := (List.replicate k "final ".toList).flatten

theorem modifiers_succ (k : Nat) : modifiers (k + 1) = "final ".toList ++ modifiers k := rfl

theorem head?_modifiers_append {t : Text} (h : ∀ c ∈ t.head?, isBlank c = false) (k : Nat) :
    ∀ c ∈ (modifiers k ++ t).head?, isBlank c = false := by
  cases k with
  | zero => exact h
  | succ k =>
    intro c hc
    obtain rfl : 'f' = c := Option.some.inj hc
    decide

/-- All modifiers in front are dropped, not only the first. -/
theorem dropFinal_modifiers {t : Text} (hfirst : ∀ c ∈ t.head?, isBlank c = false)
    (h : ¬ "final ".toList <+: t) (k : Nat) : dropFinal (modifiers k ++ t) = t := by
  induction k with
  | zero => exact dropFinal_eq_self h
  | succ k ih =>
    have hrest : Text.afterStart? "final ".toList (modifiers (k + 1) ++ t) =
        some (modifiers k ++ t) := by
      rw [Text.afterStart?_eq_some_iff, modifiers_succ, List.append_assoc]
    have hstart : Text.trimStart (modifiers k ++ t) = modifiers k ++ t := by
      have hhead := head?_modifiers_append hfirst k
      cases hs : modifiers k ++ t with
      | nil => rfl
      | cons c s => simp [Text.trimStart, hhead c (by rw [hs]; rfl)]
    rw [dropFinal]
    split
    · next rest heq =>
      rw [hrest] at heq
      rw [← Option.some.inj heq, hstart, ih]
    · next heq =>
      rw [hrest] at heq
      cases heq

theorem classify_congr {raw raw' : Text} (h : dropFinal (trim raw) = dropFinal (trim raw')) :
    classify raw = classify raw' := by
  cases hending : Text.beforeEnding? "[]".toList (dropFinal (trim raw)) with
  | some element =>
    have helement := (Text.append_of_beforeEnding? hending).symm
    rw [classify_of_brackets helement, classify_of_brackets (h.symm.trans helement)]
  | none => rw [classify_of_name hending, classify_of_name (h ▸ hending), h]

/-- Modifiers before a bare name are passed over. Without a name the last one would be one. -/
theorem Bare.classify_modifiers_append {t : Text} (h : Bare t) (hne : t ≠ []) (k : Nat) :
    classify (modifiers k ++ t) = classify t := by
  have hfirst := Text.head?_trim t
  have hlast := Text.getLast?_trim t
  rw [h.trimmed] at hfirst hlast
  have htrim : trim (modifiers k ++ t) = modifiers k ++ t := by
    apply Text.trim_eq_self (head?_modifiers_append hfirst k)
    intro c hc
    rw [List.getLast?_append, List.getLast?_eq_some_getLast hne] at hc
    exact hlast c (by rw [List.getLast?_eq_some_getLast hne]; exact hc)
  apply classify_congr
  rw [htrim, dropFinal_modifiers hfirst h.unmodified, h.dropFinal_trim]

/-- Array types of any dimension are handled alike throughout. A name behind any number of modifiers
and before `n` pairs of brackets is classified as the name's own type in `n` layers. Every type is
its innermost type, which is no array, in as many layers as it has dimensions, and in no other
number of layers around a type that is no array; it is spelled by its innermost type and that many
pairs of brackets; and if there are any, its default value has one pair fewer, behind an empty
outer array. -/
theorem array_layers_agree :
    (∀ (name : Text) (k n : Nat), name ≠ [] → trim name = name → ¬ "final ".toList <+: name →
      ¬ "[]".toList <:+ name →
      classify (modifiers k ++ name ++ bracketPairs n) = array^[n] (classify name) ∧
        (classify name).isArray = false) ∧
    ∀ t : DeclaredType,
      t.base.isArray = false ∧
      (∀ inner n, inner.isArray = false → (array^[n] inner = t ↔ inner = t.base ∧ n = t.dims)) ∧
      t.render = t.base.render ++ bracketPairs t.dims ∧
      (t.isArray = true ↔ 1 ≤ t.dims) ∧
      (1 ≤ t.dims → t.defaultValue? =
        some ("new ".toList ++ t.base.render ++ "[0]".toList ++ bracketPairs (t.dims - 1))) := by
  constructor
  · intro name k n hne htrim hfinal hbrackets
    have hbare : Bare name := ⟨htrim, hfinal⟩
    have hwhole : name ++ bracketPairs n ≠ [] := by simp [hne]
    refine ⟨?_, hbare.isArray_classify hbrackets⟩
    rw [List.append_assoc, (hbare.append_bracketPairs n).classify_modifiers_append hwhole,
      hbare.classify_append_bracketPairs]
  · intro t
    refine ⟨isArray_base t, ?_, render_eq_base t, isArray_iff t, defaultValue?_of_dims⟩
    intro inner n hinner
    constructor
    · intro heq
      obtain ⟨hbase, hdims⟩ := base_dims_layers hinner n
      rw [heq] at hbase hdims
      exact ⟨hbase.symm, hdims.symm⟩
    · intro heq
      rw [heq.1, heq.2, layers_base]

/-- A name that is itself the word of the modifier, behind two modifiers. -/
theorem array_layers_agree_final_name :
    ("final".toList ≠ [] ∧ trim "final".toList = "final".toList ∧
      ¬ "final ".toList <+: "final".toList ∧ ¬ "[]".toList <:+ "final".toList) ∧
    classify "final final final[][]".toList = array (array (classify "final".toList)) ∧
    (array (array (other "final".toList))).defaultValue? = some "new final[0][]".toList := by
  have hname : "final".toList ≠ [] ∧ trim "final".toList = "final".toList ∧
      ¬ "final ".toList <+: "final".toList ∧ ¬ "[]".toList <:+ "final".toList := by decide
  obtain ⟨hne, htrim, hfinal, hbrackets⟩ := hname
  obtain ⟨hclassify, hdefault⟩ := array_layers_agree
  have htext : "final final final[][]".toList =
      modifiers 2 ++ "final".toList ++ bracketPairs 2 := by decide
  refine ⟨⟨hne, htrim, hfinal, hbrackets⟩, ?_, ?_⟩
  · rw [htext]
    exact (hclassify "final".toList 2 2 hne htrim hfinal hbrackets).1
  · exact (hdefault (array (array (other "final".toList)))).2.2.2.2 (by decide)

end FailureReplay.DeclaredType
