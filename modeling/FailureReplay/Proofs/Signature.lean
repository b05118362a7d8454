import FailureReplay.Error
import FailureReplay.Proofs.Header
import FailureReplay.Proofs.Text.Pieces
import FailureReplay.Signature

/-!
# Signatures by declaration

The parameters of a header are declared between commas, each by the words of its
type and a name. Blanks around a piece make no difference to its words, so the
pieces may be taken from the text as it stands between the parentheses, although
extraction trims that text before it splits it.

A header is found behind any text without a qualifier, and what follows it is not
looked at.
-/

namespace FailureReplay

namespace Text

/-! ## Pieces and blanks -/

theorem splitOn_append_left {sep : Char} {s : Text} (hs : sep ∉ s) (t : Text) :
    (s ++ t).splitOn sep = (t.splitOn sep).modifyHead (s ++ ·) := by
  induction s with
  | nil => cases h : t.splitOn sep <;> simp [h]
  | cons c s ih =>
    rw [List.mem_cons, not_or] at hs
    have hc : c ≠ sep := Ne.symm hs.1
    rw [List.cons_append, List.splitOn_cons_eq_if_modifyHead, ih hs.2]
    simp [hc, Function.comp_def]

theorem intercalate_concat_append {sep last s : Text} (init : List Text) :
    List.intercalate sep (init ++ [last]) ++ s = List.intercalate sep (init ++ [last ++ s]) := by
  induction init with
  | nil => simp
  | cons t init ih =>
    cases init with
    | nil => simp [List.intercalate_cons_cons]
    | cons u init =>
      simp only [List.cons_append, List.intercalate_cons_cons, List.append_assoc] at ih ⊢
      rw [ih]

theorem exists_splitOn_append_right {sep : Char} {s : Text} (hs : sep ∉ s) (t : Text) :
    ∃ init last, t.splitOn sep = init ++ [last] ∧ (t ++ s).splitOn sep = init ++ [last ++ s] := by
  have hsplit := (List.dropLast_concat_getLast (List.splitOn_ne_nil sep t)).symm
  generalize (t.splitOn sep).dropLast = init at hsplit
  generalize (t.splitOn sep).getLast _ = last at hsplit
  refine ⟨init, last, hsplit, ?_⟩
  have htext : t ++ s = List.intercalate [sep] (init ++ [last ++ s]) := by
    rw [← intercalate_concat_append, ← hsplit, List.intercalate_splitOn]
  rw [htext]
  apply List.splitOn_intercalate sep _ (by simp)
  have hpieces : ∀ piece ∈ init ++ [last], sep ∉ piece := by
    intro piece hpiece
    exact (of_mem_splitOn (hsplit ▸ hpiece)).1
  intro piece hpiece
  rcases List.mem_append.mp hpiece with hinit | hlast
  · exact hpieces piece (List.mem_append_left _ hinit)
  · rw [List.mem_singleton.mp hlast, List.mem_append, not_or]
    exact ⟨hpieces last (by simp), hs⟩

/-- Blanks around a text are blanks around its first and last piece. -/
theorem map_trim_splitOn_trim {sep : Char} (hsep : isBlank sep = false) (t : Text) :
    ((trim t).splitOn sep).map trim = (t.splitOn sep).map trim := by
  have hnot : ∀ {blanks : Text}, (∀ c ∈ blanks, isBlank c = true) → sep ∉ blanks := by
    intro blanks hb hmem
    rw [hb sep hmem] at hsep
    cases hsep
  obtain ⟨before, hbefore, hblank⟩ := exists_append_trimStart t
  obtain ⟨after, hafter, hblank'⟩ := exists_trimEnd_append (trimStart t)
  obtain ⟨init, last, htrim, hstart⟩ := exists_splitOn_append_right (hnot hblank') (trim t)
  rw [show trim t ++ after = trimStart t from hafter.symm] at hstart
  have hfront : (t.splitOn sep).map trim = ((trimStart t).splitOn sep).map trim := by
    conv_lhs => rw [hbefore, splitOn_append_left (hnot hblank)]
    cases (trimStart t).splitOn sep with
    | nil => rfl
    | cons first others => simp [trim_blanks_append hblank]
  rw [hfront, hstart, htrim, List.map_append, List.map_append, List.map_singleton,
    List.map_singleton, trim_append_blanks hblank']

end Text

namespace Signature

open Text (isBlank words)

/-! ## Parameters -/

theorem mapM_of_forall_ok {α β ε : Type} {f : α → Except ε β} {g : α → β} {xs : List α}
    (h : ∀ x ∈ xs, f x = .ok (g x)) : xs.mapM f = .ok (xs.map g) := by
  induction xs with
  | nil => rfl
  | cons x xs ih =>
    have hrest := ih fun z hz => h z (List.mem_cons_of_mem _ hz)
    simp [List.mapM_cons, h x (by simp), hrest, bind, Except.bind, pure, Except.pure]

theorem mapM_of_first_error {α β ε : Type} {f : α → Except ε β} {good rest : List α} {bad : α}
    {e : ε} (hgood : ∀ x ∈ good, ∃ y, f x = .ok y) (hbad : f bad = .error e) :
    (good ++ bad :: rest).mapM f = .error e := by
  induction good with
  | nil => simp [List.mapM_cons, hbad, bind, Except.bind]
  | cons x good ih =>
    obtain ⟨y, hy⟩ := hgood x (by simp)
    have hrest := ih fun z hz => hgood z (List.mem_cons_of_mem _ hz)
    simp [List.mapM_cons, hy, hrest, bind, Except.bind]

theorem paramType_trim (piece : Text) : paramType (Text.trim piece) = paramType piece := by
  rw [paramType, paramType, Text.words_trim, Text.trim_trim]

/-- The parameters are read off the pieces between commas, blanks at the ends or not. -/
theorem paramTypes?_eq {params : Text} (h : Text.allBlank params = false) :
    paramTypes? params = (params.splitOn ',').mapM paramType := by
  have htrimmed : ∀ pieces : List Text,
      (pieces.map Text.trim).mapM paramType = pieces.mapM paramType := by
    intro pieces
    rw [List.mapM_map]
    simp only [Function.comp_def, paramType_trim]
  rw [paramTypes?, h, ← htrimmed, Text.map_trim_splitOn_trim (by decide), htrimmed]
  rfl

/-- A parameter declaration: its text between the commas, the words of the type and the name. -/
structure Parameter where
  text : Text
  typeWords : List Text
  name : Text

/-- The text holds the words of the type and the name with blanks between them, and no comma. -/
structure Parameter.WellFormed (p : Parameter) : Prop where
  typed : p.typeWords ≠ []
  spaced : Text.Spaced (p.typeWords ++ [p.name]) p.text
  unsplit : ∀ w ∈ p.typeWords ++ [p.name], ',' ∉ w

def Parameter.type (p : Parameter) : DeclaredType :=
  DeclaredType.classify (Text.join " " p.typeWords)

/-- The text between the parentheses declares the parameters. -/
def Declares (params : List Parameter) (t : Text) : Prop :=
  (params = [] ∧ ∀ c ∈ t, isBlank c = true) ∨
    params ≠ [] ∧ t = Text.join "," (params.map Parameter.text) ∧ ∀ p ∈ params, p.WellFormed

/-- The name of a parameter is its last word, the type is all of the words before it. -/
theorem Parameter.WellFormed.paramType_eq {p : Parameter} (h : p.WellFormed) :
    paramType p.text = .ok p.type := by
  have hwords : (words p.text).dropLast = p.typeWords := by
    rw [h.spaced.words_eq, List.dropLast_concat]
  rw [paramType, hwords]
  split
  · next hnil => exact absurd hnil h.typed
  · rfl

theorem Parameter.WellFormed.comma_not_mem {p : Parameter} (h : p.WellFormed) : ',' ∉ p.text := by
  intro hmem
  rcases h.spaced.mem_cases hmem with hblank | ⟨w, hw, hc⟩
  · exact absurd hblank (by decide)
  · exact h.unsplit w hw hc

theorem Parameter.WellFormed.exists_visible {p : Parameter} (h : p.WellFormed) :
    ∃ c ∈ p.text, isBlank c = false := by
  by_contra hnone
  have hblank : ∀ c ∈ p.text, isBlank c = true := by
    intro c hc
    by_contra hvisible
    exact hnone ⟨c, hc, by simpa using hvisible⟩
  have hwords := Text.words_blanks_append hblank []
  rw [List.append_nil, h.spaced.words_eq] at hwords
  simp [words] at hwords

/-- Declared parameters are read in order, each with its own type. -/
theorem paramTypes?_of_declares {params : List Parameter} {t : Text} (h : Declares params t) :
    paramTypes? t = .ok (params.map Parameter.type) := by
  rcases h with ⟨rfl, hblank⟩ | ⟨hne, rfl, hparams⟩
  · have hall : Text.allBlank t = true := List.all_eq_true.mpr hblank
    rw [paramTypes?, hall]
    rfl
  · have hsplit : (Text.join "," (params.map Parameter.text)).splitOn ',' =
        params.map Parameter.text := by
      apply List.splitOn_intercalate ',' _ (by simpa using hne)
      intro piece hpiece
      obtain ⟨p, hp, rfl⟩ := List.mem_map.mp hpiece
      exact (hparams p hp).comma_not_mem
    have hvisible : Text.allBlank (Text.join "," (params.map Parameter.text)) = false := by
      obtain ⟨p, others, rfl⟩ := List.exists_cons_of_ne_nil hne
      obtain ⟨c, hc, hvisible⟩ := (hparams p (by simp)).exists_visible
      have hpiece : p.text ∈ (Text.join "," ((p :: others).map Parameter.text)).splitOn ',' := by
        rw [hsplit]
        simp
      rw [Text.allBlank, List.all_eq_false]
      exact ⟨c, (Text.of_mem_splitOn hpiece).2.subset hc, by simp [hvisible]⟩
    rw [paramTypes?_eq hvisible, hsplit, List.mapM_map]
    exact mapM_of_forall_ok fun p hp => (hparams p hp).paramType_eq

/-- A piece of fewer than two words declares no parameter. -/
def isShort (piece : Text) : Bool := (words piece).length < 2

theorem paramType_of_isShort {piece : Text} (h : isShort piece = true) :
    paramType piece = .error (.badParameter (Text.trim piece)) := by
  have hnone : (words piece).dropLast = [] := by
    rw [isShort, decide_eq_true_eq] at h
    rw [← List.length_eq_zero_iff, List.length_dropLast]
    omega
  rw [paramType, hnone]

theorem paramType_of_not_isShort {piece : Text} (h : isShort piece = false) :
    paramType piece = .ok (DeclaredType.classify (Text.join " " (words piece).dropLast)) := by
  have hsome : (words piece).dropLast ≠ [] := by
    rw [isShort, decide_eq_false_iff_not] at h
    rw [Ne, ← List.length_eq_zero_iff, List.length_dropLast]
    omega
  rw [paramType]
  split
  · next hnil => exact absurd hnil hsome
  · rfl

/-- The first piece without a type is reported, as it stands between the commas. -/
theorem paramTypes?_of_first_short {params piece : Text} (h : Text.allBlank params = false)
    (hfirst : (params.splitOn ',').find? isShort = some piece) :
    paramTypes? params = .error (.badParameter (Text.trim piece)) := by
  obtain ⟨hshort, good, rest, hsplit, hgood⟩ := List.find?_eq_some_iff_append.mp hfirst
  rw [paramTypes?_eq h, hsplit]
  apply mapM_of_first_error _ (paramType_of_isShort hshort)
  intro other hother
  exact ⟨_, paramType_of_not_isShort (by simpa using hgood other hother)⟩

/-! ## The first header -/

/-- What stands around a header does not matter, if no qualifier comes before it. -/
theorem extract_of_header {h : Header} (hw : h.WellFormed) {before : Text}
    (hbefore : ∀ q ∈ Header.qualifiers, ¬ q <:+: before) (after : Text) :
    extract (before ++ h.render ++ after) = ofHeader h := by
  rw [extract, List.append_assoc, hw.find?_eq_some hbefore after]

/-- A header behind a text without a qualifier yields just what it declares: its name, its return
type and the types of its parameters in order. If its parentheses hold a piece that declares no
parameter, the first such piece is named. -/
theorem extract_declared {before : Text} (hbefore : ∀ q ∈ Header.qualifiers, ¬ q <:+: before)
    {h : Header} (hw : h.WellFormed) (after : Text) :
    (∀ params, Declares params h.params →
      extract (before ++ h.render ++ after) =
        .ok { name := h.name, returnType := DeclaredType.classify h.returnType,
              paramTypes := params.map fun p =>
                DeclaredType.classify (Text.join " " p.typeWords) }) ∧
    ∀ piece, (∃ c ∈ h.params, isBlank c = false) →
      (h.params.splitOn ',').find? (fun p => (words p).length < 2) = some piece →
      extract (before ++ h.render ++ after) = .error (.badParameter (Text.trim piece)) ∧
        (Error.malformedSignature (.badParameter (Text.trim piece))).message =
          "Malformed signature: invalid parameter format: `".toList ++ Text.trim piece ++ ['`'] := by
  rw [extract_of_header hw hbefore]
  constructor
  · intro params hparams
    rw [ofHeader, paramTypes?_of_declares hparams]
    rfl
  · intro piece hvisible hfirst
    have hblank : Text.allBlank h.params = false := by
      obtain ⟨c, hc, hvisible⟩ := hvisible
      rw [Text.allBlank, List.all_eq_false]
      exact ⟨c, hc, by simp [hvisible]⟩
    rw [ofHeader, paramTypes?_of_first_short hblank hfirst]
    exact ⟨rfl, rfl⟩

/-- A header with a modifier on its first parameter and uneven blanks. -/
def pathsHeader : Header where
  qualifier := "public".toList
  qualifierGap := " \n".toList
  returnType := "List<Integer>".toList
  typeGap := "\t".toList
  name := "paths".toList
  nameGap := " ".toList
  params := " final int[]  a ,TreeNode b".toList

/-- A header whose second piece is a name only. -/
def untypedHeader : Header where
  qualifier := "private".toList
  qualifierGap := " ".toList
  returnType := "int".toList
  typeGap := " ".toList
  name := "f".toList
  nameGap := []
  params := "int a, b , c".toList

theorem extract_declared_two_parameters :
    extract "class A; public \nList<Integer>\tpaths ( final int[]  a ,TreeNode b); public".toList =
        .ok { name := "paths".toList, returnType := DeclaredType.classify "List<Integer>".toList,
              paramTypes := [DeclaredType.classify "final int[]".toList,
                DeclaredType.classify "TreeNode".toList] } ∧
      extract "private int f(int a, b , c);".toList = .error (.badParameter "b".toList) := by
  have hdeclares : Declares
      [{ text := " final int[]  a ".toList, typeWords := ["final".toList, "int[]".toList],
         name := "a".toList },
       { text := "TreeNode b".toList, typeWords := ["TreeNode".toList], name := "b".toList }]
      pathsHeader.params := by
    refine .inr ⟨by simp, by decide, ?_⟩
    intro p hp
    simp only [List.mem_cons, List.not_mem_nil, or_false] at hp
    rcases hp with rfl | rfl
    · exact ⟨by simp, by decide, by decide⟩
    · exact ⟨by simp, by decide, by decide⟩
  have hpaths : pathsHeader.WellFormed := by
    have hread : Header.read? (pathsHeader.render ++ []) = some (pathsHeader, []) := by
      decide +kernel
    exact Header.wellFormed_of_read? hread
  have huntyped : untypedHeader.WellFormed := by
    have hread : Header.read? (untypedHeader.render ++ []) = some (untypedHeader, []) := by
      decide +kernel
    exact Header.wellFormed_of_read? hread
  have hbefore : ∀ q ∈ Header.qualifiers, ¬ q <:+: "class A; ".toList := by decide +kernel
  have hempty : ∀ q ∈ Header.qualifiers, ¬ q <:+: ([] : Text) := by decide +kernel
  constructor
  · have htext :
        "class A; public \nList<Integer>\tpaths ( final int[]  a ,TreeNode b); public".toList =
          "class A; ".toList ++ pathsHeader.render ++ "; public".toList := by decide +kernel
    rw [htext]
    exact (extract_declared hbefore hpaths "; public".toList).1 _ hdeclares
  · have htext : "private int f(int a, b , c);".toList = [] ++ untypedHeader.render ++ [';'] := by
      decide +kernel
    have hpiece := (extract_declared hempty huntyped [';']).2 " b ".toList
      ⟨'i', by decide, by decide⟩ (by decide)
    rw [htext]
    exact hpiece.1

end Signature

end FailureReplay
