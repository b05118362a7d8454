import FailureReplay.Proofs.Literal.Decoded

/-!
# The format of list literals

A list literal is a row of numerals between brackets, with a comma between two of them
and white space wherever it does not cut a numeral. Decoding gives the values in order for
every literal of this form, and no other literal is decoded. What is rendered is of this
form, so it is read back.
-/

namespace FailureReplay.LinkedList

open Text (isBlank trim allBlank)

/-- The numeral of a value with white space around it. -/
def Padded (piece : Text) (value : Int32) : Prop :=
  ∃ before numeral after, piece = before ++ (numeral ++ after) ∧
    (∀ c ∈ before, isBlank c = true) ∧ (∀ c ∈ after, isBlank c = true) ∧
    Numeral.Denotes numeral value

/-- The text between the brackets: white space alone for no values, else padded numerals with
commas between them. -/
def Lists (inner : Text) (values : List Int32) : Prop :=
  values = [] ∧ allBlank inner = true ∨
    values ≠ [] ∧ ∃ pieces, inner = Text.join "," pieces ∧ List.Forall₂ Padded pieces values

/-- A literal that writes the values in order. -/
def Writes (literal : Text) (values : List Int32) : Prop :=
  ∃ before inner after, literal = before ++ ('[' :: inner ++ [']'] ++ after) ∧
    (∀ c ∈ before, isBlank c = true) ∧ (∀ c ∈ after, isBlank c = true) ∧ Lists inner values

/-! ## One piece -/

theorem isToken_of_denotes {numeral : Text} {value : Int32} (h : Numeral.Denotes numeral value) :
    Text.IsToken numeral := by
  have hread := Numeral.read_eq_ok_iff.mpr h
  constructor
  · intro hnil
    rw [hnil] at hread
    cases hread
  · intro c hc
    rcases Numeral.mem_of_read hread c hc with hdigit | rfl | rfl
    · exact Numeral.not_blank_of_isDigit hdigit
    · decide
    · decide

theorem trim_numeral {numeral : Text} {value : Int32} (h : Numeral.Denotes numeral value) :
    trim numeral = numeral := by
  obtain ⟨-, hvisible⟩ := isToken_of_denotes h
  apply Text.trim_eq_self
  · exact fun c hc => hvisible c (List.mem_of_head? hc)
  · exact fun c hc => hvisible c (List.mem_of_getLast? hc)

/-- A piece reads as a value exactly if it is a numeral with white space around it. -/
theorem readsAs_iff_padded {piece : Text} {value : Int32} :
    ReadsAs piece value ↔ Padded piece value := by
  rw [ReadsAs, Numeral.read_eq_ok_iff]
  constructor
  · intro h
    obtain ⟨before, after, hpiece, hbefore, hafter⟩ := Text.exists_trim_append piece
    exact ⟨before, trim piece, after, hpiece, hbefore, hafter, h⟩
  · intro h
    obtain ⟨before, numeral, after, rfl, hbefore, hafter, hnumeral⟩ := h
    rwa [Text.trim_blanks_append hbefore, Text.trim_append_blanks hafter, trim_numeral hnumeral]

theorem Padded.comma_not_mem {piece : Text} {value : Int32} (h : Padded piece value) :
    ',' ∉ piece := by
  obtain ⟨before, numeral, after, rfl, hbefore, hafter, hnumeral⟩ := h
  have hread := Numeral.read_eq_ok_iff.mpr hnumeral
  intro hc
  rcases List.mem_append.mp hc with hc | hc
  · exact absurd (hbefore _ hc) (by decide)
  · rcases List.mem_append.mp hc with hc | hc
    · exact absurd (Numeral.mem_of_read hread _ hc) (by decide)
    · exact absurd (hafter _ hc) (by decide)

theorem Padded.exists_visible {piece : Text} {value : Int32} (h : Padded piece value) :
    ∃ c ∈ piece, isBlank c = false := by
  obtain ⟨before, numeral, after, rfl, -, -, hnumeral⟩ := h
  obtain ⟨hne, hvisible⟩ := isToken_of_denotes hnumeral
  obtain ⟨c, rest, rfl⟩ := List.exists_cons_of_ne_nil hne
  exact ⟨c, by simp, hvisible c (by simp)⟩

/-! ## The text between the brackets -/

/-- Padded numerals are the pieces of their own row. -/
theorem splitOn_join_padded {pieces : List Text} {values : List Int32} (hne : pieces ≠ [])
    (h : List.Forall₂ Padded pieces values) :
    (Text.join "," pieces).splitOn ',' = pieces := by
  apply List.splitOn_intercalate ',' _ hne
  intro piece hpiece
  obtain ⟨value, hread⟩ :=
    exists_read_of_mem (h.imp fun _ _ hp => readsAs_iff_padded.mpr hp) hpiece
  exact (readsAs_iff_padded.mp hread).comma_not_mem

/-- White space alone between the brackets is no piece; anything else is split at commas. -/
theorem lists_iff {inner : Text} {values : List Int32} :
    Lists inner values ↔
      allBlank inner = true ∧ values = [] ∨
        allBlank inner = false ∧ List.Forall₂ ReadsAs (inner.splitOn ',') values := by
  constructor
  · intro h
    obtain ⟨hvalues, hblank⟩ | ⟨hvalues, pieces, rfl, hpieces⟩ := h
    · exact .inl ⟨hblank, hvalues⟩
    · right
      obtain ⟨value, others, rfl⟩ := List.exists_cons_of_ne_nil hvalues
      cases hpieces with
      | @cons first _ rest _ hfirst hrest =>
        have hsplit := splitOn_join_padded (List.cons_ne_nil first rest) (.cons hfirst hrest)
        obtain ⟨c, hc, hvisible⟩ := hfirst.exists_visible
        have hmem : first ∈ (Text.join "," (first :: rest)).splitOn ',' := by simp [hsplit]
        refine ⟨?_, ?_⟩
        · rw [allBlank, List.all_eq_false]
          exact ⟨c, (Text.of_mem_splitOn hmem).2.subset hc, by simp [hvisible]⟩
        · rw [hsplit]
          exact .cons (readsAs_iff_padded.mpr hfirst)
            (hrest.imp fun _ _ hp => readsAs_iff_padded.mpr hp)
  · intro h
    obtain ⟨hblank, hvalues⟩ | ⟨-, hvalues⟩ := h
    · exact .inl ⟨hvalues, hblank⟩
    · refine .inr ⟨?_, inner.splitOn ',', (List.intercalate_splitOn ',').symm,
        hvalues.imp fun _ _ hp => readsAs_iff_padded.mp hp⟩
      -- A text has at least one piece, so there is at least one value.
      intro hnil
      rw [hnil] at hvalues
      exact List.splitOn_ne_nil ',' inner (List.forall₂_nil_right_iff.mp hvalues)

/-! ## What is decoded -/

theorem mapM_of_forall₂ {pieces : List Text} {values : List Int32}
    (h : List.Forall₂ ReadsAs pieces values) :
    pieces.mapM (fun piece => Literal.numeral (trim piece)) = .ok values := by
  induction h with
  | nil => rfl
  | cons hread _ ih =>
    have hnumeral := Literal.numeral_eq_ok_iff.mpr (Numeral.read_eq_ok_iff.mp hread)
    rw [List.mapM_cons, hnumeral, ih]
    rfl

/-- A literal is decoded to a list exactly if it writes the values of that list. -/
theorem parse_eq_ok_iff {literal : Text} {l : LinkedList} :
    parse literal = .ok l ↔ Writes literal l.values := by
  constructor
  · intro h
    obtain ⟨inner, htrim, hinner⟩ := exists_of_parse h
    obtain ⟨before, after, hliteral, hbefore, hafter⟩ := Text.exists_trim_append literal
    rw [htrim] at hliteral
    exact ⟨before, inner, after, hliteral, hbefore, hafter, lists_iff.mpr hinner⟩
  · intro h
    obtain ⟨before, inner, after, rfl, hbefore, hafter, hinner⟩ := h
    have htrim : trim (before ++ ('[' :: inner ++ [']'] ++ after)) = '[' :: inner ++ [']'] := by
      rw [Text.trim_blanks_append hbefore, Text.trim_append_blanks hafter,
        Text.trim_enclosing (by decide) (by decide)]
    have hvalues : values? ('[' :: inner ++ [']']) = .ok l.values := by
      rw [values?, Text.enclosed?_enclosing]
      obtain ⟨hblank, hnil⟩ | ⟨hvisible, hpieces⟩ := lists_iff.mp hinner
      · simp only [hblank, if_true, hnil]
      · simp only [hvisible, Bool.false_eq_true, if_false]
        exact mapM_of_forall₂ hpieces
    rw [parse, htrim, hvalues]

/-! ## What is rendered -/

theorem join_comma_space (first : Text) (rest : List Text) :
    Text.join ", " (first :: rest) = Text.join "," (first :: rest.map (' ' :: ·)) := by
  induction rest generalizing first with
  | nil => rfl
  | cons second rest ih =>
    rw [Text.join_cons_cons, ih, List.map_cons, Text.join_cons_cons]
    cases rest with
    | nil => rfl
    | cons third rest => rfl

theorem writes_render (l : LinkedList) : Writes l.render l.values := by
  have hnone : ∀ c ∈ ([] : Text), isBlank c = true := by simp
  refine ⟨[], Text.join ", " (l.values.map Numeral.write), [], ?_, hnone, hnone, ?_⟩
  · rw [List.append_nil, List.nil_append, render]
  · cases l.values with
    | nil => exact .inl ⟨rfl, rfl⟩
    | cons value others =>
      refine .inr ⟨List.cons_ne_nil _ _, _, join_comma_space _ _, .cons ?_ ?_⟩
      · exact ⟨[], Numeral.write value, [], by simp, hnone, hnone, Numeral.denotes_write value⟩
      · rw [List.map_map, List.forall₂_map_left_iff, List.forall₂_same]
        intro v _
        have hspace : ∀ c ∈ [' '], isBlank c = true := List.all_eq_true.mp (by decide)
        exact ⟨[' '], Numeral.write v, [], by simp, hspace, hnone, Numeral.denotes_write v⟩

/-! ## What is rejected -/

/-- The format of a literal: brackets around white space, or around pieces between commas that are
numerals when trimmed. -/
def WellFormed (literal : Text) : Prop :=
  ∃ inner, trim literal = '[' :: inner ++ [']'] ∧
    (allBlank inner = true ∨
      ∀ piece ∈ inner.splitOn ',', ∃ value, Numeral.Denotes (trim piece) value)

/-- A list literal is decoded exactly if it is in the format. -/
theorem exists_parse_iff {literal : Text} :
    (∃ l, parse literal = .ok l) ↔ WellFormed literal := by
  constructor
  · intro h
    obtain ⟨l, h⟩ := h
    obtain ⟨inner, htrim, ⟨hblank, -⟩ | ⟨-, hvalues⟩⟩ := exists_of_parse h
    · exact ⟨inner, htrim, .inl hblank⟩
    · refine ⟨inner, htrim, .inr ?_⟩
      intro piece hpiece
      obtain ⟨value, hread⟩ := exists_read_of_mem hvalues hpiece
      exact ⟨value, Numeral.read_eq_ok_iff.mp hread⟩
  · intro h
    obtain ⟨inner, htrim, hinner⟩ := h
    obtain ⟨before, after, hliteral, hbefore, hafter⟩ := Text.exists_trim_append literal
    rw [htrim] at hliteral
    suffices hlists : ∃ values, Lists inner values by
      obtain ⟨values, hvalues⟩ := hlists
      exact ⟨⟨values⟩, parse_eq_ok_iff.mpr
        ⟨before, inner, after, hliteral, hbefore, hafter, hvalues⟩⟩
    cases hblank : allBlank inner with
    | true => exact ⟨[], .inl ⟨rfl, hblank⟩⟩
    | false =>
      have hpieces := hinner.resolve_left (by simp [hblank])
      choose! value hvalue using hpieces
      refine ⟨(inner.splitOn ',').map value, lists_iff.mpr (.inr ⟨hblank, ?_⟩)⟩
      rw [List.forall₂_map_right_iff, List.forall₂_same]
      exact fun piece hpiece => Numeral.read_eq_ok_iff.mpr (hvalue piece hpiece)

theorem parse_error_iff {literal : Text} :
    (∃ fault, parse literal = .error { kind := .list, literal, fault }) ↔
      ¬ WellFormed literal := by
  rw [← exists_parse_iff, parse]
  cases values? (trim literal) with
  | ok values => simp
  | error fault => simp

/-- List literals are decoded exactly. With white space anywhere outside the numerals, a literal of
values is decoded to these values in order, and what is decoded is such a literal; what is rendered
is read back; and a literal is rejected, by an error that carries it, exactly if it is not brackets
around white space or around numerals between commas. -/
theorem parse_exact_format :
    (∀ literal values, Writes literal values ↔ parse literal = .ok ⟨values⟩) ∧
      (∀ l : LinkedList, parse l.render = .ok l) ∧
      ∀ literal, ¬ WellFormed literal ↔
        ∃ fault, parse literal = .error { kind := .list, literal, fault } := by
  refine ⟨?_, ?_, ?_⟩
  · intro literal values
    exact parse_eq_ok_iff.symm
  · intro l
    exact parse_eq_ok_iff.mpr (writes_render l)
  · intro literal
    exact parse_error_iff.symm

/-- Both ends of the range among uneven white space, and a comma with no value behind it. -/
theorem parse_exact_format_extremes :
    Writes "\u3000[ -2147483648 ,\n2147483647\t]\r".toList [-2147483648, 2147483647] ∧
      parse "\u3000[ -2147483648 ,\n2147483647\t]\r".toList =
        .ok ⟨[-2147483648, 2147483647]⟩ ∧
      ¬ WellFormed "[1, ]".toList ∧
      parse "[1, ]".toList =
        .error ⟨.list, "[1, ]".toList, .badNumeral [] .empty⟩ := by
  obtain ⟨hwrites, -, hrejects⟩ := parse_exact_format
  have hliteral : Writes "\u3000[ -2147483648 ,\n2147483647\t]\r".toList
      [-2147483648, 2147483647] := by
    have hblank : ∀ {t : Text}, allBlank t = true → ∀ c ∈ t, isBlank c = true :=
      List.all_eq_true.mp
    refine ⟨"\u3000".toList, " -2147483648 ,\n2147483647\t".toList, "\r".toList, by decide,
      hblank (by decide), hblank (by decide), .inr ⟨by decide,
      [" -2147483648 ".toList, "\n2147483647\t".toList], by decide, .cons ?_ (.cons ?_ .nil)⟩⟩
    · exact ⟨" ".toList, "-2147483648".toList, " ".toList, by decide, hblank (by decide),
        hblank (by decide), by decide⟩
    · exact ⟨"\n".toList, "2147483647".toList, "\t".toList, by decide, hblank (by decide),
        hblank (by decide), by decide⟩
  have hparse : parse "[1, ]".toList =
      .error ⟨.list, "[1, ]".toList, .badNumeral [] .empty⟩ := by decide +kernel
  exact ⟨hliteral, (hwrites _ _).mp hliteral, (hrejects _).mpr ⟨_, hparse⟩, hparse⟩

end FailureReplay.LinkedList
