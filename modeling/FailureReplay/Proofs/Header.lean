import FailureReplay.Header
import FailureReplay.Proofs.Text.Words

/-!
# Headers by shape

A text is read as a header exactly when it starts with the rendering of a
well-formed one, so reading looks no further than the closing parenthesis. A
header that starts before another one ends no later than it: only the return type
could reach past the other's parenthesis, and it holds no blank. What follows a
header therefore has no say in which header of a text is the first.
-/

namespace FailureReplay

namespace Text

theorem run?_eq_some_iff {p : Char → Bool} {t run rest : Text} :
    run? p t = some (run, rest) ↔
      run ≠ [] ∧ (∀ c ∈ run, p c = true) ∧ (∀ c ∈ rest.head?, p c = false) ∧ run ++ rest = t := by
  constructor
  · intro h
    refine ⟨run?_ne_nil h, ?_, ?_, run?_append h⟩ <;> unfold run? at h <;> split at h
    · cases h
    · next hrun =>
      obtain ⟨rfl, -⟩ := Prod.mk.inj (Option.some.inj h)
      intro d hd
      exact List.mem_takeWhile_imp (hrun ▸ hd)
    · cases h
    · obtain ⟨-, rfl⟩ := Prod.mk.inj (Option.some.inj h)
      intro d hd
      have hnot := List.head?_dropWhile_not p t
      rw [Option.mem_def.mp hd] at hnot
      simpa using hnot
  · rintro ⟨hne, hrun, hrest, rfl⟩
    have hend : rest.takeWhile p = [] ∧ rest.dropWhile p = rest := by
      cases rest with
      | nil => simp
      | cons c rest => simp [hrest c rfl]
    obtain ⟨c, run, rfl⟩ := List.exists_cons_of_ne_nil hne
    have htake : (c :: run ++ rest).takeWhile p = c :: run := by
      rw [List.takeWhile_append_of_pos hrun, hend.1, List.append_nil]
    have hdrop : (c :: run ++ rest).dropWhile p = rest := by
      rw [List.dropWhile_append_of_pos hrun, hend.2]
    rw [run?, htake]
    simp only [hdrop]

theorem not_word_of_blank {c : Char} (h : isBlank c = true) : isWord c = false := by
  obtain ⟨r, hr, hlow, hhigh⟩ := (RangeTable.contains_iff ascendingFrom_blankRanges _).mp h
  have htable : ∀ r ∈ blankRanges, ∀ k < r.2 + 1 - r.1,
      isWord (Char.ofNat (r.1 + k)) = false := by decide +kernel
  have hword := htable r hr (c.toNat - r.1) (by omega)
  rwa [Nat.add_sub_cancel' hlow, Char.ofNat_toNat] at hword

theorem not_blank_of_word {c : Char} (h : isWord c = true) : isBlank c = false := by
  by_contra hblank
  have hword := not_word_of_blank (by simpa using hblank)
  rw [h] at hword
  cases hword

end Text

namespace Header

open Text (isBlank isWord)

structure WellFormed (h : Header) : Prop where
  qualifier_mem : h.qualifier ∈ qualifiers
  qualifierGap_ne : h.qualifierGap ≠ []
  qualifierGap_blank : ∀ c ∈ h.qualifierGap, isBlank c = true
  returnType_token : Text.IsToken h.returnType
  typeGap_ne : h.typeGap ≠ []
  typeGap_blank : ∀ c ∈ h.typeGap, isBlank c = true
  name_ne : h.name ≠ []
  name_word : ∀ c ∈ h.name, isWord c = true
  nameGap_blank : ∀ c ∈ h.nameGap, isBlank c = true
  params_open : ')' ∉ h.params

/-! ## Reading and shape -/

theorem qualifier?_append {q : Text} (hq : q ∈ qualifiers) (rest : Text) :
    qualifier? (q ++ rest) = some (q, rest) := by
  simp only [qualifiers, List.mem_cons, List.not_mem_nil, or_false] at hq
  rcases hq with rfl | rfl | rfl <;> rfl

theorem mem_of_qualifier? {t q rest : Text} (h : qualifier? t = some (q, rest)) :
    q ∈ qualifiers := by
  obtain ⟨q', hmem, hq⟩ := List.exists_of_findSome?_eq_some h
  obtain ⟨r, -, heq⟩ := Option.map_eq_some_iff.mp hq
  obtain ⟨rfl, -⟩ := Prod.mk.inj heq
  exact hmem

theorem params?_append {params : Text} (h : ')' ∉ params) (rest : Text) :
    params? ('(' :: params ++ ')' :: rest) = some (params, rest) := by
  have hopen : ∀ c ∈ params, (c != ')') = true := by
    intro c hc
    have hne : c ≠ ')' := fun heq => h (heq ▸ hc)
    simpa using hne
  have htake : (params ++ ')' :: rest).takeWhile (· != ')') = params := by
    rw [List.takeWhile_append_of_pos hopen]
    simp
  have hdrop : (params ++ ')' :: rest).dropWhile (· != ')') = ')' :: rest := by
    rw [List.dropWhile_append_of_pos hopen]
    simp
  simp only [params?, List.cons_append, htake, hdrop]

theorem not_mem_of_params? {t params rest : Text} (h : params? t = some (params, rest)) :
    ')' ∉ params := by
  unfold params? at h
  split at h
  · split at h
    · obtain ⟨rfl, -⟩ := Prod.mk.inj (Option.some.inj h)
      intro hmem
      simpa using List.mem_takeWhile_imp hmem
    · cases h
  · cases h

/-- A header that was read could have been written piece by piece. -/
theorem wellFormed_of_read? {t rest : Text} {h : Header} (hread : read? t = some (h, rest)) :
    h.WellFormed := by
  simp only [read?, Option.bind_eq_bind, Option.bind_eq_some_iff, Prod.exists] at hread
  obtain ⟨q, t₁, hq, g, t₂, hg, r, t₃, hr, g', t₄, hg', n, t₅, hn, p, t₆, hp, hread⟩ := hread
  obtain ⟨rfl, -⟩ := Prod.mk.inj (Option.some.inj hread)
  obtain ⟨hgne, hgblank, -⟩ := Text.run?_eq_some_iff.mp hg
  obtain ⟨hrne, hrvisible, -⟩ := Text.run?_eq_some_iff.mp hr
  obtain ⟨hgne', hgblank', -⟩ := Text.run?_eq_some_iff.mp hg'
  obtain ⟨hnne, hnword, -⟩ := Text.run?_eq_some_iff.mp hn
  exact {
    qualifier_mem := mem_of_qualifier? hq
    qualifierGap_ne := hgne
    qualifierGap_blank := hgblank
    returnType_token := ⟨hrne, fun c hc => by simpa using hrvisible c hc⟩
    typeGap_ne := hgne'
    typeGap_blank := hgblank'
    name_ne := hnne
    name_word := hnword
    nameGap_blank := fun c hc => List.mem_takeWhile_imp hc
    params_open := not_mem_of_params? hp }

theorem head?_append_of_ne_nil {s t : Text} (hs : s ≠ []) {P : Char → Prop}
    (h : ∀ c ∈ s, P c) : ∀ c ∈ (s ++ t).head?, P c := by
  obtain ⟨d, s, rfl⟩ := List.exists_cons_of_ne_nil hs
  intro c hc
  obtain rfl : d = c := Option.some.inj hc
  exact h d (by simp)

/-- Neighbouring pieces are drawn from disjoint classes, so each run ends where its piece does. -/
theorem WellFormed.read?_render {h : Header} (hw : h.WellFormed) (rest : Text) :
    read? (h.render ++ rest) = some (h, rest) := by
  let tail := '(' :: h.params ++ ')' :: rest
  have htail : ∀ c ∈ (h.nameGap ++ tail).head?, isWord c = false := by
    cases hgap : h.nameGap with
    | nil =>
      intro c hc
      obtain rfl : '(' = c := Option.some.inj hc
      decide
    | cons d gap =>
      intro c hc
      obtain rfl : d = c := Option.some.inj hc
      exact Text.not_word_of_blank (hw.nameGap_blank d (by simp [hgap]))
  have hname : ∀ c ∈ h.name, isBlank c = false :=
    fun c hc => Text.not_blank_of_word (hw.name_word c hc)
  have hrun₁ : Text.run? isBlank
      (h.qualifierGap ++ (h.returnType ++ (h.typeGap ++ (h.name ++ (h.nameGap ++ tail))))) =
        some (h.qualifierGap, h.returnType ++ (h.typeGap ++ (h.name ++ (h.nameGap ++ tail)))) :=
    Text.run?_eq_some_iff.mpr ⟨hw.qualifierGap_ne, hw.qualifierGap_blank,
      head?_append_of_ne_nil hw.returnType_token.1 hw.returnType_token.2, rfl⟩
  have hrun₂ : Text.run? (fun c => !isBlank c)
      (h.returnType ++ (h.typeGap ++ (h.name ++ (h.nameGap ++ tail)))) =
        some (h.returnType, h.typeGap ++ (h.name ++ (h.nameGap ++ tail))) := by
    refine Text.run?_eq_some_iff.mpr ⟨hw.returnType_token.1, ?_, ?_, rfl⟩
    · intro c hc
      simpa using hw.returnType_token.2 c hc
    · intro c hc
      simp [head?_append_of_ne_nil hw.typeGap_ne hw.typeGap_blank c hc]
  have hrun₃ : Text.run? isBlank (h.typeGap ++ (h.name ++ (h.nameGap ++ tail))) =
        some (h.typeGap, h.name ++ (h.nameGap ++ tail)) :=
    Text.run?_eq_some_iff.mpr ⟨hw.typeGap_ne, hw.typeGap_blank,
      head?_append_of_ne_nil hw.name_ne hname, rfl⟩
  have hrun₄ : Text.run? isWord (h.name ++ (h.nameGap ++ tail)) =
        some (h.name, h.nameGap ++ tail) :=
    Text.run?_eq_some_iff.mpr ⟨hw.name_ne, hw.name_word, htail, rfl⟩
  have htake : (h.nameGap ++ tail).takeWhile isBlank = h.nameGap := by
    rw [List.takeWhile_append_of_pos hw.nameGap_blank]
    simp [tail, show isBlank '(' = false by decide]
  have hdrop : (h.nameGap ++ tail).dropWhile isBlank = tail := by
    rw [List.dropWhile_append_of_pos hw.nameGap_blank]
    simp [tail, show isBlank '(' = false by decide]
  have htext : h.render ++ rest = h.qualifier ++
      (h.qualifierGap ++ (h.returnType ++ (h.typeGap ++ (h.name ++ (h.nameGap ++ tail))))) := by
    simp [render, tail]
  simp only [read?, Option.bind_eq_bind]
  rw [htext, qualifier?_append hw.qualifier_mem]
  simp only [Option.bind_some, hrun₁, hrun₂, hrun₃, hrun₄, htake, hdrop]
  rw [params?_append hw.params_open]
  rfl

/-- A text is read as a header just when it starts with the rendering of a well-formed one. -/
theorem read?_eq_some_iff {t rest : Text} {h : Header} :
    read? t = some (h, rest) ↔ h.WellFormed ∧ h.render ++ rest = t := by
  constructor
  · intro hread
    exact ⟨wellFormed_of_read? hread, append_of_read? hread⟩
  · rintro ⟨hw, rfl⟩
    exact hw.read?_render rest

/-! ## Where a header ends -/

/-- Everything of a header but its closing parenthesis. -/
def body (h : Header) : Text :=
  h.qualifier ++ h.qualifierGap ++ h.returnType ++ h.typeGap ++ h.name ++ h.nameGap ++
    '(' :: h.params

theorem render_eq_body (h : Header) : h.render = h.body ++ [')'] := by
  simp [render, body]

theorem exists_of_append_eq_of_not_mem {a b pre post : Text} {c : Char}
    (h : a ++ b = pre ++ c :: post) (hc : c ∉ a) :
    ∃ pre', pre = a ++ pre' ∧ b = pre' ++ c :: post := by
  rcases List.append_eq_append_iff.mp h with ⟨pre', hpre, hb⟩ | ⟨s, ha, hs⟩
  · exact ⟨pre', hpre, hb⟩
  · cases s with
    | nil => exact ⟨[], by simpa using ha.symm, by simpa using hs.symm⟩
    | cons d s =>
      obtain ⟨rfl, -⟩ := List.cons.inj hs
      exact absurd (by simp [ha]) hc

theorem WellFormed.qualifier_visible {h : Header} (hw : h.WellFormed) :
    ∀ c ∈ h.qualifier, isBlank c = false ∧ c ≠ ')' := by
  have htable : qualifiers.all (fun q => q.all fun c => !isBlank c && c != ')') = true := by
    decide +kernel
  intro c hc
  have hall := List.all_eq_true.mp (List.all_eq_true.mp htable _ hw.qualifier_mem) c hc
  simpa using hall

theorem ne_close_of_blank {c : Char} (h : isBlank c = true) : c ≠ ')' := by
  rintro rfl
  exact absurd h (by decide)

theorem ne_close_of_word {c : Char} (h : isWord c = true) : c ≠ ')' := by
  rintro rfl
  exact absurd h (by decide)

/-- A closing parenthesis before the last one stands in the return type. -/
theorem WellFormed.mem_returnType_of_close {h : Header} (hw : h.WellFormed) {pre post : Text}
    (hsplit : h.render = pre ++ ')' :: post) (hpost : post ≠ []) :
    ∃ part, pre = h.qualifier ++ h.qualifierGap ++ part ∧ part <+: h.returnType := by
  let rest := h.typeGap ++ h.name ++ h.nameGap ++ '(' :: h.params
  have hfront : ')' ∉ h.qualifier ++ h.qualifierGap := by
    rw [List.mem_append, not_or]
    exact ⟨fun hm => (hw.qualifier_visible _ hm).2 rfl,
      fun hm => ne_close_of_blank (hw.qualifierGap_blank _ hm) rfl⟩
  have hrest : ')' ∉ rest := by
    simp only [rest, List.mem_append, List.mem_cons, not_or]
    refine ⟨⟨⟨?_, ?_⟩, ?_⟩, by decide, hw.params_open⟩
    · exact fun hm => ne_close_of_blank (hw.typeGap_blank _ hm) rfl
    · exact fun hm => ne_close_of_word (hw.name_word _ hm) rfl
    · exact fun hm => ne_close_of_blank (hw.nameGap_blank _ hm) rfl
  have hpieces : (h.qualifier ++ h.qualifierGap) ++ (h.returnType ++ (rest ++ [')'])) =
      pre ++ ')' :: post := by
    rw [← hsplit]
    simp [render, rest]
  obtain ⟨part, rfl, hpart⟩ := exists_of_append_eq_of_not_mem hpieces hfront
  refine ⟨part, rfl, ?_⟩
  rcases List.append_eq_append_iff.mp hpart with ⟨s, -, hs⟩ | ⟨s, hs, -⟩
  · -- Past the return type only the last parenthesis is left.
    obtain ⟨s', -, hs'⟩ := exists_of_append_eq_of_not_mem hs hrest
    cases s' with
    | nil => exact absurd (List.cons.inj hs').2.symm hpost
    | cons d s' =>
      have hlen := congrArg List.length hs'
      simp at hlen
  · exact ⟨s, hs.symm⟩

/-- A header that stands inside a text has a blank, a visible character and a blank in turn. -/
theorem WellFormed.exists_gaps {h : Header} (hw : h.WellFormed) :
    ∃ a b c s t u v, h.body = s ++ a :: (t ++ b :: (u ++ c :: v)) ∧
      isBlank a = true ∧ isBlank b = false ∧ isBlank c = true := by
  obtain ⟨a, gap, hgap⟩ := List.exists_cons_of_ne_nil hw.qualifierGap_ne
  obtain ⟨b, type, htype⟩ := List.exists_cons_of_ne_nil hw.returnType_token.1
  obtain ⟨c, gap', hgap'⟩ := List.exists_cons_of_ne_nil hw.typeGap_ne
  refine ⟨a, b, c, h.qualifier, gap, type, gap' ++ h.name ++ h.nameGap ++ '(' :: h.params, ?_,
    hw.qualifierGap_blank a (by simp [hgap]), hw.returnType_token.2 b (by simp [htype]),
    hw.typeGap_blank c (by simp [hgap'])⟩
  simp [body, hgap, htype, hgap']

/-- A header read at or before another one ends no later than it. -/
theorem WellFormed.length_render_le {g h : Header} (hg : g.WellFormed) (hw : h.WellFormed)
    {before rest after : Text} (hread : g.render ++ rest = before ++ (h.render ++ after)) :
    g.render.length ≤ (before ++ h.render).length := by
  by_contra hlong
  have hinside : ∃ post, post ≠ [] ∧ g.render = (before ++ h.body) ++ ')' :: post := by
    rw [← List.append_assoc] at hread
    rcases List.append_eq_append_iff.mp hread with ⟨s, hs, -⟩ | ⟨s, hs, -⟩
    · rw [hs, List.length_append] at hlong
      omega
    · refine ⟨s, ?_, ?_⟩
      · rintro rfl
        rw [hs, List.append_nil] at hlong
        omega
      · rw [hs, render_eq_body]
        simp
  obtain ⟨post, hpost, hsplit⟩ := hinside
  obtain ⟨part, hpart, hprefix⟩ := hg.mem_returnType_of_close hsplit hpost
  -- Two blanks with a visible character between them do not fit before a part of the return type.
  obtain ⟨a, b, c, s, t, u, v, hbody, ha, hb, hc⟩ := hw.exists_gaps
  have hfirst : g.qualifier ++ (g.qualifierGap ++ part) =
      (before ++ s) ++ a :: (t ++ b :: (u ++ c :: v)) := by
    rw [← List.append_assoc, ← hpart, hbody]
    simp
  have hqualifier : a ∉ g.qualifier := by
    intro hm
    rw [(hg.qualifier_visible a hm).1] at ha
    cases ha
  obtain ⟨s', -, hsecond⟩ := exists_of_append_eq_of_not_mem hfirst hqualifier
  have hgap : b ∉ g.qualifierGap := by
    intro hm
    rw [hg.qualifierGap_blank b hm] at hb
    cases hb
  have hsecond' : g.qualifierGap ++ part = (s' ++ a :: t) ++ b :: (u ++ c :: v) := by
    rw [hsecond]
    simp
  obtain ⟨t', -, hthird⟩ := exists_of_append_eq_of_not_mem hsecond' hgap
  have hmem : c ∈ g.returnType := hprefix.subset (by simp [hthird])
  rw [hg.returnType_token.2 c hmem] at hc
  cases hc

/-! ## The first header of a text -/

/-- Reading a header does not look past its closing parenthesis. -/
theorem exists_read?_of_prefix {u v w rest : Text} {g : Header}
    (hread : read? (u ++ v) = some (g, rest)) (hlen : g.render.length ≤ u.length) :
    ∃ rest', read? (u ++ w) = some (g, rest') := by
  obtain ⟨hg, htext⟩ := read?_eq_some_iff.mp hread
  have hprefix : g.render <+: u :=
    List.prefix_of_prefix_length_le ⟨rest, htext⟩ (List.prefix_append u v) hlen
  obtain ⟨s, rfl⟩ := hprefix
  exact ⟨s ++ w, read?_eq_some_iff.mpr ⟨hg, by simp⟩⟩

theorem find?_cons (c : Char) (t : Text) :
    find? (c :: t) = ((read? (c :: t)).map Prod.fst).or (find? t) := by
  rw [find?]
  cases hread : read? (c :: t) with
  | none => rfl
  | some p => rfl

theorem map_fst_congr {x y : Option (Header × Text)}
    (hxy : ∀ g r, x = some (g, r) → ∃ r', y = some (g, r'))
    (hyx : ∀ g r, y = some (g, r) → ∃ r', x = some (g, r')) : x.map Prod.fst = y.map Prod.fst := by
  cases x with
  | some p =>
    obtain ⟨r', hy⟩ := hxy p.1 p.2 rfl
    rw [hy]
    rfl
  | none =>
    cases y with
    | none => rfl
    | some p =>
      obtain ⟨r', hx⟩ := hyx p.1 p.2 rfl
      cases hx

/-- A header at the front of a text is the first one in it, whatever follows. -/
theorem WellFormed.find?_render {h : Header} (hw : h.WellFormed) (rest : Text) :
    find? (h.render ++ rest) = some h := by
  obtain ⟨c, t, hcons⟩ := List.exists_cons_of_ne_nil (show h.render ++ rest ≠ [] by simp [render])
  rw [hcons, find?_cons, ← hcons, hw.read?_render]
  rfl

/-- The first header of a text does not depend on what follows some header in it. -/
theorem WellFormed.find?_append_congr {h : Header} (hw : h.WellFormed) (before v w : Text) :
    find? (before ++ (h.render ++ v)) = find? (before ++ (h.render ++ w)) := by
  induction before with
  | nil => exact (hw.find?_render v).trans (hw.find?_render w).symm
  | cons c before ih =>
    have hshort : ∀ v w g r, read? (c :: before ++ (h.render ++ v)) = some (g, r) →
        ∃ r', read? (c :: before ++ (h.render ++ w)) = some (g, r') := by
      intro v w g r hread
      obtain ⟨hg, htext⟩ := read?_eq_some_iff.mp hread
      have hlen := hg.length_render_le hw htext
      rw [← List.append_assoc] at hread ⊢
      exact exists_read?_of_prefix hread hlen
    have hsame := map_fst_congr (hshort v w) (hshort w v)
    rw [List.cons_append] at hsame
    rw [List.cons_append, List.cons_append, find?_cons, find?_cons, ih]
    exact congrArg (fun x => Option.or x _) hsame

/-- No qualifier starts inside another one. -/
theorem qualifier_heads : ∀ q ∈ qualifiers, ∀ r ∈ qualifiers, ∀ c ∈ r.head?, c ∉ q.tail := by
  have htable : ∀ q ∈ qualifiers, ∀ r ∈ qualifiers,
      (r.head?.all fun c => !q.tail.contains c) = true := by decide +kernel
  intro q hq r hr c hc
  have hfirst := htable q hq r hr
  rw [Option.mem_def.mp hc] at hfirst
  simpa using hfirst

/-- No qualifier is read before the place of the first one. -/
theorem qualifier?_eq_none {before t : Text} {q : Text} (hq : q ∈ qualifiers) {c : Char}
    (hbefore : ∀ r ∈ qualifiers, ¬ r <:+: c :: before) :
    qualifier? (c :: before ++ (q ++ t)) = none := by
  cases hread : qualifier? (c :: before ++ (q ++ t)) with
  | none => rfl
  | some p =>
    have hr : p.1 ∈ qualifiers := mem_of_qualifier? hread
    have htext := append_of_qualifier? hread
    exfalso
    rcases List.append_eq_append_iff.mp htext with ⟨s, hs, -⟩ | ⟨s, hs, hrest⟩
    · exact hbefore p.1 hr ⟨[], s, by rw [List.nil_append, hs]⟩
    · -- A qualifier that reaches past `before` holds the first character of `q`.
      cases s with
      | nil => exact hbefore p.1 hr ⟨[], [], by simp [hs]⟩
      | cons d s =>
        obtain ⟨e, q, rfl⟩ := List.exists_cons_of_ne_nil
          (show q ≠ [] by rintro rfl; revert hq; decide)
        obtain rfl : e = d := (List.cons.inj hrest).1
        exact qualifier_heads p.1 hr _ hq e rfl (by simp [hs])

/-- The first header of a text is the one behind the first qualifier, if one is there. -/
theorem WellFormed.find?_eq_some {h : Header} (hw : h.WellFormed) {before : Text}
    (hbefore : ∀ q ∈ qualifiers, ¬ q <:+: before) (after : Text) :
    find? (before ++ (h.render ++ after)) = some h := by
  induction before with
  | nil => exact hw.find?_render after
  | cons c before ih =>
    have hqualifier : h.render ++ after = h.qualifier ++ (h.qualifierGap ++ (h.returnType ++
        (h.typeGap ++ (h.name ++ (h.nameGap ++ ('(' :: h.params ++ ')' :: after)))))) := by
      simp [render]
    have hnone : read? (c :: before ++ (h.render ++ after)) = none := by
      rw [read?, hqualifier, qualifier?_eq_none hw.qualifier_mem hbefore]
      rfl
    rw [List.cons_append] at hnone
    rw [List.cons_append, find?_cons, hnone]
    exact ih fun q hq hwithin => hbefore q hq (hwithin.trans (List.suffix_cons c before).isInfix)

/-- What follows the last closing parenthesis of a text plays no part in reading it. -/
theorem exists_read?_append_iff {t s : Text} (hs : ')' ∉ s) {g : Header} :
    (∃ r, read? (t ++ s) = some (g, r)) ↔ ∃ r, read? t = some (g, r) := by
  constructor
  · rintro ⟨r, hread⟩
    obtain ⟨-, htext⟩ := read?_eq_some_iff.mp hread
    have hlen : g.render.length ≤ t.length := by
      rw [render_eq_body, List.append_assoc] at htext
      rcases List.append_eq_append_iff.mp htext with ⟨u, rfl, hu⟩ | ⟨u, -, hu⟩
      · cases u with
        | nil => exact absurd (by simp [← show _ = s from hu]) hs
        | cons d u => simp [render_eq_body]
      · exact absurd (by simp [hu]) hs
    obtain ⟨r', hr'⟩ := exists_read?_of_prefix (w := []) hread hlen
    exact ⟨r', by simpa using hr'⟩
  · rintro ⟨r, hread⟩
    obtain ⟨hg, rfl⟩ := read?_eq_some_iff.mp hread
    exact ⟨r ++ s, read?_eq_some_iff.mpr ⟨hg, by simp⟩⟩

/-- Text after the last closing parenthesis has no say in which header comes first. -/
theorem find?_append_of_not_mem {s : Text} (hs : ')' ∉ s) (t : Text) :
    find? (t ++ s) = find? t := by
  induction t with
  | nil =>
    induction s with
    | nil => rfl
    | cons c s ih =>
      have hread : (read? (c :: s)).map Prod.fst = (read? []).map Prod.fst :=
        map_fst_congr (fun g r h => (exists_read?_append_iff (t := []) hs).mp ⟨r, h⟩)
          (fun g r h => (exists_read?_append_iff (t := []) hs).mpr ⟨r, h⟩)
      rw [List.nil_append, find?_cons, hread]
      exact ih fun hm => hs (List.mem_cons_of_mem _ hm)
  | cons c t ih =>
    have hread : (read? (c :: t ++ s)).map Prod.fst = (read? (c :: t)).map Prod.fst :=
      map_fst_congr (fun g r h => (exists_read?_append_iff hs).mp ⟨r, h⟩)
        (fun g r h => (exists_read?_append_iff hs).mpr ⟨r, h⟩)
    rw [List.cons_append, find?_cons, find?_cons, ih]
    exact congrArg (fun x => Option.or x _) hread

end Header
end FailureReplay
