import FailureReplay.Proofs.Payload

/-!
# The division of a payload

A separator outside quotes and nesting cuts a payload in two parts that are read
on their own. Hence every payload is a row of pieces with runs of commas and
spaces between them, and its tokens are the pieces, trimmed. Tokens laid out with
such runs are read back; the tokens of any payload stand in it in order, with
nothing but commas and white space around them, and are not divided further.

A piece is left out if it is empty, and trimmed only after that. White space of
another kind between two separators therefore becomes a token, and an empty one.
-/

namespace FailureReplay.Payload

/-- Commas and spaces only. -/
def IsRun (t : Text) : Prop := ∀ c ∈ t, c = ',' ∨ c = ' '

instance (t : Text) : Decidable (IsRun t) :=
  decidable_of_iff (t.all fun c => c = ',' || c = ' ') (by simp [IsRun])

/-- Commas and white space only. -/
def IsGap (t : Text) : Prop := ∀ c ∈ t, c = ',' ∨ Text.isBlank c = true

theorem isRun_nil : IsRun [] := by simp [IsRun]

theorem isRun_cons {c : Char} {t : Text} : IsRun (c :: t) ↔ (c = ',' ∨ c = ' ') ∧ IsRun t := by
  simp [IsRun]

theorem IsRun.of_isPrefix {s t : Text} (h : IsRun t) (hs : s <+: t) : IsRun s :=
  fun c hc => h c (hs.subset hc)

theorem IsRun.isGap {t : Text} (h : IsRun t) : IsGap t := by
  intro c hc
  rcases h c hc with rfl | rfl
  · exact .inl rfl
  · exact .inr (by decide)

theorem isGap_of_blank {t : Text} (h : ∀ c ∈ t, Text.isBlank c = true) : IsGap t :=
  fun c hc => .inr (h c hc)

theorem IsGap.append {s t : Text} (hs : IsGap s) (ht : IsGap t) : IsGap (s ++ t) :=
  List.forall_mem_append.mpr ⟨hs, ht⟩

/-! ## Contexts over gaps -/

theorem Context.step_gap {c : Char} (hc : c = ',' ∨ Text.isBlank c = true) :
    Context.empty.step c = .empty := by
  rcases hc with rfl | hc
  · rfl
  · have hne : ∀ d : Char, Text.isBlank d = false → c ≠ d := by
      intro d hd heq
      rw [heq, hd] at hc
      cases hc
    simp [step, empty, hne '[' (by decide), hne ']' (by decide), hne '{' (by decide),
      hne '}' (by decide), hne '"' (by decide), hne '\\' (by decide)]

theorem Context.after_gap {gap : Text} (hgap : IsGap gap) : Context.empty.after gap = .empty := by
  induction gap with
  | nil => rfl
  | cons c gap ih =>
    rw [after_cons, step_gap (hgap c (by simp))]
    exact ih fun d hd => hgap d (List.mem_cons_of_mem _ hd)

theorem Context.Outside.after_run {x : Context} (hx : x.Outside) {run : Text} (hrun : IsRun run) :
    (x.after run).Outside := by
  cases run with
  | nil => exact hx
  | cons c run =>
    obtain ⟨hc, hrest⟩ := isRun_cons.mp hrun
    rw [after_cons, hx.step_separator hc, after_gap hrest.isGap]
    exact outside_empty

/-- A character separates only where nothing is open. -/
theorem Context.outside_of_separates {x : Context} {c : Char} (h : x.separates c = true) :
    (c = ',' ∨ c = ' ') ∧ x.Outside := by
  simp only [separates, Bool.and_eq_true, Bool.or_eq_true, decide_eq_true_eq,
    Bool.not_eq_true'] at h
  obtain ⟨⟨⟨hc, hquoted⟩, hbrackets⟩, hbraces⟩ := h
  exact ⟨hc, hbrackets, hbraces, hquoted⟩

/-- Blanks are read as one piece unless there is a space among them. -/
theorem Context.unbroken_blanks_iff {blanks : Text} (hb : ∀ c ∈ blanks, Text.isBlank c = true) :
    Context.empty.Unbroken blanks ↔ ' ' ∉ blanks := by
  induction blanks with
  | nil => simp [Unbroken]
  | cons c blanks ih =>
    have hc : Text.isBlank c = true := hb c (by simp)
    have hcomma : c ≠ ',' := by
      intro heq
      rw [heq] at hc
      cases hc
    have hseparates : Context.empty.separates c = false ↔ ' ' ≠ c := by
      rw [← Bool.not_eq_true, outside_empty.separates_iff]
      simp [hcomma, eq_comm]
    rw [Unbroken, hseparates, step_gap (.inr hc), ih fun d hd => hb d (List.mem_cons_of_mem _ hd),
      List.mem_cons, not_or]

/-- Trimming a piece leaves it in one piece. -/
theorem Context.Unbroken.trim {t : Text} (h : Context.empty.Unbroken t) :
    Context.empty.Unbroken (Text.trim t) := by
  obtain ⟨before, after, ht, hblank, -⟩ := Text.exists_trim_append t
  rw [ht, unbroken_append, after_gap (isGap_of_blank hblank), unbroken_append] at h
  exact h.2.1

theorem tokensFrom_run {run : Text} (hrun : IsRun run) (rest : Text) :
    tokensFrom .empty [] (run ++ rest) = tokensFrom .empty [] rest := by
  induction run with
  | nil => rfl
  | cons c run ih =>
    obtain ⟨hc, hrest⟩ := isRun_cons.mp hrun
    rw [List.cons_append, tokensFrom_separator Context.outside_empty hc]
    exact ih hrest

/-! ## Tokens laid out with gaps -/

structure Placed where
  token : Text
  gap : Text
  deriving DecidableEq, Repr

/-- A gap, then tokens, each with the gap after it. -/
def laidOut (lead : Text) (parts : List Placed) : Text :=
  lead ++ parts.flatMap fun part => part.token ++ part.gap

theorem laidOut_cons (lead : Text) (part : Placed) (parts : List Placed) :
    laidOut lead (part :: parts) = lead ++ (part.token ++ laidOut part.gap parts) := by
  simp [laidOut]

theorem laidOut_append (lead : Text) (parts parts' : List Placed) :
    laidOut lead (parts ++ parts') = laidOut lead parts ++ laidOut [] parts' := by
  simp [laidOut]

theorem laidOut_concat (lead : Text) (parts : List Placed) (part : Placed) :
    laidOut lead (parts ++ [part]) = laidOut lead parts ++ part.token ++ part.gap := by
  simp [laidOut]

/-- Pieces as a payload is divided into them: none is empty or broken, and the runs between them
are not empty. Only the last may leave a quote or a bracket open. -/
structure Divided (parts : List Placed) : Prop where
  ne_nil : ∀ part ∈ parts, part.token ≠ []
  unbroken : ∀ part ∈ parts, Context.empty.Unbroken part.token
  run : ∀ part ∈ parts, IsRun part.gap
  outside : ∀ part ∈ parts, part.gap ≠ [] → (Context.empty.after part.token).Outside
  between : ∀ part ∈ parts.dropLast, part.gap ≠ []

theorem Divided.tail {part : Placed} {parts : List Placed} (h : Divided (part :: parts)) :
    Divided parts where
  ne_nil p hp := h.ne_nil p (List.mem_cons_of_mem _ hp)
  unbroken p hp := h.unbroken p (List.mem_cons_of_mem _ hp)
  run p hp := h.run p (List.mem_cons_of_mem _ hp)
  outside p hp := h.outside p (List.mem_cons_of_mem _ hp)
  between p hp := by
    have hne : parts ≠ [] := List.ne_nil_of_mem (List.dropLast_subset _ hp)
    apply h.between p
    rw [List.dropLast_cons_of_ne_nil hne]
    exact List.mem_cons_of_mem _ hp

/-- Only the last piece may have no gap after it. -/
theorem Divided.eq_nil_of_gap {front others : List Placed} {part : Placed}
    (h : Divided (front ++ part :: others)) (hgap : part.gap = []) : others = [] := by
  by_contra hne
  refine h.between part ?_ hgap
  rw [List.dropLast_append_of_ne_nil (List.cons_ne_nil _ _), List.dropLast_cons_of_ne_nil hne]
  simp

theorem divided_nil : Divided [] := by
  constructor <;> simp

theorem divided_cons {part : Placed} {parts : List Placed} (hne : part.token ≠ [])
    (hunbroken : Context.empty.Unbroken part.token) (hrun : IsRun part.gap)
    (houtside : part.gap ≠ [] → (Context.empty.after part.token).Outside)
    (hbetween : parts ≠ [] → part.gap ≠ []) (h : Divided parts) : Divided (part :: parts) where
  ne_nil := List.forall_mem_cons.mpr ⟨hne, h.ne_nil⟩
  unbroken := List.forall_mem_cons.mpr ⟨hunbroken, h.unbroken⟩
  run := List.forall_mem_cons.mpr ⟨hrun, h.run⟩
  outside := List.forall_mem_cons.mpr ⟨houtside, h.outside⟩
  between := by
    by_cases hparts : parts = []
    · simp [hparts]
    · rw [List.dropLast_cons_of_ne_nil hparts]
      exact List.forall_mem_cons.mpr ⟨hbetween hparts, h.between⟩

/-- The pieces of a divided text are its tokens, trimmed. -/
theorem tokensFrom_laidOut {lead : Text} (hlead : IsRun lead) {parts : List Placed}
    (h : Divided parts) :
    tokensFrom .empty [] (laidOut lead parts) = parts.map fun part => Text.trim part.token := by
  induction parts generalizing lead with
  | nil => exact tokensFrom_run hlead []
  | cons part parts ih =>
    have hpiece := tokensFrom_piece (h.ne_nil part (by simp)) (h.unbroken part (by simp))
    have hrun : IsRun part.gap := h.run part (by simp)
    rw [laidOut_cons, tokensFrom_run hlead, List.map_cons]
    cases hgap : part.gap with
    | nil =>
      have hlast : parts = [] := @Divided.eq_nil_of_gap [] parts part h hgap
      simpa [hlast, laidOut] using hpiece
    | cons c gap =>
      rw [hgap] at hrun
      obtain ⟨hc, hgapRun⟩ := isRun_cons.mp hrun
      have hcons : laidOut (c :: gap) parts = c :: laidOut gap parts := rfl
      rw [hcons, tokensFrom_cut (h.outside part (by simp) (by simp [hgap])) hc, hpiece,
        ih hgapRun h.tail]
      rfl

/-- Every text is divided: a piece that was begun goes on up to the next separator. -/
theorem exists_divided_from (rest : Text) :
    (∃ lead parts, IsRun lead ∧ Divided parts ∧ rest = laidOut lead parts) ∧
      ∀ s, s ≠ [] → Context.empty.Unbroken s →
        ∃ parts, Divided parts ∧ s ++ rest = laidOut [] parts := by
  induction rest with
  | nil =>
    refine ⟨⟨[], [], isRun_nil, divided_nil, rfl⟩, ?_⟩
    intro s hne hs
    refine ⟨[⟨s, []⟩], divided_cons hne hs isRun_nil ?_ ?_ divided_nil, by simp [laidOut]⟩
    · exact fun h => absurd rfl h
    · exact fun h => absurd rfl h
  | cons c rest ih =>
    obtain ⟨⟨lead, parts, hlead, hparts, hrest⟩, hpiece⟩ := ih
    constructor
    · by_cases hc : c = ',' ∨ c = ' '
      · refine ⟨c :: lead, parts, isRun_cons.mpr ⟨hc, hlead⟩, hparts, ?_⟩
        rw [hrest]
        rfl
      · have hone : Context.empty.Unbroken [c] := by
          refine ⟨?_, trivial⟩
          rwa [← Bool.not_eq_true, Context.outside_empty.separates_iff]
        obtain ⟨parts', hparts', heq⟩ := hpiece [c] (by simp) hone
        exact ⟨[], parts', isRun_nil, hparts', heq⟩
    · intro s hne hs
      by_cases hc : (Context.empty.after s).separates c = true
      · obtain ⟨hsep, houtside⟩ := Context.outside_of_separates hc
        refine ⟨⟨s, c :: lead⟩ :: parts, ?_, ?_⟩
        · exact divided_cons hne hs (isRun_cons.mpr ⟨hsep, hlead⟩) (fun _ => houtside)
            (fun _ => by simp) hparts
        · rw [laidOut_cons, hrest]
          rfl
      · have hgrown : Context.empty.Unbroken (s ++ [c]) := by
          rw [Context.unbroken_append]
          exact ⟨hs, by simpa using hc, trivial⟩
        obtain ⟨parts', hparts', heq⟩ := hpiece (s ++ [c]) (by simp) hgrown
        exact ⟨parts', hparts', by simpa using heq⟩

theorem exists_divided (t : Text) :
    ∃ lead parts, IsRun lead ∧ Divided parts ∧ t = laidOut lead parts :=
  (exists_divided_from t).1

/-! ## Reading back -/

theorem exists_trimStart_run {run : Text} (hrun : IsRun run) {t : Text}
    (ht : ∀ c ∈ t.head?, Text.isBlank c = false) :
    ∃ run', IsRun run' ∧ Text.trimStart (run ++ t) = run' ++ t := by
  induction run with
  | nil =>
    refine ⟨[], isRun_nil, ?_⟩
    cases t with
    | nil => rfl
    | cons c t => simp [Text.trimStart, ht c rfl]
  | cons c run ih =>
    obtain ⟨hc, hrest⟩ := isRun_cons.mp hrun
    by_cases hblank : Text.isBlank c = true
    · obtain ⟨run', hrun', heq⟩ := ih hrest
      refine ⟨run', hrun', ?_⟩
      rw [← heq]
      simp [Text.trimStart, hblank]
    · exact ⟨c :: run, hrun, by simp [Text.trimStart, hblank]⟩

/-- Separators at the end of a payload may be cut off. -/
theorem Divided.shorten {parts : List Placed} {part : Placed} (h : Divided (parts ++ [part]))
    {gap : Text} (hgap : gap <+: part.gap) : Divided (parts ++ [⟨part.token, gap⟩]) := by
  have hne : gap ≠ [] → part.gap ≠ [] := by
    intro hne hnil
    rw [hnil, List.prefix_nil] at hgap
    exact hne hgap
  obtain ⟨hnil, hunbroken, hrun, houtside, hbetween⟩ := h
  simp only [List.forall_mem_append, List.forall_mem_singleton] at hnil hunbroken hrun houtside
  constructor
  · exact List.forall_mem_append.mpr ⟨hnil.1, List.forall_mem_singleton.mpr hnil.2⟩
  · exact List.forall_mem_append.mpr ⟨hunbroken.1, List.forall_mem_singleton.mpr hunbroken.2⟩
  · exact List.forall_mem_append.mpr
      ⟨hrun.1, List.forall_mem_singleton.mpr (hrun.2.of_isPrefix hgap)⟩
  · exact List.forall_mem_append.mpr
      ⟨houtside.1, List.forall_mem_singleton.mpr fun h => houtside.2 (hne h)⟩
  · simpa using hbetween

/-- A text divided into trimmed pieces is still divided into them when its own ends are trimmed. -/
theorem Divided.exists_trim {lead : Text} (hlead : IsRun lead) {parts : List Placed}
    (h : Divided parts) (htrimmed : ∀ part ∈ parts, Text.trim part.token = part.token) :
    ∃ lead' parts', IsRun lead' ∧ Divided parts' ∧
      parts'.map Placed.token = parts.map Placed.token ∧
      Text.trim (laidOut lead parts) = laidOut lead' parts' := by
  have hhead : ∀ c ∈ (laidOut [] parts).head?, Text.isBlank c = false := by
    intro c hc
    cases parts with
    | nil => cases hc
    | cons part parts =>
      rw [laidOut_cons, List.nil_append, List.head?_append_of_ne_nil _ (h.ne_nil part (by simp)),
        ← htrimmed part (by simp)] at hc
      exact Text.head?_trim part.token c hc
  obtain ⟨lead', hlead', hstart⟩ := exists_trimStart_run hlead hhead
  have hsplit : ∀ run, laidOut run parts = run ++ laidOut [] parts := fun _ => rfl
  rw [hsplit, Text.trim, hstart, ← hsplit]
  rcases parts.eq_nil_or_concat with hnil | ⟨front, part, hconcat⟩
  · subst hnil
    have hend : laidOut (Text.trimEnd lead') [] = Text.trimEnd (laidOut lead' []) := by
      simp [laidOut]
    exact ⟨Text.trimEnd lead', [], hlead'.of_isPrefix (Text.trimEnd_isPrefix _), divided_nil, rfl,
      hend.symm⟩
  · rw [List.concat_eq_append] at hconcat
    subst hconcat
    refine ⟨lead', front ++ [⟨part.token, Text.trimEnd part.gap⟩], hlead',
      h.shorten (Text.trimEnd_isPrefix _), by simp, ?_⟩
    rw [laidOut_concat, laidOut_concat]
    apply Text.trimEnd_append
    intro c hc
    rw [List.getLast?_append_of_ne_nil _ (h.ne_nil part (by simp)),
      ← htrimmed part (by simp)] at hc
    exact Text.getLast?_trim part.token c hc

/-- Tokens that are laid out with runs of commas and spaces between them, and perhaps around them,
are read back in order. -/
theorem tokens_laidOut {lead : Text} (hlead : IsRun lead) {parts : List Placed}
    (hatoms : ∀ part ∈ parts, IsAtom part.token) (hruns : ∀ part ∈ parts, IsRun part.gap)
    (hbetween : ∀ part ∈ parts.dropLast, part.gap ≠ []) :
    tokens (laidOut lead parts) = parts.map Placed.token := by
  have hdivided : Divided parts :=
    ⟨fun part hpart => (hatoms part hpart).ne_nil, fun part hpart => (hatoms part hpart).unbroken,
      hruns, fun part hpart _ => (hatoms part hpart).outside, hbetween⟩
  have htrimmed : ∀ part ∈ parts, Text.trim part.token = part.token :=
    fun part hpart => (hatoms part hpart).trimmed
  obtain ⟨lead', parts', hlead', hparts', hsame, htrim⟩ := hdivided.exists_trim hlead htrimmed
  calc tokens (laidOut lead parts)
      = parts'.map fun part => Text.trim part.token := by
        rw [tokens, htrim, tokensFrom_laidOut hlead' hparts']
    _ = (parts.map Placed.token).map Text.trim := by
        rw [← hsame, List.map_map]
        rfl
    _ = parts.map Placed.token := by
        rw [List.map_map]
        exact List.map_congr_left htrimmed

/-- Separators inside quotes and nesting, an escaped quote, a closing bracket that closes nothing,
and a backslash before a separator. -/
theorem tokens_laidOut_nested :
    IsRun " ,".toList ∧
      (∀ token ∈ ["\"a, \\\" b\"", "\x7b1 [x], 2\x7d", "]", "c\\"], IsAtom token.toList) ∧
      tokens " ,\"a, \\\" b\",,\x7b1 [x], 2\x7d ] , c\\ ,".toList =
        ["\"a, \\\" b\"".toList, "\x7b1 [x], 2\x7d".toList, "]".toList, "c\\".toList] := by
  have hlead : IsRun " ,".toList := by decide
  have hatoms : ∀ token ∈ ["\"a, \\\" b\"", "\x7b1 [x], 2\x7d", "]", "c\\"],
      IsAtom token.toList := by
    decide +kernel
  let parts : List Placed :=
    [⟨"\"a, \\\" b\"".toList, ",,".toList⟩, ⟨"\x7b1 [x], 2\x7d".toList, " ".toList⟩,
      ⟨"]".toList, " , ".toList⟩, ⟨"c\\".toList, " ,".toList⟩]
  have hread : tokens (laidOut " ,".toList parts) = parts.map Placed.token :=
    tokens_laidOut hlead (by simpa [parts] using hatoms) (by decide) (by decide)
  exact ⟨hlead, hatoms, hread⟩

/-! ## Tokens inside a payload -/

/-- The tokens stand in the text in order, none inside another, and all that stands before, between
and after them is commas and white space. -/
def StandIn : List Text → Text → Prop
  | [], t => IsGap t
  | token :: tokens, t =>
    ∃ gap rest, t = gap ++ (token ++ rest) ∧ IsGap gap ∧ StandIn tokens rest

theorem StandIn.gap_append {gap : Text} (hgap : IsGap gap) {tokens : List Text} {t : Text}
    (h : StandIn tokens t) : StandIn tokens (gap ++ t) := by
  cases tokens with
  | nil => exact hgap.append h
  | cons token tokens =>
    obtain ⟨before, rest, rfl, hbefore, hrest⟩ := h
    exact ⟨gap ++ before, rest, by simp, hgap.append hbefore, hrest⟩

theorem StandIn.append_gap {gap : Text} (hgap : IsGap gap) {tokens : List Text} {t : Text}
    (h : StandIn tokens t) : StandIn tokens (t ++ gap) := by
  induction tokens generalizing t with
  | nil => exact IsGap.append h hgap
  | cons token tokens ih =>
    obtain ⟨before, rest, rfl, hbefore, hrest⟩ := h
    exact ⟨before, rest ++ gap, by simp, hbefore, ih hrest⟩

/-- What is trimmed off a piece goes to the gaps around it. -/
theorem standIn_laidOut {lead : Text} (hlead : IsGap lead) {parts : List Placed}
    (hgaps : ∀ part ∈ parts, IsGap part.gap) :
    StandIn (parts.map fun part => Text.trim part.token) (laidOut lead parts) := by
  induction parts generalizing lead with
  | nil => simpa [laidOut, StandIn] using hlead
  | cons part parts ih =>
    obtain ⟨before, after, htoken, hbefore, hafter⟩ := Text.exists_trim_append part.token
    have hrest := ih (hgaps part (by simp)) fun p hp => hgaps p (List.mem_cons_of_mem _ hp)
    refine ⟨lead ++ before, after ++ laidOut part.gap parts, ?_,
      hlead.append (isGap_of_blank hbefore), hrest.gap_append (isGap_of_blank hafter)⟩
    rw [laidOut_cons]
    conv_lhs => rw [htoken]
    simp

/-- The pieces of a payload, whatever quotes and brackets it leaves open. -/
theorem exists_pieces (payload : Text) :
    ∃ lead parts, IsRun lead ∧ Divided parts ∧ Text.trim payload = laidOut lead parts ∧
      tokens payload = parts.map fun part => Text.trim part.token := by
  obtain ⟨lead, parts, hlead, hparts, htrim⟩ := exists_divided (Text.trim payload)
  refine ⟨lead, parts, hlead, hparts, htrim, ?_⟩
  rw [tokens, htrim, tokensFrom_laidOut hlead hparts]

/-- The tokens of any payload stand in it in order with commas and white space around them, and a
token that is not empty is not divided again. -/
theorem tokens_standIn (payload : Text) :
    StandIn (tokens payload) payload ∧
      ∀ token ∈ tokens payload, token ≠ [] → tokens token = [token] := by
  obtain ⟨lead, parts, hlead, hparts, htrim, htokens⟩ := exists_pieces payload
  rw [htokens]
  constructor
  · have hinside := standIn_laidOut hlead.isGap fun part hpart => (hparts.run part hpart).isGap
    obtain ⟨before, after, hpayload, hbefore, hafter⟩ := Text.exists_trim_append payload
    rw [hpayload, htrim]
    exact (hinside.append_gap (isGap_of_blank hafter)).gap_append (isGap_of_blank hbefore)
  · intro token htoken hne
    obtain ⟨part, hpart, rfl⟩ := List.mem_map.mp htoken
    have hunbroken := (hparts.unbroken part hpart).trim
    rw [tokens, Text.trim_trim]
    exact tokensFrom_of_unbroken hne (Text.trim_trim _) hunbroken

/-- A closing bracket that closes nothing, a piece of white space, and an open quote. -/
theorem tokens_standIn_open_quote :
    tokens "a] ,\t \"b, [c".toList = ["a]".toList, [], "\"b, [c".toList] ∧
      StandIn ["a]".toList, [], "\"b, [c".toList] "a] ,\t \"b, [c".toList ∧
      tokens "\"b, [c".toList = ["\"b, [c".toList] := by
  have htokens : tokens "a] ,\t \"b, [c".toList = ["a]".toList, [], "\"b, [c".toList] := by
    decide +kernel
  have hstand := tokens_standIn "a] ,\t \"b, [c".toList
  rw [htokens] at hstand
  exact ⟨htokens, hstand.1, hstand.2 _ (by simp) (by decide)⟩

/-! ## Empty tokens -/

/-- White space without a space in it stands alone between two separators. -/
def HasBlankPiece (payload : Text) : Prop :=
  ∃ before a blanks b after, Text.trim payload = before ++ a :: (blanks ++ b :: after) ∧
    (Context.empty.after before).Outside ∧ (a = ',' ∨ a = ' ') ∧ (b = ',' ∨ b = ' ') ∧
    blanks ≠ [] ∧ ∀ c ∈ blanks, Text.isBlank c = true ∧ c ≠ ' '

/-- White space that is not a space is taken for a piece, and trimmed to nothing. -/
theorem nil_mem_tokens_of_hasBlankPiece {payload : Text} (h : HasBlankPiece payload) :
    [] ∈ tokens payload := by
  obtain ⟨before, a, blanks, b, after, htrim, houtside, ha, hb, hne, hblanks⟩ := h
  have hblank : ∀ c ∈ blanks, Text.isBlank c = true := fun c hc => (hblanks c hc).1
  have hspace : ' ' ∉ blanks := fun hc => (hblanks ' ' hc).2 rfl
  have hmiddle : (Context.empty.after blanks).Outside := by
    rw [Context.after_gap (isGap_of_blank hblank)]
    exact Context.outside_empty
  have hpiece : tokensFrom .empty [] blanks = [[]] := by
    rw [tokensFrom_piece hne ((Context.unbroken_blanks_iff hblank).mpr hspace),
      (Text.trim_eq_nil_iff blanks).mpr hblank]
  rw [tokens, htrim, tokensFrom_cut houtside ha, tokensFrom_cut hmiddle hb, hpiece]
  simp

/-- A piece that leaves nothing open and has separators after it. -/
structure Placed.Closed (part : Placed) : Prop where
  run : IsRun part.gap
  ne_nil : part.gap ≠ []
  outside : (Context.empty.after part.token).Outside

theorem Divided.closed {front others : List Placed} {part : Placed}
    (h : Divided (front ++ part :: others)) : ∀ p ∈ front, p.Closed := by
  intro p hp
  have hmem : p ∈ front ++ part :: others := List.mem_append_left _ hp
  have hne : p.gap ≠ [] := by
    apply h.between p
    rw [List.dropLast_append_of_ne_nil (List.cons_ne_nil _ _)]
    exact List.mem_append_left _ hp
  exact ⟨h.run p hmem, hne, h.outside p hmem hne⟩

/-- After closed pieces the reader is where it started. -/
theorem after_laidOut {lead : Text} (hlead : IsRun lead) {parts : List Placed}
    (hclosed : ∀ part ∈ parts, part.Closed) :
    Context.empty.after (laidOut lead parts) = .empty := by
  induction parts generalizing lead with
  | nil => simpa [laidOut] using Context.after_gap hlead.isGap
  | cons part parts ih =>
    obtain ⟨hrun, hne, houtside⟩ := hclosed part (by simp)
    obtain ⟨c, gap, hgap⟩ := List.exists_cons_of_ne_nil hne
    rw [hgap] at hrun
    obtain ⟨hc, hrest⟩ := isRun_cons.mp hrun
    have hcons : laidOut part.gap parts = c :: laidOut gap parts := by
      rw [hgap]
      rfl
    rw [laidOut_cons, Context.after_append, Context.after_gap hlead.isGap, Context.after_append,
      hcons, Context.after_cons, houtside.step_separator hc]
    exact ih hrest fun p hp => hclosed p (List.mem_cons_of_mem _ hp)

theorem exists_last_separator {lead : Text} (hlead : IsRun lead) {parts : List Placed}
    (hclosed : ∀ part ∈ parts, part.Closed) (hne : laidOut lead parts ≠ []) :
    ∃ before a, laidOut lead parts = before ++ [a] ∧ (a = ',' ∨ a = ' ') ∧
      (Context.empty.after before).Outside := by
  obtain ⟨s, run, hsplit, hrun, hne, houtside⟩ : ∃ s run, laidOut lead parts = s ++ run ∧
      IsRun run ∧ run ≠ [] ∧ (Context.empty.after s).Outside := by
    rcases parts.eq_nil_or_concat with hnil | ⟨front, part, hconcat⟩
    · have hlaid : laidOut lead parts = lead := by simp [hnil, laidOut]
      exact ⟨[], lead, hlaid, hlead, hlaid ▸ hne, Context.outside_empty⟩
    · rw [List.concat_eq_append] at hconcat
      obtain ⟨hrun, hgap, houtside⟩ := hclosed part (by simp [hconcat])
      have hfront : ∀ p ∈ front, p.Closed := fun p hp => hclosed p (by simp [hconcat, hp])
      refine ⟨laidOut lead front ++ part.token, part.gap, ?_, hrun, hgap, ?_⟩
      · rw [hconcat, laidOut_concat]
      · rwa [Context.after_append, after_laidOut hlead hfront]
  obtain ⟨front, a, rfl⟩ := List.eq_nil_or_concat run |>.resolve_left hne
  rw [List.concat_eq_append] at hrun hsplit
  refine ⟨s ++ front, a, by rw [hsplit, List.append_assoc], hrun a (by simp), ?_⟩
  rw [Context.after_append]
  exact houtside.after_run (hrun.of_isPrefix (List.prefix_append _ _))

/-- There is no other way to an empty token. -/
theorem hasBlankPiece_of_nil_mem_tokens {payload : Text} (h : [] ∈ tokens payload) :
    HasBlankPiece payload := by
  obtain ⟨lead, parts, hlead, hparts, htrim, htokens⟩ := exists_pieces payload
  rw [htokens] at h
  obtain ⟨part, hpart, hnil⟩ := List.mem_map.mp h
  obtain ⟨front, others, rfl⟩ := List.append_of_mem hpart
  have hblank : ∀ c ∈ part.token, Text.isBlank c = true := (Text.trim_eq_nil_iff _).mp hnil
  have hne : part.token ≠ [] := hparts.ne_nil part hpart
  have hspace : ' ' ∉ part.token :=
    (Context.unbroken_blanks_iff hblank).mp (hparts.unbroken part hpart)
  have hsplit : Text.trim payload =
      laidOut lead front ++ (part.token ++ laidOut part.gap others) := by
    rw [htrim, laidOut_append, laidOut_cons]
    rfl
  -- The piece is neither the first nor the last thing in the payload, whose ends are not blank.
  have hfront : laidOut lead front ≠ [] := by
    intro hfront
    obtain ⟨c, token, htoken⟩ := List.exists_cons_of_ne_nil hne
    have hc := Text.head?_trim payload c (by simp [hsplit, hfront, htoken])
    rw [hblank c (by simp [htoken])] at hc
    cases hc
  have hgap : part.gap ≠ [] := by
    intro hgap
    have hothers : others = [] := hparts.eq_nil_of_gap hgap
    obtain ⟨token, c, htoken⟩ := List.eq_nil_or_concat part.token |>.resolve_left hne
    have hc := Text.getLast?_trim payload c (by simp [hsplit, hgap, hothers, htoken, laidOut])
    rw [hblank c (by simp [htoken])] at hc
    cases hc
  obtain ⟨before, a, hbefore, ha, houtside⟩ :=
    exists_last_separator hlead hparts.closed hfront
  obtain ⟨b, gap, hb⟩ := List.exists_cons_of_ne_nil hgap
  refine ⟨before, a, part.token, b, laidOut gap others, ?_, houtside, ha,
    hparts.run part hpart b (by simp [hb]), hne, ?_⟩
  · rw [hsplit, hbefore, hb]
    simp [laidOut]
  · intro c hc
    exact ⟨hblank c hc, fun heq => hspace (heq ▸ hc)⟩

/-- Every token is trimmed, and none is empty exactly if white space other than spaces nowhere
stands alone between two separators. -/
theorem tokens_nonempty_iff (payload : Text) :
    (∀ token ∈ tokens payload, Text.trim token = token) ∧
      ((∀ token ∈ tokens payload, token ≠ []) ↔ ¬ HasBlankPiece payload) := by
  constructor
  · obtain ⟨lead, parts, -, -, -, htokens⟩ := exists_pieces payload
    intro token htoken
    rw [htokens] at htoken
    obtain ⟨part, -, rfl⟩ := List.mem_map.mp htoken
    exact Text.trim_trim part.token
  · constructor
    · intro h hpiece
      exact h [] (nil_mem_tokens_of_hasBlankPiece hpiece) rfl
    · intro h token htoken hnil
      exact h (hasBlankPiece_of_nil_mem_tokens (hnil ▸ htoken))

/-- White space at the end of a piece is trimmed off, and between brackets it is kept. -/
theorem tokens_nonempty_iff_bracketed :
    tokens "1\t,\n[2, \t, 3]".toList = ["1".toList, "[2, \t, 3]".toList] ∧
      Text.trim "[2, \t, 3]".toList = "[2, \t, 3]".toList ∧
      ¬ HasBlankPiece "1\t,\n[2, \t, 3]".toList := by
  have htokens : tokens "1\t,\n[2, \t, 3]".toList = ["1".toList, "[2, \t, 3]".toList] := by
    decide +kernel
  have h := tokens_nonempty_iff "1\t,\n[2, \t, 3]".toList
  rw [htokens] at h
  exact ⟨htokens, h.1 _ (by simp), h.2.mp (by decide)⟩

/-- A line break with a space after it is read as an argument of its own, so the argument that
follows it is counted one too far. -/
theorem tokens_line_break_between :
    tokens "1,\n 2".toList = ["1".toList, [], "2".toList] ∧
      ¬ ∀ payload, ∀ token ∈ tokens payload, token ≠ [] ∧ Text.trim token = token := by
  have htokens : tokens "1,\n 2".toList = ["1".toList, [], "2".toList] := by decide +kernel
  refine ⟨htokens, ?_⟩
  intro h
  exact (h "1,\n 2".toList [] (htokens ▸ by simp)).1 rfl

end FailureReplay.Payload
