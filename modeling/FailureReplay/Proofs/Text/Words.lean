import FailureReplay.Proofs.Text.Trim

/-!
# Words

The words of a text are its maximal visible runs. A run that ends where a blank
stands, or where the text ends, is read as one word; conversely the first word
that is read stands in the text after blanks only.
-/

namespace FailureReplay.Text

/-- A token: visible characters only, and at least one. -/
def IsToken (w : Text) : Prop := w ≠ [] ∧ ∀ c ∈ w, isBlank c = false

instance (w : Text) : Decidable (IsToken w) :=
  decidable_of_iff (w ≠ [] ∧ w.all fun c => !isBlank c) (by simp [IsToken])

theorem words_cons_of_blank {c : Char} (hc : isBlank c = true) (t : Text) :
    words (c :: t) = words t := by
  simp [words, hc]

theorem words_blanks_append {blanks : Text} (hb : ∀ c ∈ blanks, isBlank c = true) (t : Text) :
    words (blanks ++ t) = words t := by
  induction blanks with
  | nil => rfl
  | cons c blanks ih =>
    rw [List.cons_append, words_cons_of_blank (hb c (by simp)),
      ih fun d hd => hb d (List.mem_cons_of_mem _ hd)]

theorem words_cons_cons_of_blank {c d : Char} (hc : isBlank c = false) (hd : isBlank d = true)
    (t : Text) : words (c :: d :: t) = [c] :: words (d :: t) := by
  cases hws : words (d :: t) with
  | nil => simp [words.eq_def (c :: d :: t), hc, hws]
  | cons v vs => simp [words.eq_def (c :: d :: t), hc, hws, hd]

theorem words_token_append {w rest : Text} (hw : IsToken w)
    (hrest : ∀ c ∈ rest.head?, isBlank c = true) : words (w ++ rest) = w :: words rest := by
  obtain ⟨hne, hvis⟩ := hw
  induction w with
  | nil => exact absurd rfl hne
  | cons c w ih =>
    have hc : isBlank c = false := hvis c (by simp)
    cases w with
    | nil =>
      cases rest with
      | nil => simp [words, hc]
      | cons d rest =>
        exact words_cons_cons_of_blank hc (hrest d rfl) rest
    | cons d w =>
      have hd : isBlank d = false := hvis d (by simp)
      have ht := ih (by simp) fun e he => hvis e (List.mem_cons_of_mem _ he)
      rw [List.cons_append] at ht ⊢
      rw [List.cons_append]
      simp [words.eq_def (c :: d :: (w ++ rest)), hc, hd, ht]

/-- The first word stands after blanks only, and the other words are read from what follows it. -/
theorem exists_token_of_words_eq_cons {t w : Text} {ws : List Text} (h : words t = w :: ws) :
    ∃ blanks rest, t = blanks ++ (w ++ rest) ∧ (∀ c ∈ blanks, isBlank c = true) ∧ IsToken w ∧
      (∀ c ∈ rest.head?, isBlank c = true) ∧ words rest = ws := by
  obtain ⟨blanks, ht, hb⟩ := exists_append_trimStart t
  rw [ht, words_blanks_append hb] at h
  cases hs : trimStart t with
  | nil => rw [hs] at h; cases h
  | cons c r =>
    have hc : isBlank c = false := head?_trimStart t c (by rw [hs]; rfl)
    let run := (c :: r).takeWhile fun d => !isBlank d
    let rest := (c :: r).dropWhile fun d => !isBlank d
    have hsplit : c :: r = run ++ rest := List.takeWhile_append_dropWhile.symm
    have hrun : IsToken run := by
      refine ⟨by simp [run, hc], ?_⟩
      intro d hd
      simpa using List.mem_takeWhile_imp hd
    have hrest : ∀ d ∈ rest.head?, isBlank d = true := by
      intro d hd
      have hn := List.head?_dropWhile_not (fun e => !isBlank e) (c :: r)
      rw [Option.mem_def.mp hd] at hn
      simpa using hn
    rw [hs, hsplit, words_token_append hrun hrest] at h
    obtain ⟨rfl, rfl⟩ := List.cons.inj h
    exact ⟨blanks, rest, by rw [ht, hs, hsplit], hb, hrun, hrest, rfl⟩

theorem exists_of_words_eq_cons {t w : Text} {ws : List Text} (h : words t = w :: ws) :
    ∃ blanks rest, t = blanks ++ (w ++ rest) ∧ words rest = ws := by
  obtain ⟨blanks, rest, ht, -, -, -, hrest⟩ := exists_token_of_words_eq_cons h
  exact ⟨blanks, rest, ht, hrest⟩

/-- The words of a text hold its visible characters, in order. -/
theorem flatten_words (t : Text) : (words t).flatten = visible t := by
  induction t with
  | nil => rfl
  | cons c t ih =>
    by_cases hc : isBlank c = true
    · rw [words_cons_of_blank hc, ih, visible_cons_of_blank hc]
    · have hvisible : visible (c :: t) = c :: visible t := by simp [visible, hc]
      rw [hvisible, ← ih, words.eq_def]
      simp only [hc, Bool.false_eq_true, if_false]
      split
      · next hws => split <;> simp [hws]
      · simp

theorem words_cons_visible {c : Char} (hc : isBlank c = false) (t : Text) :
    ∃ w ws, words (c :: t) = (c :: w) :: ws := by
  rw [words.eq_def]
  simp only [hc, Bool.false_eq_true, if_false]
  split
  · split
    · exact ⟨[], _, rfl⟩
    · exact ⟨_, _, rfl⟩
  · exact ⟨[], _, rfl⟩

theorem ne_nil_of_mem_words {t w : Text} (h : w ∈ words t) : w ≠ [] := by
  induction t with
  | nil => cases h
  | cons c t ih =>
    rw [words.eq_def] at h
    by_cases hc : isBlank c = true
    · simp only [hc, if_true] at h
      exact ih h
    · simp only [hc, Bool.false_eq_true, if_false] at h
      split at h
      · next hws =>
        split at h
        · rcases List.mem_cons.mp h with rfl | h
          · simp
          · exact ih (hws ▸ h)
        · rcases List.mem_cons.mp h with rfl | h
          · simp
          · exact ih (hws ▸ List.mem_cons_of_mem _ h)
      · rcases List.mem_cons.mp h with rfl | h
        · simp
        · exact ih h

theorem words_append_blanks {blanks : Text} (hb : ∀ c ∈ blanks, isBlank c = true) (t : Text) :
    words (t ++ blanks) = words t := by
  have hnone : words blanks = [] := by
    have h := words_blanks_append hb []
    rwa [List.append_nil] at h
  induction t with
  | nil => exact hnone
  | cons c t ih =>
    by_cases hc : isBlank c = true
    · rw [List.cons_append, words_cons_of_blank hc, words_cons_of_blank hc, ih]
    · have hvisible : isBlank c = false := by simpa using hc
      cases t with
      | nil =>
        have hone : IsToken [c] := ⟨by simp, by simpa using hvisible⟩
        have hhead : ∀ d ∈ blanks.head?, isBlank d = true :=
          fun d hd => hb d (List.mem_of_mem_head? hd)
        rw [words_token_append hone hhead, hnone]
        simp [words, hvisible]
      | cons d t =>
        rw [List.cons_append] at ih
        rw [List.cons_append, List.cons_append]
        simp only [words.eq_def (c :: d :: (t ++ blanks)), words.eq_def (c :: d :: t), ih]
        cases words (d :: t) <;> rfl

theorem words_trim (t : Text) : words (trim t) = words t := by
  obtain ⟨before, hbefore, hblank⟩ := exists_append_trimStart t
  obtain ⟨after, hafter, hblank'⟩ := exists_trimEnd_append (trimStart t)
  conv_rhs => rw [hbefore, words_blanks_append hblank, hafter, words_append_blanks hblank']
  rfl

/-- Tokens joined by single spaces are read back one by one. -/
theorem words_join_space {ts : List Text} (hts : ∀ t ∈ ts, IsToken t) :
    words (join " " ts) = ts := by
  induction ts with
  | nil => rfl
  | cons t ts ih =>
    have ht : IsToken t := hts t (by simp)
    have hrest := ih fun s hs => hts s (List.mem_cons_of_mem _ hs)
    cases ts with
    | nil =>
      have hone : join " " [t] = t ++ [] := by simp [join]
      rw [hone, words_token_append ht (by simp)]
      rfl
    | cons s ts =>
      have hcons : join " " (t :: s :: ts) = t ++ ' ' :: join " " (s :: ts) := by
        simp [join, List.intercalate_cons_cons]
      have hblank : isBlank ' ' = true := by decide
      rw [hcons, words_token_append ht (by simp [hblank]), words_cons_of_blank hblank, hrest]

/-- Tokens in order, with blanks between any two of them and perhaps around them. -/
def Spaced : List Text → Text → Prop
  | [], t => ∀ c ∈ t, isBlank c = true
  | w :: ws, t => ∃ gap rest, t = gap ++ (w ++ rest) ∧ (∀ c ∈ gap, isBlank c = true) ∧
      IsToken w ∧ (∀ c ∈ rest.head?, isBlank c = true) ∧ Spaced ws rest

theorem Spaced.words_eq {ws : List Text} {t : Text} (h : Spaced ws t) : words t = ws := by
  induction ws generalizing t with
  | nil =>
    have hblank := words_blanks_append (show ∀ c ∈ t, isBlank c = true from h) []
    rwa [List.append_nil] at hblank
  | cons w ws ih =>
    obtain ⟨gap, rest, rfl, hgap, hw, hhead, hrest⟩ := h
    rw [words_blanks_append hgap, words_token_append hw hhead, ih hrest]

theorem blank_of_words_eq_nil {t : Text} (h : words t = []) : ∀ c ∈ t, isBlank c = true := by
  have hvisible : visible t = [] := by rw [← flatten_words, h]; rfl
  intro c hc
  simpa using List.filter_eq_nil_iff.mp hvisible c hc

/-- The tokens that a text spaces out are its words. -/
theorem spaced_iff {ws : List Text} {t : Text} : Spaced ws t ↔ words t = ws := by
  refine ⟨Spaced.words_eq, ?_⟩
  intro h
  induction ws generalizing t with
  | nil => exact blank_of_words_eq_nil h
  | cons w ws ih =>
    obtain ⟨gap, rest, ht, hgap, hw, hhead, hrest⟩ := exists_token_of_words_eq_cons h
    exact ⟨gap, rest, ht, hgap, hw, hhead, ih hrest⟩

theorem words_eq_nil_iff {t : Text} : words t = [] ↔ allBlank t = true := by
  rw [allBlank, List.all_eq_true, ← spaced_iff]
  rfl

instance (ws : List Text) (t : Text) : Decidable (Spaced ws t) :=
  decidable_of_iff (words t = ws) spaced_iff.symm

theorem Spaced.mem_cases {ws : List Text} {t : Text} (h : Spaced ws t) {c : Char} (hc : c ∈ t) :
    isBlank c = true ∨ ∃ w ∈ ws, c ∈ w := by
  induction ws generalizing t with
  | nil => exact .inl (h c hc)
  | cons w ws ih =>
    obtain ⟨gap, rest, rfl, hgap, -, -, hrest⟩ := h
    rw [List.mem_append, List.mem_append] at hc
    rcases hc with hc | hc | hc
    · exact .inl (hgap c hc)
    · exact .inr ⟨w, by simp, hc⟩
    · rcases ih hrest hc with hblank | ⟨v, hv, hcv⟩
      · exact .inl hblank
      · exact .inr ⟨v, List.mem_cons_of_mem _ hv, hcv⟩

end FailureReplay.Text
