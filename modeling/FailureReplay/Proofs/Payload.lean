import FailureReplay.Payload
import FailureReplay.Proofs.Text.Pieces
import FailureReplay.Proofs.Text.Trim

/-!
# Contexts along a payload

A stretch of a payload is kept in one token as long as none of its characters
separates in the context it is met in. A token that is read whole from outside
quotes and nesting, and leaves the reader outside again, is an atom; atoms that
are joined by separators are read back one by one.

The two nesting counts move independently of each other and of the quotes. A
bracket that is left open hides every later separator until it is closed.
-/

namespace FailureReplay.Payload

def Context.after (x : Context) (t : Text) : Context := t.foldl Context.step x

/-- No character of the text separates where it stands. -/
def Context.Unbroken : Context → Text → Prop
  | _, [] => True
  | x, c :: t => x.separates c = false ∧ (x.step c).Unbroken t

/-- Neither quotes nor nesting; an escape may be pending. -/
structure Context.Outside (x : Context) : Prop where
  brackets : x.brackets = 0
  braces : x.braces = 0
  quoted : x.quoted = false

instance Context.decidableUnbroken : (x : Context) → (t : Text) → Decidable (x.Unbroken t)
  | _, [] => isTrue trivial
  | x, c :: t =>
    have := decidableUnbroken (x.step c) t
    inferInstanceAs (Decidable (x.separates c = false ∧ (x.step c).Unbroken t))

instance (x : Context) : Decidable x.Outside :=
  decidable_of_iff (x.brackets = 0 ∧ x.braces = 0 ∧ x.quoted = false)
    ⟨fun h => ⟨h.1, h.2.1, h.2.2⟩, fun h => ⟨h.brackets, h.braces, h.quoted⟩⟩

@[simp] theorem Context.after_nil (x : Context) : x.after [] = x := rfl

@[simp] theorem Context.after_cons (x : Context) (c : Char) (t : Text) :
    x.after (c :: t) = (x.step c).after t := rfl

@[simp] theorem Context.after_append (x : Context) (s t : Text) :
    x.after (s ++ t) = (x.after s).after t := List.foldl_append

theorem Context.unbroken_append {x : Context} {s t : Text} :
    x.Unbroken (s ++ t) ↔ x.Unbroken s ∧ (x.after s).Unbroken t := by
  induction s generalizing x with
  | nil => simp [Unbroken]
  | cons c s ih => simp [Unbroken, ih, and_assoc]

theorem Context.outside_empty : Context.empty.Outside := ⟨rfl, rfl, rfl⟩

theorem Context.Outside.separates_iff {x : Context} (hx : x.Outside) (c : Char) :
    x.separates c = true ↔ c = ',' ∨ c = ' ' := by
  simp [separates, hx.brackets, hx.braces, hx.quoted]

theorem Context.Outside.step_separator {x : Context} (hx : x.Outside) {c : Char}
    (hc : c = ',' ∨ c = ' ') : x.step c = .empty := by
  rcases hc with rfl | rfl <;> simp [step, empty, hx.brackets, hx.braces, hx.quoted]

/-! ## Reading tokens -/

/-- Unbroken text is collected whole. -/
theorem tokensFrom_unbroken_append {x : Context} {t : Text} (h : x.Unbroken t)
    (collected rest : Text) :
    tokensFrom x collected (t ++ rest) = tokensFrom (x.after t) (t.reverse ++ collected) rest := by
  induction t generalizing x collected with
  | nil => rfl
  | cons c t ih =>
    obtain ⟨hc, ht⟩ := h
    rw [List.cons_append, tokensFrom, hc, Context.after_cons, List.reverse_cons,
      List.append_assoc, List.singleton_append]
    exact ih ht (c :: collected)

/-- A separator outside quotes and nesting ends the token collected so far. -/
theorem tokensFrom_separator {x : Context} (hx : x.Outside) {c : Char} (hc : c = ',' ∨ c = ' ')
    (collected rest : Text) :
    tokensFrom x collected (c :: rest) = flush collected ++ tokensFrom .empty [] rest := by
  rw [tokensFrom, if_pos ((hx.separates_iff c).mpr hc), hx.step_separator hc]

/-- A separator outside quotes and nesting cuts a payload: what stands before it and what follows
are read apart. -/
theorem tokensFrom_cut {x : Context} {s : Text} (hs : (x.after s).Outside) {c : Char}
    (hc : c = ',' ∨ c = ' ') (collected rest : Text) :
    tokensFrom x collected (s ++ c :: rest) =
      tokensFrom x collected s ++ tokensFrom .empty [] rest := by
  induction s generalizing x collected with
  | nil => exact tokensFrom_separator hs hc collected rest
  | cons d s ih =>
    have hrest := ih (x := x.step d) hs
    rw [List.cons_append, tokensFrom, tokensFrom]
    by_cases hd : x.separates d = true
    · rw [if_pos hd, if_pos hd, hrest, List.append_assoc]
    · rw [if_neg hd, if_neg hd, hrest]

/-- A text that is one token wherever it stands between separators. -/
structure IsAtom (t : Text) : Prop where
  ne_nil : t ≠ []
  trimmed : Text.trim t = t
  unbroken : Context.empty.Unbroken t
  outside : (Context.empty.after t).Outside

instance (t : Text) : Decidable (IsAtom t) :=
  decidable_of_iff (t ≠ [] ∧ Text.trim t = t ∧ Context.empty.Unbroken t ∧
      (Context.empty.after t).Outside)
    ⟨fun h => ⟨h.1, h.2.1, h.2.2.1, h.2.2.2⟩,
      fun h => ⟨h.ne_nil, h.trimmed, h.unbroken, h.outside⟩⟩

/-- A text that is not broken is one token, trimmed. -/
theorem tokensFrom_piece {t : Text} (hne : t ≠ []) (h : Context.empty.Unbroken t) :
    tokensFrom .empty [] t = [Text.trim t] := by
  have hread := tokensFrom_unbroken_append h [] []
  rw [List.append_nil, List.append_nil] at hread
  rw [hread]
  simp [tokensFrom, flush, hne]

theorem tokensFrom_of_unbroken {t : Text} (hne : t ≠ []) (htrim : Text.trim t = t)
    (h : Context.empty.Unbroken t) : tokensFrom .empty [] t = [t] := by
  rw [tokensFrom_piece hne h, htrim]

/-- An atom before a comma is the first token. -/
theorem tokensFrom_join_cons {t : Text} (ht : IsAtom t) (s : Text) (ts : List Text) :
    tokensFrom .empty [] (Text.join ", " (t :: s :: ts)) =
      t :: tokensFrom .empty [] (Text.join ", " (s :: ts)) := by
  have hseparator : ", ".toList ++ Text.join ", " (s :: ts) =
      ',' :: ' ' :: Text.join ", " (s :: ts) := rfl
  rw [Text.join_cons_cons, hseparator, tokensFrom_cut ht.outside (.inl rfl),
    tokensFrom_of_unbroken ht.ne_nil ht.trimmed ht.unbroken,
    tokensFrom_separator Context.outside_empty (.inr rfl)]
  rfl

/-- Atoms joined as in a payload are read back one by one. The last text may leave quotes or
nesting open. -/
theorem tokensFrom_join_concat {ts : List Text} (h : ∀ t ∈ ts, IsAtom t) {last : Text}
    (hne : last ≠ []) (htrim : Text.trim last = last) (hlast : Context.empty.Unbroken last) :
    tokensFrom .empty [] (Text.join ", " (ts ++ [last])) = ts ++ [last] := by
  induction ts with
  | nil =>
    rw [List.nil_append, Text.join_singleton]
    exact tokensFrom_of_unbroken hne htrim hlast
  | cons t ts ih =>
    have hrest := ih fun s hs => h s (List.mem_cons_of_mem _ hs)
    obtain ⟨s, ss, hcons⟩ := List.exists_cons_of_ne_nil (List.concat_ne_nil last ts)
    rw [List.cons_append, hcons, tokensFrom_join_cons (h t (by simp)), ← hcons, hrest]

/-- Atoms that are joined with a comma and a space are told apart again. -/
theorem tokensFrom_join {ts : List Text} (h : ∀ t ∈ ts, IsAtom t) :
    tokensFrom .empty [] (Text.join ", " ts) = ts := by
  rcases ts.eq_nil_or_concat with rfl | ⟨front, last, rfl⟩
  · rfl
  · rw [List.concat_eq_append] at h ⊢
    have hlast : IsAtom last := h last (by simp)
    exact tokensFrom_join_concat (fun t ht => h t (List.mem_append_left _ ht)) hlast.ne_nil
      hlast.trimmed hlast.unbroken

theorem trim_join {ts : List Text} (hne : ∀ t ∈ ts, t ≠ []) (h : ∀ t ∈ ts, Text.trim t = t) :
    Text.trim (Text.join ", " ts) = Text.join ", " ts := by
  obtain ⟨hhead, hlast⟩ := Text.exists_ends_of_join ", " hne
  apply Text.trim_eq_self
  · intro c hc
    obtain ⟨t, ht, hct⟩ := hhead c hc
    rw [← h t ht] at hct
    exact Text.head?_trim t c hct
  · intro c hc
    obtain ⟨t, ht, hct⟩ := hlast c hc
    rw [← h t ht] at hct
    exact Text.getLast?_trim t c hct

/-- Atoms joined as in a payload are read back one by one. -/
theorem tokens_join {ts : List Text} (h : ∀ t ∈ ts, IsAtom t) :
    tokens (Text.join ", " ts) = ts := by
  rw [tokens, trim_join (fun t ht => (h t ht).ne_nil) fun t ht => (h t ht).trimmed,
    tokensFrom_join h]

/-! ## Nesting -/

/-- The brackets open after a text, `n` being open before it. -/
def openBrackets (n : Nat) (t : Text) : Nat :=
  t.foldl (fun n c => if c = '[' then n + 1 else if c = ']' then n - 1 else n) n

theorem openBrackets_append (n : Nat) (s t : Text) :
    openBrackets n (s ++ t) = openBrackets (openBrackets n s) t := List.foldl_append

/-- Brackets are counted alike inside and outside quotes. -/
theorem Context.brackets_after (x : Context) (t : Text) :
    (x.after t).brackets = openBrackets x.brackets t := by
  induction t generalizing x with
  | nil => rfl
  | cons c t ih => exact ih (x.step c)

/-- The braces open after a text, `n` being open before it. -/
def openBraces (n : Nat) (t : Text) : Nat :=
  t.foldl (fun n c => if c = '{' then n + 1 else if c = '}' then n - 1 else n) n

theorem openBrackets_of_not_mem {t : Text} (hopen : '[' ∉ t) (hclose : ']' ∉ t) (n : Nat) :
    openBrackets n t = n := by
  induction t with
  | nil => rfl
  | cons c t ih =>
    rw [List.mem_cons, not_or] at hopen hclose
    have hc : c ≠ '[' ∧ c ≠ ']' := ⟨Ne.symm hopen.1, Ne.symm hclose.1⟩
    rw [openBrackets, List.foldl_cons, if_neg hc.1, if_neg hc.2]
    exact ih hopen.2 hclose.2

theorem openBrackets_join {sep : String} (hsep : openBrackets 0 sep.toList = 0) {ts : List Text}
    (h : ∀ t ∈ ts, openBrackets 0 t = 0) : openBrackets 0 (Text.join sep ts) = 0 := by
  induction ts with
  | nil => rfl
  | cons s ts ih =>
    have hs : openBrackets 0 s = 0 := h s (by simp)
    have hrest := ih fun t ht => h t (List.mem_cons_of_mem _ ht)
    cases ts with
    | nil => rwa [Text.join_singleton]
    | cons t ts =>
      rw [Text.join_cons_cons, openBrackets_append, hs, openBrackets_append, hsep, hrest]

/-- Between braces nothing separates, and only braces and quotes could change that. -/
theorem Context.unbroken_of_braces {x : Context} (hx : 0 < x.braces) {t : Text}
    (ht : ∀ c ∈ t, c ≠ '{' ∧ c ≠ '}' ∧ c ≠ '"') :
    x.Unbroken t ∧ (x.after t).braces = x.braces ∧ (x.after t).quoted = x.quoted := by
  induction t generalizing x with
  | nil => exact ⟨trivial, rfl, rfl⟩
  | cons c t ih =>
    obtain ⟨hopen, hclose, hquote⟩ := ht c (by simp)
    have hbraces : (x.step c).braces = x.braces := by simp [step, hopen, hclose]
    have hquoted : (x.step c).quoted = x.quoted := by simp [step, hquote]
    have hseparates : x.separates c = false := by
      have hne : x.braces ≠ 0 := by omega
      simp [separates, hne]
    have hrest := ih (x := x.step c) (by omega) fun d hd => ht d (List.mem_cons_of_mem _ hd)
    rw [hbraces, hquoted] at hrest
    exact ⟨⟨hseparates, hrest.1⟩, hrest.2⟩

/-- Behind an open bracket nothing separates until it is closed. -/
theorem Context.unbroken_of_brackets {x : Context} (hx : 0 < x.brackets) {t : Text}
    (ht : ']' ∉ t) : x.Unbroken t := by
  induction t generalizing x with
  | nil => trivial
  | cons c t ih =>
    rw [List.mem_cons, not_or] at ht
    have hclose : c ≠ ']' := Ne.symm ht.1
    have hgrown : x.brackets ≤ (x.step c).brackets := by
      simp only [step, hclose, if_false]
      split <;> omega
    have hseparates : x.separates c = false := by
      have hne : x.brackets ≠ 0 := by omega
      simp [separates, hne]
    exact ⟨hseparates, ih (by omega) ht.2⟩

end FailureReplay.Payload
