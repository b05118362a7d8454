import FailureReplay.Text.Blank
import Mathlib.Data.List.DropRight

/-!
# Trimming and visible characters

Trimming takes blanks off the two ends of a text and nothing else. The visible
characters of a text are those that are not blank; they survive every cut that
only loses blanks.
-/

namespace FailureReplay.Text

def visible (t : Text) : Text := t.filter fun c => !isBlank c

@[simp] theorem visible_append (s t : Text) : visible (s ++ t) = visible s ++ visible t :=
  List.filter_append ..

theorem visible_cons_of_blank {c : Char} (h : isBlank c = true) (t : Text) :
    visible (c :: t) = visible t := by
  simp [visible, h]

theorem visible_eq_nil_iff (t : Text) : visible t = [] ↔ ∀ c ∈ t, isBlank c = true := by
  simp [visible]

theorem count_visible {c : Char} (h : isBlank c = false) (t : Text) :
    (visible t).count c = t.count c := by
  rw [visible, List.count_filter]
  simp [h]

/-! ## What trimming keeps -/

theorem trimEnd_eq_rdropWhile (t : Text) : trimEnd t = t.rdropWhile isBlank := rfl

theorem trimEnd_isPrefix (t : Text) : trimEnd t <+: t := List.rdropWhile_prefix isBlank t

theorem trimStart_isSuffix (t : Text) : trimStart t <:+ t := List.dropWhile_suffix isBlank

theorem trim_isInfix (t : Text) : trim t <:+: t :=
  (trimEnd_isPrefix _).isInfix.trans (trimStart_isSuffix t).isInfix

theorem exists_trimEnd_append (t : Text) :
    ∃ blanks, t = trimEnd t ++ blanks ∧ ∀ c ∈ blanks, isBlank c = true := by
  refine ⟨t.rtakeWhile isBlank, List.rdropWhile_append_rtakeWhile.symm, ?_⟩
  intro c hc
  exact List.mem_rtakeWhile_imp hc

theorem exists_append_trimStart (t : Text) :
    ∃ blanks, t = blanks ++ trimStart t ∧ ∀ c ∈ blanks, isBlank c = true := by
  refine ⟨t.takeWhile isBlank, List.takeWhile_append_dropWhile.symm, ?_⟩
  intro c hc
  exact List.mem_takeWhile_imp hc

theorem head?_trimStart (t : Text) : ∀ c ∈ (trimStart t).head?, isBlank c = false := by
  intro c hc
  have h := List.head?_dropWhile_not isBlank t
  rw [← trimStart, Option.mem_def.mp hc] at h
  exact h

theorem visible_trimEnd (t : Text) : visible (trimEnd t) = visible t := by
  obtain ⟨blanks, ht, hb⟩ := exists_trimEnd_append t
  have hv : visible blanks = [] := (visible_eq_nil_iff blanks).mpr hb
  conv_rhs => rw [ht, visible_append, hv, List.append_nil]

theorem visible_trimStart (t : Text) : visible (trimStart t) = visible t := by
  obtain ⟨blanks, ht, hb⟩ := exists_append_trimStart t
  have hv : visible blanks = [] := (visible_eq_nil_iff blanks).mpr hb
  conv_rhs => rw [ht, visible_append, hv, List.nil_append]

@[simp] theorem visible_trim (t : Text) : visible (trim t) = visible t := by
  rw [trim, visible_trimEnd, visible_trimStart]

theorem count_trim {c : Char} (h : isBlank c = false) (t : Text) :
    (trim t).count c = t.count c := by
  rw [← count_visible h, visible_trim, count_visible h]

theorem trim_eq_nil_iff (t : Text) : trim t = [] ↔ ∀ c ∈ t, isBlank c = true := by
  constructor
  · intro h
    rw [← visible_eq_nil_iff, ← visible_trim, h]
    rfl
  · intro h
    have hstart : trimStart t = [] := List.dropWhile_eq_nil_iff.mpr h
    rw [trim, hstart]
    rfl

/-! ## Texts that differ in blanks at their ends -/

theorem trimStart_blanks_append {blanks : Text} (hb : ∀ c ∈ blanks, isBlank c = true) (t : Text) :
    trimStart (blanks ++ t) = trimStart t := by
  have hd : blanks.dropWhile isBlank = [] := List.dropWhile_eq_nil_iff.mpr hb
  rw [trimStart, List.dropWhile_append, hd]
  rfl

theorem trimEnd_append_blanks {blanks : Text} (hb : ∀ c ∈ blanks, isBlank c = true) (t : Text) :
    trimEnd (t ++ blanks) = trimEnd t := by
  have hr : ∀ c ∈ blanks.reverse, isBlank c = true := fun c hc => hb c (List.mem_reverse.mp hc)
  have h := trimStart_blanks_append hr t.reverse
  rw [trimStart, trimStart] at h
  rw [trimEnd, trimEnd, List.reverse_append, h]

theorem trim_blanks_append {blanks : Text} (hb : ∀ c ∈ blanks, isBlank c = true) (t : Text) :
    trim (blanks ++ t) = trim t := by
  rw [trim, trimStart_blanks_append hb, trim]

/-- Trimming from the left first or from the right first gives the same text. -/
theorem trimStart_trimEnd (t : Text) : trimStart (trimEnd t) = trim t := by
  obtain ⟨blanks, ht, hb⟩ := exists_append_trimStart t
  cases hs : trimStart t with
  | nil =>
    have he : ∀ c ∈ trimEnd t, isBlank c = true := by
      intro c hc
      rw [hs, List.append_nil] at ht
      exact hb c (ht ▸ (trimEnd_isPrefix t).subset hc)
    rw [trim, hs, trimStart, List.dropWhile_eq_nil_iff.mpr he]
    rfl
  | cons c rest =>
    have hc : isBlank c = false := head?_trimStart t c (by rw [hs]; rfl)
    have hne : ((c :: rest).reverse.dropWhile isBlank).isEmpty = false := by
      simp only [List.isEmpty_eq_false_iff, ne_eq, List.dropWhile_eq_nil_iff, not_forall]
      exact ⟨c, by simp, by simp [hc]⟩
    have hend : trimEnd (blanks ++ c :: rest) = blanks ++ trimEnd (c :: rest) := by
      rw [trimEnd, trimEnd, List.reverse_append, List.dropWhile_append, hne]
      simp
    have hhead : trimStart (trimEnd (c :: rest)) = trimEnd (c :: rest) := by
      rw [trimEnd, List.reverse_cons, List.dropWhile_append]
      split <;> simp [trimStart, hc]
    rw [trim, hs, ht, hs, hend, trimStart_blanks_append hb, hhead]

/-- White space behind a text has no bearing on the trimmed text. -/
theorem trim_append_blanks {blanks : Text} (hb : ∀ c ∈ blanks, isBlank c = true) (t : Text) :
    trim (t ++ blanks) = trim t := by
  rw [← trimStart_trimEnd, trimEnd_append_blanks hb, trimStart_trimEnd]

theorem head?_trim (t : Text) : ∀ c ∈ (trim t).head?, isBlank c = false := by
  rw [← trimStart_trimEnd]
  exact head?_trimStart (trimEnd t)

theorem getLast?_trim (t : Text) : ∀ c ∈ (trim t).getLast?, isBlank c = false := by
  intro c hc
  rw [trim, trimEnd, List.getLast?_reverse] at hc
  have h := List.head?_dropWhile_not isBlank (trimStart t).reverse
  rw [Option.mem_def.mp hc] at h
  exact h

theorem trim_eq_self {t : Text} (hfirst : ∀ c ∈ t.head?, isBlank c = false)
    (hlast : ∀ c ∈ t.getLast?, isBlank c = false) : trim t = t := by
  have hs : trimStart t = t := by
    cases t with
    | nil => rfl
    | cons c rest => simp [trimStart, hfirst c rfl]
  rw [trim, hs, trimEnd_eq_rdropWhile, List.rdropWhile_eq_self_iff]
  intro ht
  simp [hlast _ (List.getLast?_eq_some_getLast ht)]

theorem trim_trim (t : Text) : trim (trim t) = trim t :=
  trim_eq_self (head?_trim t) (getLast?_trim t)

theorem exists_trim_append (t : Text) :
    ∃ before after, t = before ++ (trim t ++ after) ∧
      (∀ c ∈ before, isBlank c = true) ∧ ∀ c ∈ after, isBlank c = true := by
  obtain ⟨before, hbefore, hblank⟩ := exists_append_trimStart t
  obtain ⟨after, hafter, hblank'⟩ := exists_trimEnd_append (trimStart t)
  refine ⟨before, after, ?_, hblank, hblank'⟩
  rw [trim, ← hafter, ← hbefore]

/-- Blanks are trimmed off behind a visible character only. -/
theorem trimEnd_append {s : Text} (hs : ∀ c ∈ s.getLast?, isBlank c = false) (t : Text) :
    trimEnd (s ++ t) = s ++ trimEnd t := by
  have hkept : s.reverse.dropWhile isBlank = s.reverse := by
    rw [← List.head?_reverse] at hs
    cases hrev : s.reverse with
    | nil => rfl
    | cons c r => simp [hs c (by simp [hrev])]
  rw [trimEnd, List.reverse_append, List.dropWhile_append, hkept, trimEnd]
  split
  · next hnone => simp [List.isEmpty_iff.mp hnone]
  · simp

/-- A trimmed text stays whole when more text behind it is trimmed. -/
theorem isPrefix_trim_append {s : Text} (hne : s ≠ []) (hs : trim s = s) (t : Text) :
    s <+: trim (s ++ t) := by
  have hfirst := head?_trim s
  have hlast := getLast?_trim s
  rw [hs] at hfirst hlast
  obtain ⟨c, rest, rfl⟩ := List.exists_cons_of_ne_nil hne
  have hstart : trimStart (c :: rest ++ t) = c :: rest ++ t := by
    simp [trimStart, hfirst c rfl]
  rw [trim, hstart, trimEnd_append hlast]
  exact List.prefix_append _ _

/-! ## Starts and endings -/

theorem afterStart?_eq_some_iff {start t rest : Text} :
    afterStart? start t = some rest ↔ start ++ rest = t := by
  refine ⟨append_of_afterStart?, ?_⟩
  rintro rfl
  induction start with
  | nil => rfl
  | cons c start ih => simpa [afterStart?] using ih

theorem afterStart?_eq_none_iff {start t : Text} :
    afterStart? start t = none ↔ ¬ start <+: t := by
  rw [Option.eq_none_iff_forall_ne_some, List.IsPrefix, not_exists]
  simp only [ne_eq, afterStart?_eq_some_iff]

theorem beforeEnding?_eq_some_iff {ending t rest : Text} :
    beforeEnding? ending t = some rest ↔ rest ++ ending = t := by
  refine ⟨append_of_beforeEnding?, ?_⟩
  rintro rfl
  have hstart : afterStart? ending.reverse (rest ++ ending).reverse = some rest.reverse :=
    afterStart?_eq_some_iff.mpr List.reverse_append.symm
  rw [beforeEnding?, hstart, Option.map_some, List.reverse_reverse]

/-! ## Enclosed texts -/

theorem enclosed?_enclosing (opening closing : Char) (inner : Text) :
    enclosed? opening closing (opening :: inner ++ [closing]) = some inner := by
  simp [enclosed?, beforeEnding?, afterStart?]

theorem trim_enclosing {opening closing : Char} (hopening : isBlank opening = false)
    (hclosing : isBlank closing = false) (inner : Text) :
    trim (opening :: inner ++ [closing]) = opening :: inner ++ [closing] := by
  apply trim_eq_self
  · intro c hc
    obtain rfl : opening = c := Option.some.inj hc
    exact hopening
  · intro c hc
    rw [List.getLast?_concat, Option.mem_def] at hc
    obtain rfl := Option.some.inj hc
    exact hclosing

end FailureReplay.Text
