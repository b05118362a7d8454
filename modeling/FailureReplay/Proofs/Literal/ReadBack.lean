import FailureReplay.Proofs.Literal.Quote

/-!
# Reading string literals back

A string literal is read from left to right up to the first quote that no
backslash escapes. Reading accepts exactly what quoting writes: the text comes
back whole and the quote that ends it is the last character of the literal,
whatever follows. So no text can break out of its literal, and the texts of an
array literal come back in order.
-/

namespace FailureReplay.Literal

/-- Read up to the first quote that is not escaped. An escaped backslash or quote stands for
itself. Gives the text that was read and what follows the quote. -/
def readEscaped? : Text → Option (Text × Text)
  | [] => none
  | '"' :: rest => some ([], rest)
  | '\\' :: '\\' :: rest => (readEscaped? rest).map (Prod.map ('\\' :: ·) id)
  | '\\' :: '"' :: rest => (readEscaped? rest).map (Prod.map ('"' :: ·) id)
  | c :: rest => if c = '\\' then none else (readEscaped? rest).map (Prod.map (c :: ·) id)

/-- Read the string literal at the front of a text. -/
def readQuoted? : Text → Option (Text × Text)
  | '"' :: rest => readEscaped? rest
  | _ => none

/-! ## One literal -/

theorem readEscaped?_quoteChar (c : Char) (s : Text) :
    readEscaped? (quoteChar c ++ s) = (readEscaped? s).map (Prod.map (c :: ·) id) := by
  rcases quoteChar_cases c with ⟨rfl, hc⟩ | ⟨rfl, hc⟩ | ⟨hslash, hquote, hc⟩
  · rw [hc]
    rfl
  · rw [hc]
    rfl
  · rw [hc, List.singleton_append, readEscaped?.eq_def]
    simp [hslash]

/-- Escaped text is read back, and the reading stops at the quote that ends it. -/
theorem readEscaped?_escaped (t rest : Text) :
    readEscaped? (escaped t ++ '"' :: rest) = some (t, rest) := by
  induction t with
  | nil => rfl
  | cons c t ih =>
    rw [escaped_cons, List.append_assoc, readEscaped?_quoteChar, ih]
    rfl

theorem exists_of_map_cons {read : Option (Text × Text)} {c : Char} {t rest : Text}
    (h : read.map (Prod.map (c :: ·) id) = some (t, rest)) :
    ∃ t', t = c :: t' ∧ read = some (t', rest) := by
  obtain ⟨⟨t', rest'⟩, hread, heq⟩ := Option.map_eq_some_iff.mp h
  obtain ⟨rfl, rfl⟩ := Prod.mk.inj heq
  exact ⟨t', rfl, hread⟩

/-- What was read is written back as it stood. -/
theorem eq_of_readEscaped? {s t rest : Text} (h : readEscaped? s = some (t, rest)) :
    s = escaped t ++ '"' :: rest := by
  fun_induction readEscaped? s generalizing t rest with
  | case1 => cases h
  | case2 after =>
    obtain ⟨rfl, rfl⟩ := Prod.mk.inj (Option.some.inj h)
    rfl
  | case3 s ih =>
    obtain ⟨t, rfl, hread⟩ := exists_of_map_cons h
    rw [ih hread]
    rfl
  | case4 s ih =>
    obtain ⟨t, rfl, hread⟩ := exists_of_map_cons h
    rw [ih hread]
    rfl
  | case5 => cases h
  | case6 c s hquote _ _ hslash ih =>
    obtain ⟨t, rfl, hread⟩ := exists_of_map_cons h
    rw [ih hread, escaped_cons, quoteChar_of_ne hslash hquote]
    rfl

/-- A text has one string literal, and the literal has one reading. -/
theorem readQuoted?_eq_some_iff {s t rest : Text} :
    readQuoted? s = some (t, rest) ↔ s = quote t ++ rest := by
  constructor
  · intro h
    unfold readQuoted? at h
    split at h
    · next s =>
      rw [eq_of_readEscaped? h, quote_eq]
      simp
    · cases h
  · rintro rfl
    have hread := readEscaped?_escaped t rest
    simpa [readQuoted?, quote_eq] using hread

/-! ## The literals of an array -/

theorem length_lt_of_readQuoted? {s t rest : Text} (h : readQuoted? s = some (t, rest)) :
    rest.length < s.length := by
  rw [readQuoted?_eq_some_iff.mp h, quote_eq]
  simp only [List.cons_append, List.length_cons, List.length_append, List.length_nil]
  omega

/-- Read string literals, each behind a comma and a space, up to the brace that ends the text. -/
def readListed? (s : Text) : Option (List Text) :=
  match s with
  | ['}'] => some []
  | ',' :: ' ' :: s =>
    match _h : readQuoted? s with
    | some (t, rest) => (readListed? rest).map (t :: ·)
    | none => none
  | _ => none
termination_by s.length
decreasing_by
  have hlt := length_lt_of_readQuoted? (by assumption)
  simp only [List.length_cons]
  omega

def readTexts? (s : Text) : Option (List Text) :=
  match Text.afterStart? "new String[]\x7b".toList s with
  -- With a separator put before it, the first literal is read like the others.
  | some body => if body = ['}'] then some [] else readListed? (',' :: ' ' :: body)
  | none => none

def ofTexts (ts : List Text) : Text :=
  arrayOf "String".toList (Text.join ", " (ts.map quote))

/-- Literals as they are listed behind the first one, up to the closing brace. -/
def listed (ts : List Text) : Text := ts.flatMap (fun t => ',' :: ' ' :: quote t) ++ ['}']

theorem listed_cons (t : Text) (ts : List Text) :
    listed (t :: ts) = ',' :: ' ' :: (quote t ++ listed ts) := by
  simp [listed]

theorem readListed?_listed (ts : List Text) : readListed? (listed ts) = some ts := by
  induction ts with
  | nil => rw [listed, List.flatMap_nil, List.nil_append, readListed?]
  | cons t ts ih =>
    have hread : readQuoted? (quote t ++ listed ts) = some (t, listed ts) :=
      readQuoted?_eq_some_iff.mpr rfl
    rw [listed_cons, readListed?]
    split
    · next t' rest h =>
      obtain ⟨rfl, rfl⟩ := Prod.mk.inj (Option.some.inj (hread.symm.trans h))
      rw [ih]
      rfl
    · next h =>
      rw [hread] at h
      cases h

theorem eq_of_readListed? {s : Text} {ts : List Text} (h : readListed? s = some ts) :
    s = listed ts := by
  fun_induction readListed? s generalizing ts with
  | case1 =>
    obtain rfl := Option.some.inj h
    rfl
  | case2 s t rest hread ih =>
    obtain ⟨ts, hrest, rfl⟩ := Option.map_eq_some_iff.mp h
    rw [listed_cons, ← ih hrest, readQuoted?_eq_some_iff.mp hread]
  | case3 => cases h
  | case4 => cases h

theorem join_quotes_cons (t : Text) (ts : List Text) :
    ',' :: ' ' :: (Text.join ", " ((t :: ts).map quote) ++ ['}']) = listed (t :: ts) := by
  induction ts generalizing t with
  | nil => simp [Text.join_singleton, listed]
  | cons u ts ih =>
    rw [listed_cons, ← ih u, List.map_cons, List.map_cons, Text.join_cons_cons]
    simp

theorem ofTexts_eq (ts : List Text) :
    ofTexts ts = "new String[]\x7b".toList ++ (Text.join ", " (ts.map quote) ++ ['}']) := by
  have hopening : "new String[]\x7b".toList =
      "new ".toList ++ "String".toList ++ "[]\x7b".toList := by decide
  rw [hopening]
  exact List.append_assoc _ _ _

theorem readTexts?_ofTexts (ts : List Text) : readTexts? (ofTexts ts) = some ts := by
  have hbody : Text.afterStart? "new String[]\x7b".toList (ofTexts ts) =
      some (Text.join ", " (ts.map quote) ++ ['}']) :=
    Text.afterStart?_eq_some_iff.mpr (ofTexts_eq ts).symm
  simp only [readTexts?, hbody]
  cases ts with
  | nil => rfl
  | cons t ts =>
    have hlisted := join_quotes_cons t ts
    have hne : Text.join ", " ((t :: ts).map quote) ++ ['}'] ≠ ['}'] := by
      intro heq
      rw [heq, listed_cons, quote_eq] at hlisted
      simp at hlisted
    rw [if_neg hne, hlisted, readListed?_listed]

theorem eq_of_readTexts? {s : Text} {ts : List Text} (h : readTexts? s = some ts) :
    s = ofTexts ts := by
  rw [readTexts?] at h
  split at h
  · next body hbody =>
    rw [← Text.append_of_afterStart? hbody, ofTexts_eq]
    split at h
    · next hempty =>
      obtain rfl := Option.some.inj h
      rw [hempty]
      rfl
    · have hlisted := eq_of_readListed? h
      cases ts with
      | nil => cases hlisted
      | cons t ts =>
        rw [← join_quotes_cons] at hlisted
        simpa using hlisted
  · cases h

/-! ## Texts that cannot break out -/

def substitute (c : Char) (replacement t : Text) : Text :=
  t.flatMap fun d => if d = c then replacement else [d]

/-- Escaping is two passes, one for each character, the backslashes first: the second pass then
leaves the doubled backslashes alone. -/
theorem escaped_eq_substitute (t : Text) :
    escaped t = substitute '"' ['\\', '"'] (substitute '\\' ['\\', '\\'] t) := by
  rw [substitute, substitute, List.flatMap_assoc, escaped]
  apply List.flatMap_congr
  intro c _
  rcases quoteChar_cases c with ⟨rfl, hc⟩ | ⟨rfl, hc⟩ | ⟨hslash, hquote, hc⟩
  · rw [hc]
    rfl
  · rw [hc]
    rfl
  · simp [hc, hslash, hquote]

/-- With the quotes first, the backslash before a quote is doubled and the quote ends the
literal. -/
example : readQuoted? ('"' :: substitute '\\' ['\\', '\\'] (substitute '"' ['\\', '"'] ['"'])
    ++ ['"']) = some (['\\'], ['"']) := by decide

/-- The texts that a comma-separated list is taken to hold. -/
def textsOf (inner : Text) : List Text :=
  if Text.allBlank inner then []
  else (inner.splitOn ',').map fun element => unquote (Text.trim element)

theorem textArray_eq_ofTexts (inner : Text) : textArray inner = ofTexts (textsOf inner) := by
  rw [textArray, textsOf, ofTexts]
  split
  · rfl
  · rw [List.map_map]
    rfl

theorem quote_injective : Function.Injective quote := by
  intro s t heq
  have hs : readQuoted? (quote s) = some (s, []) :=
    readQuoted?_eq_some_iff.mpr (List.append_nil _).symm
  have ht : readQuoted? (quote s) = some (t, []) :=
    readQuoted?_eq_some_iff.mpr (by rw [heq, List.append_nil])
  exact congrArg Prod.fst (Option.some.inj (hs.symm.trans ht))

theorem ofTexts_injective : Function.Injective ofTexts := by
  intro ss ts heq
  have hread := readTexts?_ofTexts ss
  rw [heq, readTexts?_ofTexts] at hread
  exact (Option.some.inj hread).symm

/-- A text cannot break out of its literal. The literal is the text between quotes, its
backslashes doubled and then its quotes escaped. Read from behind its first character, it gives
the text back and ends at the first quote that is not escaped; and only the literal of a text
reads as that text. So different texts have different literals, and the texts of an array literal
are the only ones it can be read as, in their order. -/
theorem quote_read_back :
    (∀ t, quote t =
      '"' :: substitute '"' ['\\', '"'] (substitute '\\' ['\\', '\\'] t) ++ ['"']) ∧
    (∀ t, ∃ body, quote t = '"' :: body ∧ readEscaped? body = some (t, [])) ∧
    (∀ s t rest, readQuoted? s = some (t, rest) ↔ s = quote t ++ rest) ∧
    Function.Injective quote ∧
    (∀ s ts, readTexts? s = some ts ↔ s = ofTexts ts) ∧
    Function.Injective ofTexts ∧
    ∀ inner, readTexts? (textArray inner) = some (textsOf inner) := by
  refine ⟨?_, ?_, fun s t rest => readQuoted?_eq_some_iff, quote_injective, ?_,
    ofTexts_injective, ?_⟩
  · intro t
    rw [quote_eq, escaped_eq_substitute]
  · intro t
    exact ⟨escaped t ++ ['"'], rfl, readEscaped?_escaped t []⟩
  · intro s ts
    constructor
    · exact eq_of_readTexts?
    · rintro rfl
      exact readTexts?_ofTexts ts
  · intro inner
    rw [textArray_eq_ofTexts, readTexts?_ofTexts]

end FailureReplay.Literal
