import FailureReplay.Proofs.Numeral
import FailureReplay.Proofs.Text.Words

/-!
# Strings of a harness

The string operations that the decoders of a harness call, and the denotation of a
string literal, each by its documented rule: `trim` drops control characters and
spaces, `split` drops empty pieces at the end, and a number out of range is no
number. Texts are taken to be ASCII, one unit for each character. On printable
texts these operations agree with the ones the library decodes literals with.
-/

namespace FailureReplay.Harness

/-- Why a method of the harness gives no result. -/
inductive Exception where
  | numberFormat
  | indexOutOfBounds
  deriving DecidableEq, Repr

namespace Strings

/-- The characters that `trim` drops. -/
def isTrimmed (c : Char) : Bool := c.toNat ≤ 0x20

def trim (s : Text) : Text := (s.dropWhile isTrimmed).rdropWhile isTrimmed

def substring (s : Text) (start stop : Int) : Except Exception Text :=
  if 0 ≤ start ∧ start ≤ stop ∧ stop ≤ s.length then
    .ok ((s.take stop.toNat).drop start.toNat)
  else .error .indexOutOfBounds

/-- The characters that the pattern `\s` stands for. -/
def isSpace (c : Char) : Bool := c ∈ [' ', '\t', '\n', '\x0b', '\x0c', '\r']

/-- The pieces of a text between maximal runs of characters in `p`; a run at either end leaves an
empty piece. -/
def pieces (p : Char → Bool) : Text → List Text
  | [] => [[]]
  | c :: rest =>
    if p c then
      if rest.head?.any p then pieces p rest else [] :: pieces p rest
    else (pieces p rest).modifyHead (c :: ·)

/-- `s.split("\\s+")` -/
def splitSpaces (s : Text) : List Text :=
  if s.any isSpace then (pieces isSpace s).rdropWhile List.isEmpty else [s]

/-- `s.split(",")` -/
def splitCommas (s : Text) : List Text :=
  if ',' ∈ s then (s.splitOn ',').rdropWhile List.isEmpty else [s]

/-- The value of a run of digits with a sign before it, if it fits 32 bits. -/
def signedValue (negative : Bool) (digits : Text) : Except Exception Int32 :=
  let value : Int := if negative then -Nat.ofDigitChars 10 digits 0 else Nat.ofDigitChars 10 digits 0
  if digits ≠ [] ∧ digits.all Char.isDigit ∧ -2147483648 ≤ value ∧ value ≤ 2147483647 then
    .ok (Int32.ofInt value)
  else .error .numberFormat

/-- `Integer.parseInt(s)` -/
def parseInt : Text → Except Exception Int32
  | '-' :: digits => signedValue true digits
  | '+' :: digits => signedValue false digits
  | digits => signedValue false digits

/-- The character that an escape in a string literal stands for; numeric escapes are not read. -/
def escape? : Char → Option Char
  | 'b' => some '\x08'
  | 't' => some '\t'
  | 'n' => some '\n'
  | 'f' => some '\x0c'
  | 'r' => some '\r'
  | '"' => some '"'
  | '\'' => some '\''
  | '\\' => some '\\'
  | _ => none

/-- The text that a string literal denotes, read after its opening quote, and what follows the
closing one. -/
def literalRest? : Text → Option (Text × Text)
  | [] => none
  | '"' :: rest => some ([], rest)
  | '\\' :: c :: rest => do
    let d ← escape? c
    let (t, after) ← literalRest? rest
    return (d :: t, after)
  | c :: rest =>
    if c = '\\' ∨ c = '\n' ∨ c = '\r' then none
    else (literalRest? rest).map fun (t, after) => (c :: t, after)

/-- The text that the string literal at the front of a text denotes, and what follows it. -/
def literal? : Text → Option (Text × Text)
  | '"' :: rest => literalRest? rest
  | _ => none

/-! ## Literals -/

theorem literal?_quoted {t : Text}
    (h : ∀ c ∈ t, c ≠ '"' ∧ c ≠ '\\' ∧ c ≠ '\n' ∧ c ≠ '\r') (after : Text) :
    literal? ('"' :: t ++ '"' :: after) = some (t, after) := by
  change literalRest? (t ++ '"' :: after) = some (t, after)
  induction t with
  | nil => rfl
  | cons c t ih =>
    obtain ⟨hquote, hescape, hfeed, hreturn⟩ := h c (by simp)
    rw [List.cons_append, literalRest?.eq_def]
    simp [hescape, hfeed, hreturn, ih fun d hd => h d (List.mem_cons_of_mem _ hd)]

/-! ## Numbers -/

theorem signedValue_digits {negative : Bool} {digits : Text} (hne : digits ≠ [])
    (hdigits : ∀ c ∈ digits, c.isDigit = true) {value : Int}
    (hvalue : value =
      if negative then -(Nat.ofDigitChars 10 digits 0 : Int) else Nat.ofDigitChars 10 digits 0)
    (hlow : Numeral.least ≤ value) (hhigh : value ≤ Numeral.greatest) :
    signedValue negative digits = .ok (Int32.ofInt value) := by
  have hall : digits.all Char.isDigit = true := List.all_eq_true.mpr hdigits
  simp only [signedValue, ← hvalue]
  rw [if_pos ⟨hne, hall, hlow, hhigh⟩]

/-- A numeral that the library reads is a number of the harness with the same value. -/
theorem parseInt_of_read {t : Text} {value : Int32} (h : Numeral.read t = .ok value) :
    parseInt t = .ok value := by
  obtain ⟨n, hread, rfl⟩ := Numeral.readInt_of_read h
  obtain ⟨digits, hne, hdigits, ⟨hshape, hvalue, hhigh⟩ | ⟨rfl, hvalue, hlow⟩⟩ :=
    Numeral.shape_of_readInt hread
  · have hlow : Numeral.least ≤ n := by
      rw [hvalue, Numeral.least]
      omega
    have hsigned : signedValue false digits = .ok (Int32.ofInt n) :=
      signedValue_digits hne hdigits hvalue hlow hhigh
    rcases hshape with rfl | rfl
    · obtain ⟨c, rest, rfl⟩ := List.exists_cons_of_ne_nil hne
      have hc : c.isDigit = true := hdigits c (by simp)
      have hminus : c ≠ '-' := by
        rintro rfl
        exact absurd hc (by decide)
      have hplus : c ≠ '+' := by
        rintro rfl
        exact absurd hc (by decide)
      rw [parseInt.eq_def]
      simpa [hminus, hplus] using hsigned
    · exact hsigned
  · have hhigh : n ≤ Numeral.greatest := by
      rw [hvalue, Numeral.greatest]
      omega
    exact signedValue_digits hne hdigits hvalue hlow hhigh

/-! ## Printable texts -/

/-- Printable ASCII characters and spaces only. -/
def Printable (t : Text) : Prop := ∀ c ∈ t, 0x20 ≤ c.toNat ∧ c.toNat < 0x7F

instance (t : Text) : Decidable (Printable t) :=
  decidable_of_iff (t.all fun c => 0x20 ≤ c.toNat && c.toNat < 0x7F) (by simp [Printable])

theorem Printable.subset {s t : Text} (ht : Printable t) (hs : s ⊆ t) : Printable s :=
  fun c hc => ht c (hs hc)

theorem Printable.of_enclosed {token inner : Text} {opening closing : Char} (h : Printable token)
    (htrim : Text.trim token = opening :: inner ++ [closing]) : Printable inner := by
  apply h.subset
  intro c hc
  apply (Text.trim_isInfix token).subset
  rw [htrim]
  simp [hc]

/-- On printable ASCII, the three notions of white space are one. -/
theorem classes_of_printable {c : Char} (hlow : 0x20 ≤ c.toNat) (hhigh : c.toNat < 0x7F) :
    isTrimmed c = Text.isBlank c ∧ isSpace c = Text.isBlank c ∧ c ≠ '\n' ∧ c ≠ '\r' := by
  have htable : ∀ n < 0x7F, 0x20 ≤ n →
      isTrimmed (Char.ofNat n) = Text.isBlank (Char.ofNat n) ∧
        isSpace (Char.ofNat n) = Text.isBlank (Char.ofNat n) ∧
        Char.ofNat n ≠ '\n' ∧ Char.ofNat n ≠ '\r' := by decide +kernel
  have h := htable c.toNat hhigh hlow
  rwa [Char.ofNat_toNat] at h

theorem dropWhile_congr {p q : Char → Bool} {t : Text} (h : ∀ c ∈ t, p c = q c) :
    t.dropWhile p = t.dropWhile q := by
  induction t with
  | nil => rfl
  | cons c t ih =>
    rw [List.dropWhile_cons, List.dropWhile_cons, h c (by simp),
      ih fun d hd => h d (List.mem_cons_of_mem _ hd)]

theorem Printable.trim_eq {t : Text} (h : Printable t) : trim t = Text.trim t := by
  have hsame : ∀ c ∈ t, isTrimmed c = Text.isBlank c :=
    fun c hc => (classes_of_printable (h c hc).1 (h c hc).2).1
  have hstart : t.dropWhile isTrimmed = Text.trimStart t := dropWhile_congr hsame
  have hend : ∀ c ∈ (Text.trimStart t).reverse, isTrimmed c = Text.isBlank c :=
    fun c hc => hsame c ((Text.trimStart_isSuffix t).subset (List.mem_reverse.mp hc))
  rw [trim, hstart, List.rdropWhile, dropWhile_congr hend]
  rfl

/-! ## Splitting -/

theorem rdropWhile_isEmpty_eq_self {ts : List Text} (h : ∀ t ∈ ts, t ≠ []) :
    ts.rdropWhile List.isEmpty = ts := by
  rw [List.rdropWhile_eq_self_iff]
  intro hne
  simpa using h _ (List.getLast_mem hne)

/-- The pieces of a text that ends in no blank are its words, behind an empty piece unless the
text opens with one of them. -/
theorem pieces_eq_words {t : Text} (hspace : ∀ c ∈ t, isSpace c = Text.isBlank c)
    (hlast : ∀ c ∈ t.getLast?, Text.isBlank c = false) :
    pieces isSpace t =
      if t.head?.all Text.isBlank then [] :: Text.words t else Text.words t := by
  induction t with
  | nil => rfl
  | cons c t ih =>
    have hc : isSpace c = Text.isBlank c := hspace c (by simp)
    cases t with
    | nil =>
      have hblank : Text.isBlank c = false := hlast c rfl
      simp [pieces, hc, hblank, Text.words]
    | cons d t =>
      have hd : isSpace d = Text.isBlank d := hspace d (by simp)
      have hrest := ih (fun e he => hspace e (List.mem_cons_of_mem _ he)) (by simpa using hlast)
      rw [pieces, hc, hrest]
      by_cases hblank : Text.isBlank c = true
      · rw [Text.words_cons_of_blank hblank]
        by_cases hblank' : Text.isBlank d = true <;> simp [hblank, hd, hblank']
      · have hvisible : Text.isBlank c = false := by simpa using hblank
        by_cases hblank' : Text.isBlank d = true
        · rw [Text.words_cons_cons_of_blank hvisible hblank']
          simp [hvisible, hblank']
        · -- The words of the rest open with the word that the first character joins.
          have hvisible' : Text.isBlank d = false := by simpa using hblank'
          obtain ⟨w, ws, hwords⟩ := Text.words_cons_visible hvisible' t
          simp [Text.words.eq_def (c :: d :: t), hvisible, hvisible', hwords]

/-- Splitting a trimmed text at its spaces gives its words. -/
theorem splitSpaces_eq_words {t : Text} (hspace : ∀ c ∈ t, isSpace c = Text.isBlank c)
    (hne : t ≠ []) (hfirst : ∀ c ∈ t.head?, Text.isBlank c = false)
    (hlast : ∀ c ∈ t.getLast?, Text.isBlank c = false) : splitSpaces t = Text.words t := by
  obtain ⟨c, rest, rfl⟩ := List.exists_cons_of_ne_nil hne
  have hc : Text.isBlank c = false := hfirst c rfl
  rw [splitSpaces]
  split
  · rw [pieces_eq_words hspace hlast]
    simp only [List.head?_cons, Option.all_some, hc, Bool.false_eq_true, if_false]
    exact rdropWhile_isEmpty_eq_self fun w hw => Text.ne_nil_of_mem_words hw
  · next hnone =>
    have htoken : Text.IsToken (c :: rest) := by
      refine ⟨hne, fun d hd => ?_⟩
      have hd' : ¬ isSpace d = true := fun h => hnone (List.any_eq_true.mpr ⟨d, hd, h⟩)
      simpa [hspace d hd] using hd'
    have hwords : Text.words (c :: rest ++ []) = [c :: rest] :=
      Text.words_token_append htoken (by simp)
    rw [List.append_nil] at hwords
    exact hwords.symm

/-- Without empty pieces, dropping the empty ones at the end makes no difference. -/
theorem splitCommas_eq_splitOn {t : Text} (h : ∀ piece ∈ t.splitOn ',', piece ≠ []) :
    splitCommas t = t.splitOn ',' := by
  rw [splitCommas]
  split
  · exact rdropWhile_isEmpty_eq_self h
  · next hcomma => exact (List.splitOn_eq_singleton hcomma).symm

end Strings
end FailureReplay.Harness
