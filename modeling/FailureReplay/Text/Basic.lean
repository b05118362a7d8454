/-!
# Texts

A text is a list of characters. This file holds the few list operations that
the whole library shares: reading a maximal run, replacing adjacent pairs, and
joining pieces.
-/

namespace FailureReplay

/-- Program text, report payloads and messages are all lists of characters. -/
abbrev Text := List Char

namespace Text

/-- The longest non-empty run of characters satisfying `p`, and what follows it. -/
def run? (p : Char → Bool) (t : Text) : Option (Text × Text) :=
  match t.takeWhile p with
  | [] => none
  | c :: run => some (c :: run, t.dropWhile p)

/-- Replace each adjacent pair `a b`, read left to right, by `replacement`. -/
def replacePair (a b : Char) (replacement : Text) : Text → Text
  | [] => []
  | [c] => [c]
  | c :: d :: rest =>
    if c = a ∧ d = b then replacement ++ replacePair a b replacement rest
    else c :: replacePair a b replacement (d :: rest)

def join (sep : String) (pieces : List Text) : Text :=
  List.intercalate sep.toList pieces

/-- Lines as one text, each ended by a line feed. -/
def unlines (ls : List Text) : Text := ls.flatMap fun line => line ++ ['\n']

/-- What follows `start`, if a text begins with it. -/
def afterStart? : (start : Text) → Text → Option Text
  | [], t => some t
  | c :: start, d :: t => if c = d then afterStart? start t else none
  | _ :: _, [] => none

/-- What precedes `ending`, if a text ends with it. -/
def beforeEnding? (ending t : Text) : Option Text :=
  (afterStart? ending.reverse t.reverse).map List.reverse

/-- The part of a text enclosed by `opening` and `closing`, when it is enclosed. -/
def enclosed? (opening closing : Char) : Text → Option Text
  | [] => none
  | c :: rest => if c = opening then beforeEnding? [closing] rest else none

/-- Decimal digits of a natural number, most significant first. -/
def decimal (n : Nat) : Text := Nat.toDigits 10 n

/-- The number of bytes that a text takes as UTF-8. -/
def byteSize (t : Text) : Nat := t.foldl (fun size c => size + c.utf8Size) 0

/-- Nothing is lost when a run is read off the front. -/
theorem run?_append {p : Char → Bool} {t run rest : Text} (h : run? p t = some (run, rest)) :
    run ++ rest = t := by
  unfold run? at h
  split at h
  · simp at h
  · next c r hr =>
    simp only [Option.some.injEq, Prod.mk.injEq] at h
    obtain ⟨rfl, rfl⟩ := h
    rw [← hr, List.takeWhile_append_dropWhile]

/-- A run that was read is not empty. -/
theorem run?_ne_nil {p : Char → Bool} {t run rest : Text} (h : run? p t = some (run, rest)) :
    run ≠ [] := by
  unfold run? at h
  split at h
  · simp at h
  · simp only [Option.some.injEq, Prod.mk.injEq] at h
    simp [← h.1]

/-- What follows a start is the rest of the text. -/
theorem append_of_afterStart? {start t rest : Text} (h : afterStart? start t = some rest) :
    start ++ rest = t := by
  induction start generalizing t with
  | nil =>
    simp only [afterStart?, Option.some.injEq] at h
    simp [h]
  | cons c start ih =>
    cases t with
    | nil => simp [afterStart?] at h
    | cons d t =>
      by_cases hcd : c = d
      · simp only [afterStart?, hcd, if_true] at h
        rw [List.cons_append, ih h, hcd]
      · simp [afterStart?, hcd] at h

/-- What precedes an ending is the rest of the text. -/
theorem append_of_beforeEnding? {ending t rest : Text} (h : beforeEnding? ending t = some rest) :
    rest ++ ending = t := by
  simp only [beforeEnding?, Option.map_eq_some_iff] at h
  obtain ⟨r, hr, rfl⟩ := h
  have := congrArg List.reverse (append_of_afterStart? hr)
  simpa using this

end Text
end FailureReplay
