import FailureReplay.Proofs.Header
import FailureReplay.Proofs.Json.Grammar

/-!
# Reading what the grammar spells

The reader takes a spelled value off the front of a text and leaves what follows,
as long as that cannot go on with a number. A value of `n` characters needs at most
`2 * n` steps, so the fuel that the whole text is read with is always enough.
-/

namespace FailureReplay.Json

/-! ## White space -/

theorem skipSpace_append {gap : Text} (hgap : IsSpace gap) (t : Text) :
    skipSpace (gap ++ t) = skipSpace t := by
  induction gap with
  | nil => rfl
  | cons c gap ih =>
    have hc : isSpace c = true := hgap c (by simp)
    rw [List.cons_append, skipSpace, List.dropWhile_cons_of_pos hc]
    exact ih fun d hd => hgap d (List.mem_cons_of_mem _ hd)

theorem skipSpace_cons {c : Char} (hc : isSpace c = false) (t : Text) :
    skipSpace (c :: t) = c :: t :=
  List.dropWhile_cons_of_neg (by simp [hc])

theorem skipSpace_skipSpace (t : Text) : skipSpace (skipSpace t) = skipSpace t :=
  List.dropWhile_idempotent _ t

/-- What may follow a value. -/
def Follows (rest : Text) : Prop := ∀ c ∈ rest.head?, c ∈ [' ', '\t', '\n', '\r', ',', ']', '}']

theorem Follows.ends_number {rest : Text} (h : Follows rest) :
    ∀ c ∈ rest.head?, c.isDigit = false ∧ c ≠ '.' ∧ c ≠ 'e' ∧ c ≠ 'E' := by
  have htable : [' ', '\t', '\n', '\r', ',', ']', '}'].all
      (fun c => !c.isDigit && (c != '.' && (c != 'e' && c != 'E'))) = true := by decide
  intro c hc
  simpa using List.all_eq_true.mp htable c (h c hc)

theorem Follows.space_append {gap rest : Text} (hgap : IsSpace gap) (h : Follows rest) :
    Follows (gap ++ rest) := by
  cases gap with
  | nil => exact h
  | cons c gap =>
    intro d hd
    obtain rfl : c = d := Option.some.inj hd
    have hc := hgap c (by simp)
    simp only [isSpace, Bool.or_eq_true, decide_eq_true_eq] at hc
    rcases hc with ((rfl | rfl) | rfl) | rfl <;> simp

/-! ## Strings -/

theorem simpleEscape?_of_mem {e c : Char} (h : (e, c) ∈ escapes) :
    simpleEscape? e = some c := by
  have htable : ∀ p ∈ escapes, simpleEscape? p.1 = some p.2 := by decide
  exact htable (e, c) h

theorem readUnits?_plain {c : Char} (visible : 0x20 ≤ c.toNat) (unquoted : c ≠ '"')
    (unescaped : c ≠ '\\') (t : Text) :
    readUnits? (c :: t) = (readUnits? t).map fun p => (.char c :: p.1, p.2) := by
  have hvisible : ¬ c.toNat < 0x20 := Nat.not_lt.mpr visible
  rw [readUnits?.eq_def]
  simp only [if_neg unquoted, if_neg hvisible, if_neg unescaped]
  cases readUnits? t <;> rfl

theorem readUnits?_escape {e c : Char} (h : simpleEscape? e = some c) (t : Text) :
    readUnits? ('\\' :: e :: t) = (readUnits? t).map fun p => (.char c :: p.1, p.2) := by
  have hne : e ≠ 'u' := by
    rintro rfl
    have hnone : simpleEscape? 'u' = none := by decide
    rw [hnone] at h
    cases h
  rw [readUnits?.eq_def]
  simp only [Char.reduceEq, Char.reduceToNat, Nat.reduceLT, if_false, if_true]
  split
  · next heq => exact absurd (List.cons.inj heq).1 hne
  · next heq =>
    obtain ⟨rfl, rfl⟩ := List.cons.inj heq
    rw [h]
    cases readUnits? t <;> rfl
  · next heq => cases heq

theorem readUnits?_code {a b c d : Char} {unit : Nat} (h : codeUnit? a b c d = some unit)
    (t : Text) :
    readUnits? ('\\' :: 'u' :: a :: b :: c :: d :: t) =
      (readUnits? t).map fun p => (.code unit :: p.1, p.2) := by
  rw [readUnits?.eq_def]
  simp only [Char.reduceEq, Char.reduceToNat, Nat.reduceLT, if_false, if_true, h]
  cases readUnits? t <;> rfl

/-- However the characters of a string are escaped, the same units are read. -/
theorem readUnits?_of_spells {units : List Unit16} {t : Text} (h : SpellsUnits units t)
    (rest : Text) : readUnits? (t ++ '"' :: rest) = some (units, rest) := by
  induction h with
  | nil => rw [List.nil_append, readUnits?.eq_def]; rfl
  | plain visible unquoted unescaped _ ih =>
    rw [List.cons_append, readUnits?_plain visible unquoted unescaped, ih]
    rfl
  | escape pair _ ih =>
    rw [List.cons_append, List.cons_append, readUnits?_escape (simpleEscape?_of_mem pair), ih]
    rfl
  | code digits _ ih =>
    simp only [List.cons_append]
    rw [readUnits?_code digits, ih]
    rfl

theorem readString?_of_spells {text : Option Text} {t : Text} (h : SpellsString text t) :
    ∃ body, t = '"' :: body ∧ ∀ rest, readString? (body ++ rest) = some (text, rest) := by
  cases h with
  | @quoted units body hbody =>
    refine ⟨body ++ ['"'], rfl, ?_⟩
    intro rest
    rw [readString?, List.append_assoc, List.singleton_append, readUnits?_of_spells hbody]
    rfl

/-! ## Numbers -/

theorem run?_digits {digits rest : Text} (h : IsDigits digits)
    (hrest : ∀ c ∈ rest.head?, c.isDigit = false) :
    Text.run? Char.isDigit (digits ++ rest) = some (digits, rest) :=
  Text.run?_eq_some_iff.mpr ⟨h.1, h.2, hrest, rfl⟩

theorem readWhole?_append {whole rest : Text} (h : IsWhole whole)
    (hrest : ∀ c ∈ rest.head?, c.isDigit = false) :
    readWhole? (whole ++ rest) = some (whole, rest) := by
  rcases h with rfl | ⟨hdigits, hhead⟩
  · rfl
  · have hrun := run?_digits hdigits hrest
    unfold readWhole?
    split
    · next heq =>
      obtain ⟨c, digits, rfl⟩ := List.exists_cons_of_ne_nil hdigits.1
      obtain ⟨rfl, -⟩ := List.cons.inj heq
      exact absurd rfl hhead
    · exact hrun

theorem readFraction?_append {digits f rest : Text} (h : SpellsFraction digits f)
    (hrest : ∀ c ∈ rest.head?, c.isDigit = false ∧ c ≠ '.') :
    readFraction? (f ++ rest) = some (digits, rest) := by
  cases h with
  | none =>
    unfold readFraction?
    split
    · next heq =>
      rw [List.nil_append] at heq
      exact absurd rfl (hrest '.' (by simp [heq])).2
    · rfl
  | point hdigits => exact run?_digits hdigits fun c hc => (hrest c hc).1

theorem readExponent?_mark {e : Char} (he : e = 'e' ∨ e = 'E') (t : Text) :
    readExponent? (e :: t) =
      match t with
      | '-' :: t => (Text.run? Char.isDigit t).map fun p => (-(digitsValue p.1 : Int), p.2)
      | '+' :: t => (Text.run? Char.isDigit t).map fun p => ((digitsValue p.1 : Int), p.2)
      | t => (Text.run? Char.isDigit t).map fun p => ((digitsValue p.1 : Int), p.2) := by
  rcases he with rfl | rfl <;> rfl

theorem readExponent?_append {exponent : Int} {x rest : Text} (h : SpellsExponent exponent x)
    (hrest : ∀ c ∈ rest.head?, c.isDigit = false ∧ c ≠ 'e' ∧ c ≠ 'E') :
    readExponent? (x ++ rest) = some (exponent, rest) := by
  have hend : ∀ c ∈ rest.head?, c.isDigit = false := fun c hc => (hrest c hc).1
  cases h with
  | none =>
    cases rest with
    | nil => rfl
    | cons c rest =>
      obtain ⟨-, hlower, hupper⟩ := hrest c rfl
      simp [readExponent?, hlower, hupper]
  | @plain e digits he hdigits =>
    have hrun := run?_digits hdigits hend
    obtain ⟨c, more, rfl⟩ := List.exists_cons_of_ne_nil hdigits.1
    have hdigit : c.isDigit = true := hdigits.2 c (by simp)
    rw [List.cons_append, readExponent?_mark he]
    split
    · next heq =>
      obtain ⟨rfl, -⟩ := List.cons.inj heq
      exact absurd hdigit (by decide)
    · next heq =>
      obtain ⟨rfl, -⟩ := List.cons.inj heq
      exact absurd hdigit (by decide)
    · rw [hrun]
      rfl
  | plus he hdigits =>
    rw [List.cons_append, readExponent?_mark he, List.cons_append]
    simp only [run?_digits hdigits hend]
    rfl
  | minus he hdigits =>
    rw [List.cons_append, readExponent?_mark he, List.cons_append]
    simp only [run?_digits hdigits hend]
    rfl

theorem readUnsigned?_of_spells {d : Decimal} {t rest : Text} (h : SpellsUnsigned d t)
    (hrest : Follows rest) : readUnsigned? (t ++ rest) = some (d, rest) := by
  cases h with
  | @parts whole fraction f x exponent hwhole hfraction hexponent =>
    have hends := hrest.ends_number
    have hx : ∀ c ∈ (x ++ rest).head?, c.isDigit = false ∧ c ≠ '.' := by
      cases hexponent with
      | none => exact fun c hc => ⟨(hends c hc).1, (hends c hc).2.1⟩
      | plain he _ | plus he _ | minus he _ =>
        intro c hc
        obtain rfl := Option.some.inj hc
        rcases he with rfl | rfl <;> decide
    have hf : ∀ c ∈ (f ++ (x ++ rest)).head?, c.isDigit = false := by
      cases hfraction with
      | none => exact fun c hc => (hx c hc).1
      | point _ =>
        intro c hc
        obtain rfl := Option.some.inj hc
        decide
    have hexponent' := readExponent?_append hexponent fun c hc =>
      ⟨(hends c hc).1, (hends c hc).2.2⟩
    rw [List.append_assoc, List.append_assoc, readUnsigned?, readWhole?_append hwhole hf]
    simp only [Option.bind_eq_bind, Option.bind_some]
    rw [readFraction?_append hfraction hx]
    simp only [Option.bind_some, hexponent']
    rfl

theorem head_unsigned {d : Decimal} {t : Text} (h : SpellsUnsigned d t) :
    ∃ c s, t = c :: s ∧ c.isDigit = true := by
  cases h with
  | @parts whole fraction f x exponent hwhole hfraction hexponent =>
    rcases hwhole with rfl | ⟨hdigits, -⟩
    · exact ⟨'0', _, rfl, by decide⟩
    · obtain ⟨c, digits, rfl⟩ := List.exists_cons_of_ne_nil hdigits.1
      exact ⟨c, _, rfl, hdigits.2 c (by simp)⟩

/-- A number ends where nothing that could continue it follows. -/
theorem readNumber?_of_spells {d : Decimal} {t rest : Text} (h : SpellsNumber d t)
    (hrest : Follows rest) : readNumber? (t ++ rest) = some (d, rest) := by
  cases h with
  | positive hunsigned =>
    have hread := readUnsigned?_of_spells hunsigned hrest
    obtain ⟨c, s, rfl, hdigit⟩ := head_unsigned hunsigned
    unfold readNumber?
    split
    · next heq =>
      obtain ⟨rfl, -⟩ := List.cons.inj heq
      exact absurd hdigit (by decide)
    · exact hread
  | negative hunsigned =>
    rw [List.cons_append, readNumber?, readUnsigned?_of_spells hunsigned hrest]
    rfl

/-! ## Values -/

theorem readValue?_succ (fuel : Nat) (t : Text) :
    readValue? (fuel + 1) t =
      match skipSpace t with
      | '"' :: rest => (readString? rest).map fun (text, rest) => (.string text, rest)
      | '[' :: rest =>
        match skipSpace rest with
        | ']' :: rest => some (.array [], rest)
        | rest => (readItems? fuel rest).map fun (items, rest) => (.array items, rest)
      | '{' :: rest =>
        match skipSpace rest with
        | '}' :: rest => some (.object [], rest)
        | rest => (readMembers? fuel rest).map fun (members, rest) => (.object members, rest)
      | 't' :: 'r' :: 'u' :: 'e' :: rest => some (.bool true, rest)
      | 'f' :: 'a' :: 'l' :: 's' :: 'e' :: rest => some (.bool false, rest)
      | 'n' :: 'u' :: 'l' :: 'l' :: rest => some (.null, rest)
      | rest => (readNumber? rest).map fun (value, rest) => (.number value, rest) :=
  rfl

theorem readItems?_succ (fuel : Nat) (t : Text) :
    readItems? (fuel + 1) t = (readValue? fuel t).bind fun (item, t) =>
      match skipSpace t with
      | ',' :: rest => (readItems? fuel rest).bind fun (items, rest) => some (item :: items, rest)
      | ']' :: rest => some ([item], rest)
      | _ => none :=
  rfl

theorem readMembers?_succ (fuel : Nat) (t : Text) :
    readMembers? (fuel + 1) t =
      match skipSpace t with
      | '"' :: rest => (readString? rest).bind fun (key, rest) =>
        match skipSpace rest with
        | ':' :: rest => (readValue? fuel rest).bind fun (value, rest) =>
          match skipSpace rest with
          | ',' :: rest => (readMembers? fuel rest).bind fun (members, rest) =>
            some ((key, value) :: members, rest)
          | '}' :: rest => some ([(key, value)], rest)
          | _ => none
        | _ => none
      | _ => none :=
  rfl

theorem not_space_of_isDigit {c : Char} (h : c.isDigit = true) : isSpace c = false ∧ c ≠ ']' := by
  constructor
  · by_contra hspace
    simp only [isSpace, Bool.not_eq_false, Bool.or_eq_true, decide_eq_true_eq] at hspace
    rcases hspace with ((rfl | rfl) | rfl) | rfl <;> exact absurd h (by decide)
  · rintro rfl
    exact absurd h (by decide)

theorem head_number {d : Decimal} {t : Text} (h : SpellsNumber d t) :
    ∃ c s, t = c :: s ∧ (c = '-' ∨ c.isDigit = true) := by
  cases h with
  | positive hunsigned =>
    obtain ⟨c, s, rfl, hdigit⟩ := head_unsigned hunsigned
    exact ⟨c, s, rfl, .inr hdigit⟩
  | negative _ => exact ⟨_, _, rfl, .inl rfl⟩

/-- A value begins with a visible character that does not close an array. -/
theorem head_of_spells {j : Json} {t : Text} (h : Spells j t) :
    ∃ c s, t = c :: s ∧ isSpace c = false ∧ c ≠ ']' := by
  cases h with
  | null | true | false | emptyArray _ | array _ | emptyObject _ | object _ =>
    exact ⟨_, _, rfl, by decide, by decide⟩
  | string hstring =>
    obtain ⟨body, rfl, -⟩ := readString?_of_spells hstring
    exact ⟨_, _, rfl, by decide, by decide⟩
  | number hnumber =>
    obtain ⟨c, s, rfl, rfl | hdigit⟩ := head_number hnumber
    · exact ⟨_, _, rfl, by decide, by decide⟩
    · exact ⟨c, s, rfl, not_space_of_isDigit hdigit⟩

theorem readValue?_number {fuel : Nat} {t s : Text} {c : Char} (hskip : skipSpace t = c :: s)
    (hc : c = '-' ∨ c.isDigit = true) :
    readValue? (fuel + 1) t = (readNumber? (c :: s)).map fun p => (.number p.1, p.2) := by
  have hother : ∀ d ∈ ['"', '[', '{', 't', 'f', 'n'], c ≠ d := by
    rintro d hd rfl
    have htable : ['"', '[', '{', 't', 'f', 'n'].all (fun d => d != '-' && !d.isDigit) = true := by
      decide
    obtain ⟨hminus, hdigit⟩ : c ≠ '-' ∧ c.isDigit = false := by
      simpa using List.all_eq_true.mp htable c hd
    rcases hc with rfl | hc
    · exact hminus rfl
    · rw [hc] at hdigit
      cases hdigit
  rw [readValue?_succ, hskip]
  split
  all_goals first
    | next heq => exact absurd (List.cons.inj heq).1 (hother _ (by simp))
    | rfl

theorem readValue?_skipSpace (fuel : Nat) (t : Text) :
    readValue? fuel (skipSpace t) = readValue? fuel t := by
  cases fuel with
  | zero => rfl
  | succ fuel => rw [readValue?_succ, readValue?_succ, skipSpace_skipSpace]

theorem readItems?_skipSpace (fuel : Nat) (t : Text) :
    readItems? fuel (skipSpace t) = readItems? fuel t := by
  cases fuel with
  | zero => rfl
  | succ fuel => rw [readItems?_succ, readItems?_succ, readValue?_skipSpace]

theorem readMembers?_skipSpace (fuel : Nat) (t : Text) :
    readMembers? fuel (skipSpace t) = readMembers? fuel t := by
  cases fuel with
  | zero => rfl
  | succ fuel => rw [readMembers?_succ, readMembers?_succ, skipSpace_skipSpace]

theorem readValue?_string {fuel : Nat} {t s : Text} (hskip : skipSpace t = '"' :: s) :
    readValue? (fuel + 1) t =
      (readString? s).map fun (text, rest) => (.string text, rest) := by
  rw [readValue?_succ, hskip]
  rfl

theorem readValue?_bracket {fuel : Nat} {t s : Text} (hskip : skipSpace t = '[' :: s) :
    readValue? (fuel + 1) t =
      match skipSpace s with
      | ']' :: rest => some (.array [], rest)
      | rest => (readItems? fuel rest).map fun (items, rest) => (.array items, rest) := by
  rw [readValue?_succ, hskip]
  rfl

theorem readValue?_brace {fuel : Nat} {t s : Text} (hskip : skipSpace t = '{' :: s) :
    readValue? (fuel + 1) t =
      match skipSpace s with
      | '}' :: rest => some (.object [], rest)
      | rest => (readMembers? fuel rest).map fun (members, rest) => (.object members, rest) := by
  rw [readValue?_succ, hskip]
  rfl

theorem readValue?_array {fuel : Nat} {t s : Text} (hskip : skipSpace t = '[' :: s)
    (hitems : ∀ rest, skipSpace s ≠ ']' :: rest) :
    readValue? (fuel + 1) t = (readItems? fuel s).map fun p => (.array p.1, p.2) := by
  rw [readValue?_bracket hskip]
  split
  · next heq => exact absurd heq (hitems _)
  · rw [readItems?_skipSpace]

theorem readValue?_object {fuel : Nat} {t s : Text} (hskip : skipSpace t = '{' :: s)
    (hmembers : ∀ rest, skipSpace s ≠ '}' :: rest) :
    readValue? (fuel + 1) t = (readMembers? fuel s).map fun p => (.object p.1, p.2) := by
  rw [readValue?_brace hskip]
  split
  · next heq => exact absurd heq (hmembers _)
  · rw [readMembers?_skipSpace]

theorem readItems?_last {fuel : Nat} {t after rest : Text} {j : Json}
    (hread : readValue? fuel t = some (j, after)) (hclose : skipSpace after = ']' :: rest) :
    readItems? (fuel + 1) t = some ([j], rest) := by
  rw [readItems?_succ, hread]
  simp [hclose]

theorem readItems?_more {fuel : Nat} {t after ts rest : Text} {j : Json} {items : List Json}
    (hread : readValue? fuel t = some (j, after)) (hcomma : skipSpace after = ',' :: ts)
    (hitems : readItems? fuel ts = some (items, rest)) :
    readItems? (fuel + 1) t = some (j :: items, rest) := by
  rw [readItems?_succ, hread]
  simp [hcomma, hitems]

theorem exists_body_of_key {before k : Text} {key : Option Text} (hbefore : IsSpace before)
    (hkey : SpellsString key k) :
    ∃ body, (∀ t, skipSpace (before ++ (k ++ t)) = '"' :: (body ++ t)) ∧
      ∀ t, readString? (body ++ t) = some (key, t) := by
  obtain ⟨body, rfl, hread⟩ := readString?_of_spells hkey
  have hquote : isSpace '"' = false := by decide
  refine ⟨body, ?_, hread⟩
  intro t
  rw [skipSpace_append hbefore, List.cons_append, skipSpace_cons hquote]

theorem skipSpace_colon {gap : Text} (hgap : IsSpace gap) (t : Text) :
    skipSpace (gap ++ ':' :: t) = ':' :: t := by
  rw [skipSpace_append hgap]
  exact skipSpace_cons (by decide) t

theorem readMembers?_last {fuel : Nat} {before k gap t after rest : Text} {key : Option Text}
    {j : Json} (hbefore : IsSpace before) (hkey : SpellsString key k) (hgap : IsSpace gap)
    (hread : readValue? fuel t = some (j, after)) (hclose : skipSpace after = '}' :: rest) :
    readMembers? (fuel + 1) (before ++ (k ++ (gap ++ ':' :: t))) = some ([(key, j)], rest) := by
  obtain ⟨body, hskip, hstring⟩ := exists_body_of_key hbefore hkey
  rw [readMembers?_succ, hskip]
  simp [hstring, skipSpace_colon hgap, hread, hclose]

theorem readMembers?_more {fuel : Nat} {before k gap t after ts rest : Text} {key : Option Text}
    {j : Json} {members : List (Option Text × Json)} (hbefore : IsSpace before)
    (hkey : SpellsString key k) (hgap : IsSpace gap)
    (hread : readValue? fuel t = some (j, after)) (hcomma : skipSpace after = ',' :: ts)
    (hmembers : readMembers? fuel ts = some (members, rest)) :
    readMembers? (fuel + 1) (before ++ (k ++ (gap ++ ':' :: t))) =
      some ((key, j) :: members, rest) := by
  obtain ⟨body, hskip, hstring⟩ := exists_body_of_key hbefore hkey
  rw [readMembers?_succ, hskip]
  simp [hstring, skipSpace_colon hgap, hread, hcomma, hmembers]

theorem skipSpace_items {items : List Json} {t : Text} (h : SpellsItems items t) (rest u : Text) :
    skipSpace (t ++ rest) ≠ ']' :: u := by
  have hdocument : ∀ {j s}, SpellsDocument j s → ∀ rest, skipSpace (s ++ rest) ≠ ']' :: u := by
    rintro j s ⟨hbefore, hvalue, hafter⟩ rest
    obtain ⟨c, s, rfl, hc, hne⟩ := head_of_spells hvalue
    rw [List.append_assoc, skipSpace_append hbefore, List.cons_append, List.cons_append,
      skipSpace_cons hc]
    exact fun heq => hne (List.cons.inj heq).1
  cases h with
  | last h => exact hdocument h rest
  | more h _ =>
    rw [List.append_assoc]
    exact hdocument h _

theorem skipSpace_members {members : List (Option Text × Json)} {t : Text}
    (h : SpellsMembers members t) (rest u : Text) : skipSpace (t ++ rest) ≠ '}' :: u := by
  have hkeyed : ∀ {before k : Text} {key : Option Text} (s : Text), IsSpace before →
      SpellsString key k → skipSpace (before ++ (k ++ s)) ≠ '}' :: u := by
    intro before k key s hbefore hkey
    obtain ⟨body, hskip, -⟩ := exists_body_of_key hbefore hkey
    rw [hskip]
    exact fun heq => absurd (List.cons.inj heq).1 (by decide)
  cases h with
  | last hbefore hkey _ _ =>
    rw [List.append_assoc, List.append_assoc]
    exact hkeyed _ hbefore hkey
  | more hbefore hkey _ _ _ =>
    simp only [List.append_assoc]
    exact hkeyed _ hbefore hkey

theorem follows_cons {c : Char} (hc : c ∈ [' ', '\t', '\n', '\r', ',', ']', '}']) (rest : Text) :
    Follows (c :: rest) := by
  intro d hd
  obtain rfl : c = d := Option.some.inj hd
  exact hc

-- By recursion on how the text is spelled. A value of `n` characters has fuel for `2 * n` steps,
-- and what stands between brackets is at least two characters shorter than the whole.
mutual

/-- Two steps of fuel for each character are enough for any value. -/
theorem readValue?_of_spells {j : Json} {t : Text} (h : Spells j t) {fuel : Nat}
    (hfuel : 2 * t.length ≤ fuel) {before rest : Text} (hbefore : IsSpace before)
    (hrest : Follows rest) : readValue? fuel (before ++ (t ++ rest)) = some (j, rest) := by
  obtain ⟨fuel, rfl⟩ : ∃ n, fuel = n + 1 := by
    obtain ⟨c, s, rfl, -⟩ := head_of_spells h
    rw [List.length_cons] at hfuel
    exact ⟨fuel - 1, by omega⟩
  have hskip : skipSpace (before ++ (t ++ rest)) = t ++ rest := by
    obtain ⟨c, s, rfl, hc, -⟩ := head_of_spells h
    rw [skipSpace_append hbefore, List.cons_append, skipSpace_cons hc]
  cases h with
  | null => rw [readValue?_succ, hskip]; rfl
  | true => rw [readValue?_succ, hskip]; rfl
  | false => rw [readValue?_succ, hskip]; rfl
  | number hnumber =>
    have hread := readNumber?_of_spells hnumber hrest
    obtain ⟨c, s, rfl, hc⟩ := head_number hnumber
    rw [List.cons_append] at hskip hread
    rw [List.cons_append, readValue?_number hskip hc, hread]
    rfl
  | string hstring =>
    obtain ⟨body, rfl, hread⟩ := readString?_of_spells hstring
    rw [readValue?_string (hskip.trans (List.cons_append ..)), hread]
    rfl
  | @emptyArray gap hgap =>
    simp only [List.cons_append, List.append_assoc, List.nil_append] at hskip ⊢
    rw [readValue?_bracket hskip, skipSpace_append hgap, skipSpace_cons (by decide)]
    rfl
  | @array items t hitems =>
    simp only [List.cons_append, List.length_cons, List.length_append, List.length_nil] at hfuel
    simp only [List.cons_append, List.append_assoc, List.nil_append] at hskip ⊢
    have hlength : 2 * t.length + 1 ≤ fuel := by omega
    rw [readValue?_array hskip (skipSpace_items hitems _),
      readItems?_of_spells hitems hlength rest]
    rfl
  | @emptyObject gap hgap =>
    simp only [List.cons_append, List.append_assoc, List.nil_append] at hskip ⊢
    rw [readValue?_brace hskip, skipSpace_append hgap, skipSpace_cons (by decide)]
    rfl
  | @object members t hmembers =>
    simp only [List.cons_append, List.length_cons, List.length_append, List.length_nil] at hfuel
    simp only [List.cons_append, List.append_assoc, List.nil_append] at hskip ⊢
    have hlength : 2 * t.length + 1 ≤ fuel := by omega
    rw [readValue?_object hskip (skipSpace_members hmembers _),
      readMembers?_of_spells hmembers hlength rest]
    rfl
termination_by 2 * t.length + 0

/-- White space around a value is passed over. -/
theorem readValue?_of_document {j : Json} {t : Text} (h : SpellsDocument j t) {fuel : Nat}
    (hfuel : 2 * t.length ≤ fuel) {rest : Text} (hrest : Follows rest) :
    ∃ after, readValue? fuel (t ++ rest) = some (j, after) ∧ skipSpace after = skipSpace rest := by
  cases h with
  | @padded j before t after hbefore hvalue hafter =>
    rw [List.length_append, List.length_append] at hfuel
    refine ⟨after ++ rest, ?_, skipSpace_append hafter rest⟩
    rw [List.append_assoc, List.append_assoc]
    exact readValue?_of_spells hvalue (by omega) hbefore (hrest.space_append hafter)
termination_by 2 * t.length + 1

theorem readItems?_of_spells {items : List Json} {t : Text} (h : SpellsItems items t) {fuel : Nat}
    (hfuel : 2 * t.length + 1 ≤ fuel) (rest : Text) :
    readItems? fuel (t ++ ']' :: rest) = some (items, rest) := by
  obtain ⟨fuel, rfl⟩ : ∃ n, fuel = n + 1 := ⟨fuel - 1, by omega⟩
  cases h with
  | last hdocument =>
    have hlength : 2 * t.length ≤ fuel := by omega
    obtain ⟨after, hread, hskip⟩ :=
      readValue?_of_document hdocument hlength (follows_cons (c := ']') (by decide) rest)
    exact readItems?_last hread (hskip.trans (skipSpace_cons (by decide) rest))
  | @more j items t ts hdocument hitems =>
    simp only [List.length_append, List.length_cons] at hfuel
    have hlength : 2 * t.length ≤ fuel := by omega
    have hlengths : 2 * ts.length + 1 ≤ fuel := by omega
    obtain ⟨after, hread, hskip⟩ := readValue?_of_document hdocument hlength
      (follows_cons (c := ',') (by decide) (ts ++ ']' :: rest))
    rw [List.append_assoc, List.cons_append]
    exact readItems?_more hread (hskip.trans (skipSpace_cons (by decide) _))
      (readItems?_of_spells hitems hlengths rest)
termination_by 2 * t.length + 2

theorem readMembers?_of_spells {members : List (Option Text × Json)} {t : Text}
    (h : SpellsMembers members t) {fuel : Nat} (hfuel : 2 * t.length + 1 ≤ fuel) (rest : Text) :
    readMembers? fuel (t ++ '}' :: rest) = some (members, rest) := by
  obtain ⟨fuel, rfl⟩ : ∃ n, fuel = n + 1 := ⟨fuel - 1, by omega⟩
  cases h with
  | @last key j before k gap t hbefore hkey hgap hdocument =>
    simp only [List.length_append, List.length_cons] at hfuel
    have hlength : 2 * t.length ≤ fuel := by omega
    obtain ⟨after, hread, hskip⟩ :=
      readValue?_of_document hdocument hlength (follows_cons (c := '}') (by decide) rest)
    simp only [List.append_assoc, List.cons_append]
    exact readMembers?_last hbefore hkey hgap hread
      (hskip.trans (skipSpace_cons (by decide) rest))
  | @more key j members before k gap t ts hbefore hkey hgap hdocument hmembers =>
    simp only [List.length_append, List.length_cons] at hfuel
    have hlength : 2 * t.length ≤ fuel := by omega
    have hlengths : 2 * ts.length + 1 ≤ fuel := by omega
    obtain ⟨after, hread, hskip⟩ := readValue?_of_document hdocument hlength
      (follows_cons (c := ',') (by decide) (ts ++ '}' :: rest))
    simp only [List.append_assoc, List.cons_append]
    exact readMembers?_more hbefore hkey hgap hread (hskip.trans (skipSpace_cons (by decide) _))
      (readMembers?_of_spells hmembers hlengths rest)
termination_by 2 * t.length + 2

end

/-- A text that spells a document is read as that document. -/
theorem read?_of_spells {j : Json} {t : Text} (h : SpellsDocument j t) : read? t = some j := by
  have hend : Follows [] := by simp [Follows]
  obtain ⟨after, hread, hskip⟩ := readValue?_of_document h (Nat.le_add_right _ 2) hend
  rw [List.append_nil] at hread
  rw [read?, hread]
  simp only [hskip]
  rfl

end FailureReplay.Json
