import FailureReplay.Proofs.Argument
import FailureReplay.Proofs.Literal.Quote
import FailureReplay.Proofs.Payload.Division

/-!
# Texts as arguments

String literals joined in a payload go through two steps on the way to an argument,
and each can change them. Brackets and braces are counted inside quotes too, so a
text that leaves one open swallows the literals after it. And a token keeps the
escapes of its literal when its quotes come off, so they are escaped a second time.
The payloads that are left as they are turn out to be exactly those without such a
text.
-/

namespace FailureReplay

open Literal (quote unquote quoteChar)

namespace Payload

/-! ## Literals under the reader -/

/-- Between quotes nothing separates, and a character moves the nesting as it does anywhere. -/
theorem Context.after_quoteChar {x : Context} (hquoted : x.quoted = true)
    (hescaped : x.escaped = false) (c : Char) :
    x.Unbroken (quoteChar c) ∧
      x.after (quoteChar c) =
        ⟨openBrackets x.brackets [c], openBraces x.braces [c], true, false⟩ := by
  rcases Literal.quoteChar_cases c with ⟨rfl, hc⟩ | ⟨rfl, hc⟩ | ⟨hslash, hquote, hc⟩
  · simp [hc, Unbroken, separates, step, hquoted, hescaped, openBrackets, openBraces]
  · simp [hc, Unbroken, separates, step, hquoted, hescaped, openBrackets, openBraces]
  · simp [hc, Unbroken, separates, step, hquoted, hslash, hquote, openBrackets, openBraces]

/-- Inside quotes the scan still counts the brackets and braces of a text. -/
theorem Context.after_escaped {x : Context} (hquoted : x.quoted = true)
    (hescaped : x.escaped = false) (t : Text) :
    x.Unbroken (Literal.escaped t) ∧
      x.after (Literal.escaped t) =
        ⟨openBrackets x.brackets t, openBraces x.braces t, true, false⟩ := by
  induction t generalizing x with
  | nil =>
    refine ⟨trivial, ?_⟩
    rw [← hquoted, ← hescaped]
    rfl
  | cons c t ih =>
    obtain ⟨hunbroken, hafter⟩ := after_quoteChar hquoted hescaped c
    have hrest := ih (x := x.after (quoteChar c)) (by rw [hafter]) (by rw [hafter])
    rw [Literal.escaped_cons, unbroken_append, after_append]
    refine ⟨⟨hunbroken, hrest.1⟩, ?_⟩
    rw [hrest.2, hafter]
    rfl

theorem Context.after_quote (t : Text) :
    Context.empty.Unbroken (quote t) ∧
      Context.empty.after (quote t) = ⟨openBrackets 0 t, openBraces 0 t, false, false⟩ := by
  obtain ⟨hunbroken, hafter⟩ := after_escaped (x := Context.empty.step '"') rfl rfl t
  rw [Literal.quote_eq, List.cons_append]
  simp only [Unbroken, unbroken_append, after_cons, after_append, after_nil, hafter]
  refine ⟨⟨by decide, hunbroken, by simp [separates], trivial⟩, ?_⟩
  simp [step, empty]

/-- The text closes every bracket and brace that it opens. -/
def ClosesNesting (t : Text) : Prop := openBrackets 0 t = 0 ∧ openBraces 0 t = 0

instance (t : Text) : Decidable (ClosesNesting t) :=
  inferInstanceAs (Decidable (openBrackets 0 t = 0 ∧ openBraces 0 t = 0))

/-- The scan has left a quoted text for good exactly if the text closes what it opens. -/
theorem outside_after_quote_iff (t : Text) :
    (Context.empty.after (quote t)).Outside ↔ ClosesNesting t := by
  rw [(Context.after_quote t).2]
  exact ⟨fun h => ⟨h.brackets, h.braces⟩, fun h => ⟨h.1, h.2, rfl⟩⟩

theorem trim_quote (t : Text) : Text.trim (quote t) = quote t :=
  Text.trim_enclosing (by decide) (by decide) (Literal.escaped t)

theorem quote_ne_nil (t : Text) : quote t ≠ [] := List.cons_ne_nil _ _

/-- A text that closes what it opens can be told from its neighbours once it is quoted. -/
theorem isAtom_quote {t : Text} (h : ClosesNesting t) : IsAtom (quote t) where
  ne_nil := quote_ne_nil t
  trimmed := trim_quote t
  unbroken := (Context.after_quote t).1
  outside := (outside_after_quote_iff t).mpr h

/-! ## Joined literals -/

theorem trim_join_quotes (ts : List Text) :
    Text.trim (Text.join ", " (ts.map quote)) = Text.join ", " (ts.map quote) := by
  apply trim_join
  · intro q hq
    obtain ⟨t, -, rfl⟩ := List.mem_map.mp hq
    exact quote_ne_nil t
  · intro q hq
    obtain ⟨t, -, rfl⟩ := List.mem_map.mp hq
    exact trim_quote t

/-- Only the last text may leave a bracket or a brace open, since nothing follows it. -/
theorem tokens_join_quotes {ts : List Text} (h : ∀ t ∈ ts.dropLast, ClosesNesting t) :
    tokens (Text.join ", " (ts.map quote)) = ts.map quote := by
  rw [tokens, trim_join_quotes]
  rcases ts.eq_nil_or_concat with rfl | ⟨front, last, rfl⟩
  · rfl
  · rw [List.concat_eq_append, List.dropLast_concat] at h
    rw [List.concat_eq_append, List.map_append, List.map_singleton]
    refine tokensFrom_join_concat ?_ (quote_ne_nil last) (trim_quote last)
      (Context.after_quote last).1
    intro q hq
    obtain ⟨t, ht, rfl⟩ := List.mem_map.mp hq
    exact isAtom_quote (h t ht)

/-- What was collected goes into the next token, with what stands behind it. -/
theorem exists_tokensFrom_eq_cons {collected : Text} (hne : collected ≠ []) (x : Context)
    (rest : Text) :
    ∃ more others,
      tokensFrom x collected rest = Text.trim (collected.reverse ++ more) :: others := by
  induction rest generalizing x collected with
  | nil => exact ⟨[], [], by simp [tokensFrom, flush, hne]⟩
  | cons c rest ih =>
    by_cases hc : x.separates c = true
    · exact ⟨[], tokensFrom (x.step c) [] rest, by simp [tokensFrom, hc, flush, hne]⟩
    · obtain ⟨more, others, heq⟩ := ih (List.cons_ne_nil c collected) (x.step c)
      exact ⟨c :: more, others, by simpa [tokensFrom, hc] using heq⟩

/-- Behind a text that leaves its nesting open, the comma goes into the token. -/
theorem exists_longer_token {t : Text} (h : ¬ ClosesNesting t) (rest : Text) :
    ∃ token others, tokensFrom .empty [] (quote t ++ ',' :: rest) = token :: others ∧
      (quote t).length < token.length := by
  have hunbroken : Context.empty.Unbroken (quote t ++ [',']) := by
    rw [Context.unbroken_append]
    refine ⟨(Context.after_quote t).1, ?_, trivial⟩
    rw [← Bool.not_eq_true]
    intro hseparates
    exact h ((outside_after_quote_iff t).mp (Context.outside_of_separates hseparates).2)
  have hread := tokensFrom_unbroken_append hunbroken [] rest
  rw [List.append_assoc, List.singleton_append, List.append_nil] at hread
  have hne : (quote t ++ [',']).reverse ≠ [] := by simp
  obtain ⟨more, others, hfirst⟩ := exists_tokensFrom_eq_cons hne _ rest
  refine ⟨_, others, hread.trans hfirst, ?_⟩
  -- Trimming stops at the quote in front and does not reach the comma.
  have htrim : Text.trim (quote t ++ [',']) = quote t ++ [','] :=
    Text.trim_enclosing (by decide) (by decide) (Literal.escaped t ++ ['"'])
  have hkept := Text.isPrefix_trim_append (by simp) htrim more
  have hlength := hkept.length_le
  rw [List.length_append, List.length_singleton] at hlength
  rw [List.reverse_reverse]
  omega

/-- If a text before the last leaves its nesting open, some token is longer than the literal that
is due in its place. -/
theorem exists_swallowed {ts : List Text} (h : ¬ ∀ t ∈ ts.dropLast, ClosesNesting t) :
    ∃ (k : Nat) (t token : Text), ts[k]? = some t ∧
      (tokens (Text.join ", " (ts.map quote)))[k]? = some token ∧
      (quote t).length < token.length := by
  rw [tokens, trim_join_quotes]
  induction ts with
  | nil => simp at h
  | cons t ts ih =>
    cases ts with
    | nil => simp at h
    | cons s ts =>
      by_cases ht : ClosesNesting t
      · have hrest : ¬ ∀ u ∈ (s :: ts).dropLast, ClosesNesting u := by
          intro hall
          exact h (List.forall_mem_cons.mpr ⟨ht, hall⟩)
        obtain ⟨k, u, token, hu, htoken, hlong⟩ := ih hrest
        refine ⟨k + 1, u, token, hu, ?_, hlong⟩
        rw [List.map_cons, List.map_cons, tokensFrom_join_cons (isAtom_quote ht)]
        exact htoken
      · obtain ⟨token, others, heq, hlong⟩ :=
          exists_longer_token ht (' ' :: Text.join ", " ((s :: ts).map quote))
        refine ⟨0, t, token, rfl, ?_, hlong⟩
        have hjoin : Text.join ", " ((t :: s :: ts).map quote) =
            quote t ++ ',' :: ' ' :: Text.join ", " ((s :: ts).map quote) :=
          Text.join_cons_cons _ _ _ _
        rw [hjoin, heq]
        rfl

end Payload

namespace Argument

open Payload (ClosesNesting)

theorem encodeFrom_texts (placeholder : Text) (position n : Nat) (tokens : List Text) :
    encodeFrom placeholder position (List.replicate n .text) tokens =
      (tokens.take n).map fun token => ⟨quote (unquote token), none⟩ := by
  induction n generalizing position tokens with
  | zero => simp [encodeFrom]
  | succ n ih =>
    cases tokens with
    | nil => simp [encodeFrom, List.replicate_succ]
    | cons token tokens => simp [encodeFrom, List.replicate_succ, ih, encodeOne]

theorem literals_texts (placeholder : Text) (n : Nat) (payload : Text) :
    literals (encode placeholder (List.replicate n .text) payload) =
      ((Payload.tokens payload).take n).map fun token => quote (unquote token) := by
  rw [encode, encodeFrom_texts, literals, List.map_map]
  rfl

theorem warnings_texts (placeholder : Text) (n : Nat) (payload : Text) :
    warnings (encode placeholder (List.replicate n .text) payload) = [] := by
  rw [encode, encodeFrom_texts, warnings, List.filterMap_map]
  exact List.filterMap_eq_nil_iff.mpr fun _ _ => rfl

/-- Texts that close what they open get a literal each, but their escapes are escaped again. -/
theorem literals_join_quotes_of_closed {ts : List Text} (h : ∀ t ∈ ts.dropLast, ClosesNesting t)
    (placeholder : Text) :
    literals (encode placeholder (List.replicate ts.length .text) (Text.join ", " (ts.map quote))) =
      ts.map fun t => quote (unquote (quote t)) := by
  rw [literals_texts, Payload.tokens_join_quotes h, List.take_of_length_le (by simp), List.map_map]
  rfl

/-- A swallowed literal does not come back in the encoding. -/
theorem closes_of_literals_join_quotes {ts : List Text} {placeholder : Text}
    (h : literals (encode placeholder (List.replicate ts.length .text)
      (Text.join ", " (ts.map quote))) = ts.map quote) :
    ∀ t ∈ ts.dropLast, ClosesNesting t := by
  by_contra hopen
  obtain ⟨k, t, token, ht, htoken, hlong⟩ := Payload.exists_swallowed hopen
  have hk : k < ts.length := (List.getElem?_eq_some_iff.mp ht).1
  have hliteral := congrArg (·[k]?) h
  simp only [literals_texts, List.getElem?_map, List.getElem?_take_of_lt hk, htoken, ht,
    Option.map_some, Option.some.injEq] at hliteral
  have hgrown := Literal.length_le_quote_unquote token
  rw [hliteral] at hgrown
  omega

/-- The string literals of texts, joined in a payload, are split at their own ends exactly if no
text before the last leaves a bracket or brace open. They are encoded as they are exactly if,
besides, no text holds a backslash or a quote. There is no warning in any case. -/
theorem quoted_texts_kept_iff (placeholder : Text) (ts : List Text) :
    (Payload.tokens (Text.join ", " (ts.map quote)) = ts.map quote ↔
        ∀ t ∈ ts.dropLast, ClosesNesting t) ∧
      (literals (encode placeholder (List.replicate ts.length .text)
            (Text.join ", " (ts.map quote))) = ts.map quote ↔
        (∀ t ∈ ts.dropLast, ClosesNesting t) ∧ ∀ t ∈ ts, '\\' ∉ t ∧ '"' ∉ t) ∧
      warnings (encode placeholder (List.replicate ts.length .text)
        (Text.join ", " (ts.map quote))) = [] := by
  refine ⟨⟨?_, Payload.tokens_join_quotes⟩, ⟨?_, ?_⟩, warnings_texts _ _ _⟩
  · intro heq
    by_contra hopen
    obtain ⟨k, t, token, ht, htoken, hlong⟩ := Payload.exists_swallowed hopen
    rw [heq, List.getElem?_map, ht] at htoken
    obtain rfl := Option.some.inj htoken
    exact absurd hlong (Nat.lt_irrefl _)
  · intro heq
    have hclosed := closes_of_literals_join_quotes heq
    refine ⟨hclosed, fun t ht => ?_⟩
    rw [literals_join_quotes_of_closed hclosed] at heq
    exact (Literal.quote_unquote_quote_iff t).mp (List.map_inj_left.mp heq t ht)
  · rintro ⟨hclosed, hplain⟩
    rw [literals_join_quotes_of_closed hclosed]
    exact List.map_congr_left fun t ht => (Literal.quote_unquote_quote_iff t).mpr (hplain t ht)

/-- A bracket between quotes hides the comma behind them, and an escaped quote is escaped again. -/
theorem quoted_texts_changed :
    ["[".toList, "b".toList].map quote = ["\"[\"".toList, "\"b\"".toList] ∧
      Payload.tokens "\"[\", \"b\"".toList = ["\"[\", \"b\"".toList] ∧
      literals (encode "x".toList [.text, .text] "\"[\", \"b\"".toList) =
        ["\"[\\\", \\\"b\"".toList] ∧
      quote "a\"b".toList = "\"a\\\"b\"".toList ∧
      literals (encode "x".toList [.text] "\"a\\\"b\"".toList) =
        ["\"a\\\\\\\"b\"".toList] ∧
      ¬ ∀ (placeholder : Text) (ts : List Text), (∀ t ∈ ts, '\n' ∉ t ∧ '\r' ∉ t) →
        Payload.tokens (Text.join ", " (ts.map quote)) = ts.map quote ∧
          literals (encode placeholder (List.replicate ts.length .text)
            (Text.join ", " (ts.map quote))) = ts.map quote := by
  refine ⟨by decide +kernel, by decide +kernel, by decide +kernel, by decide +kernel,
    by decide +kernel, ?_⟩
  intro h
  have htokens := (h [] ["[".toList, "b".toList] (by decide)).1
  revert htokens
  decide +kernel

end Argument
end FailureReplay
